import ClaimSeal.Async
import ClaimSeal.Json.Parser
import ClaimSeal.Main
import ClaimSeal.Proofs.KeySigner.Reservation
import ClaimSeal.Proofs.KeySigner.Validity
import ClaimSeal.Proofs.KeySigner.Order
import ClaimSeal.Proofs.KeySigner.Refusals
import ClaimSeal.Proofs.KeySigner.Faults
import ClaimSeal.Proofs.Revocation
import ClaimSeal.Proofs.SizeCheck
import ClaimSeal.Proofs.Files
import ClaimSeal.Proofs.SignedFile
import ClaimSeal.Proofs.FileNames
import ClaimSeal.Proofs.CommandLine.Words
import ClaimSeal.Proofs.CommandLine.Values
import ClaimSeal.Proofs.CommandLine.Runs
import ClaimSeal.Proofs.Ascii
import ClaimSeal.Proofs.CommandLine.Outputs
import ClaimSeal.Proofs.RoundTrip
import ClaimSeal.Proofs.Workers.Simulation
import ClaimSeal.Proofs.Session
import ClaimSeal.Proofs.Objects
import ClaimSeal.Proofs.CommandLine.AlgorithmOption
import ClaimSeal.Proofs.KeySigner.Loading
import ClaimSeal.Proofs.KeySigner.Coordinates
import ClaimSeal.Proofs.CheckedSigning
import ClaimSeal.Proofs.Protocol
import ClaimSeal.Proofs.AlgorithmNames
import ClaimSeal.Proofs.PathForms
import ClaimSeal.Proofs.KeyUses
import ClaimSeal.Proofs.KeySigner.Stages
import ClaimSeal.Proofs.CredentialFiles
import ClaimSeal.Proofs.Records
import ClaimSeal.Proofs.Responses
import ClaimSeal.Proofs.Attaching
import ClaimSeal.Proofs.PublicLog
