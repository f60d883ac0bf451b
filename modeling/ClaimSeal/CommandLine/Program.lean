import ClaimSeal.CommandLine.Help
import ClaimSeal.Config

/-!
**The program.**

Two commands sign a claim in a file, one with a placeholder and one with a private key.  They write
the signature and, if asked to, its metadata; if the metadata cannot be written the signature is
removed again.  Log lines of the chosen level and above go to the error output.

Main definitions:

* `root`, `signGroup`, `placeholder`, `key` — the commands;
* `echoed` — what is printed of a text;
* `Job`, `jobOf` — what a command line asks for;
* `runOn`, `run` — what the program does.
-/

set_option autoImplicit false

namespace ClaimSeal

namespace CommandLine

/-! ### The commands -/

/-- The option that shows the help. -/
def helpFlag : Flag where
  names := [txt "-h", txt "--help"]
  role := .help
  help := txt "Show this message and exit."

/-- The option that shows the version. -/
def versionFlag : Flag where
  names := [txt "--version"]
  role := .version
  help := txt "Show the version and exit."

/-- The name of a level. -/
def levelName : Level → Text
  | .debug => txt "DEBUG"
  | .info => txt "INFO"
  | .warning => txt "WARNING"
  | .error => txt "ERROR"
  | .critical => txt "CRITICAL"

/-- All levels. -/
def levels : List Level := [.debug, .info, .warning, .error, .critical]

/-- The option that chooses the level of log lines. -/
def levelFlag : Flag where
  names := [txt "--log-level"]
  placeholder := txt "LEVEL"
  choices := levels.map levelName
  envName? := some (txt "CLAIM_SIGNING_LOG_LEVEL")
  default? := some (levelName .info)
  showsDefault := true
  help := txt "Set the logging level. This can also be set via the CLAIM_SIGNING_LOG_LEVEL env var."

/-- The option that says where the signature goes. -/
def signatureFlag : Flag where
  names := [txt "--signature"]
  placeholder := txt "SIGNATURE_PATH"
  default? := some (txt "claim.sig")
  help := txt "Location of the signature file to generate. Defaults to `claim.sig`."

/-- The option that says where the metadata goes. -/
def metadataFlag : Flag where
  names := [txt "--metadata"]
  placeholder := txt "METADATA_PATH"
  help := txt ("Optional location of a JSON file recording the signature, the "
    ++ "algorithm, the certificate chain and the reserved size.")

/-- The option that names the private key. -/
def privateKeyFlag : Flag where
  names := [txt "--private_key"]
  placeholder := txt "PRIVATE_KEY"
  isRequired := true
  help := txt "Path to the private key, as a PEM-encoded file."

/-- The option that names the certificates. -/
def certificateFlag : Flag where
  names := [txt "--signing_certificate"]
  placeholder := txt "CERTIFICATE_PATH"
  isRequired := true
  help := txt ("Path to the signing certificate, as a PEM-encoded file. It may "
    ++ "also contain the rest of the certificate chain.")

/-- The option that chooses the algorithm. -/
def algFlag : Flag where
  names := [txt "--alg"]
  choices := Algorithm.all.map Algorithm.name
  isRequired := true
  help := txt "The signing algorithm."

/-- The option that names a time authority. -/
def tsaFlag : Flag where
  names := [txt "--tsa_url"]
  placeholder := txt "URL"
  help := txt "URL of a timestamp authority to countersign the signature."

/-- The option that names a revocation response. -/
def ocspFlag : Flag where
  names := [txt "--ocsp_response"]
  placeholder := txt "OCSP_PATH"
  help := txt "Path to a DER-encoded OCSP response for the signing certificate."

/-- The option that gives the password of the key. -/
def passwordFlag : Flag where
  names := [txt "--password"]
  placeholder := txt "PASSWORD"
  help := txt "Password for the key encryption, if any"

/-- What the help of every signing command says about the files. -/
def filesParagraph : Text :=
  txt ("Signing the claim at CLAIM_PATH, produces the signature at SIGNATURE_PATH "
    ++ "(as per `--signature` option).")

/-- What the help of every group of commands says. -/
def detailsParagraph : Text :=
  txt "Use each subcommand's `--help` option for details on each mode."

/-- The command that signs with a placeholder. -/
def placeholder : Command where
  summary := txt "Sign using a placeholder signer."
  paragraphs := [filesParagraph,
    txt ("The signature is always the same invalid value and will never verify. Use "
      ++ "this to exercise manifest assembly before a real signer is available.")]
  flags := [signatureFlag, metadataFlag, helpFlag]
  argument? := some (txt "CLAIM_PATH")

/-- The command that signs with a private key. -/
def key : Command where
  summary := txt "Sign using a private key and its signing certificate."
  paragraphs := [filesParagraph,
    txt ("The algorithm must match the key: `es256`, `es384` and `es512` need an "
      ++ "elliptic curve key on the matching curve, `ps256`, `ps384` and `ps512` "
      ++ "need an RSA key and `ed25519` needs an Ed25519 key.")]
  flags := [signatureFlag, metadataFlag, privateKeyFlag, certificateFlag, algFlag, tsaFlag,
    ocspFlag, passwordFlag, helpFlag]
  argument? := some (txt "CLAIM_PATH")

/-- The command above the signing commands. -/
def signGroup : Command where
  summary := txt "Sign claims."
  paragraphs := [
    txt ("Produces a detached signature over a claim file. The claim is treated as an "
      ++ "opaque sequence of bytes."),
    txt "We support multiple signing methods, specified as subcommands.",
    detailsParagraph]
  flags := [helpFlag]
  below := [(txt "key", key.summary), (txt "placeholder", placeholder.summary)]
  belowPlaceholder := txt "SIGNING_METHOD"

/-- The program as a command. -/
def root : Command where
  summary := txt "Provenance claim signing."
  paragraphs := [detailsParagraph]
  flags := [versionFlag, levelFlag, helpFlag]
  below := [(txt "sign", signGroup.summary)]
  belowPlaceholder := txt "COMMAND [ARGS]..."

/-- The version of the program. -/
def programVersion : Text := txt "1.0.0"

/-! ### What is printed -/

/-- The code point that a sequence which controls a terminal starts with. -/
def escapePoint : CodePoint := CodePoint.ofNat 27

/-- A digit, a semicolon or a question mark: what may stand within such a sequence. -/
def isParameter (c : CodePoint) : Bool := c.isAsciiDigit || c = cp ';' || c = cp '?'

/-- What is printed of a text after `pending`, which starts a sequence that controls a terminal or
is empty.  Such a sequence has a bracket and parameters, and ends with a letter. -/
def echoedFrom (pending : Text) : Text → Text
  | [] => pending
  | c :: rest =>
      if c = escapePoint then pending ++ echoedFrom [c] rest
      else if pending = [escapePoint] && c = cp '[' || 1 < pending.length && isParameter c then
        echoedFrom (pending ++ [c]) rest
      else if 1 < pending.length && c.isAsciiLetter then echoedFrom [] rest
      else pending ++ c :: echoedFrom [] rest

/-- What is printed of a text where no terminal is: all but the sequences that control one. -/
def echoed (t : Text) : Text := echoedFrom [] t

/-! ### What a command line asks for -/

/-- What to print, where, and the exit code. -/
structure Report where
  exit : Nat
  out : Text
  err : Text
deriving DecidableEq, Repr

/-- The signer that a command line asks for. -/
inductive Method where
  | placeholder
  | key (o : KeyOptions)

/-- A claim to be signed, and where the results go. -/
structure Job where
  method : Method
  claim : Path
  signature : Path
  metadata : Option Path
  level : Level

/-- How a command line is called: the name of the program, the environment and the words. -/
structure Call where
  program : Text
  environment : List (Text × Text)
  words : List Text

/-- The value of a variable of the environment. -/
def Call.setting? (c : Call) (name : Text) : Option Text := c.environment.lookup name

/-- The report of a command that is not run. -/
def Stop.report (s : Stop) (c : Command) (call : Call) (path : Text) : Report :=
  match s with
  | .help => ⟨0, c.help path, []⟩
  | .version => ⟨0, call.program ++ txt ", version " ++ programVersion ++ newline, []⟩
  | .usage e => ⟨2, [], echoed (e.shown c path)⟩

/-- A word after the name of a command, to which `path` leads. -/
def under (path name : Text) : Text := path ++ cp ' ' :: name

/-- Reads the words after a command that has others below it: its values, the name of the command
below and the words after that.  Without any words the help is shown. -/
def parseGroup (c : Command) (call : Call) (path : Text) (words : List Text) :
    Except Report (Settled × Text × List Text) :=
  if words.isEmpty then .error ⟨2, [], c.help path⟩
  else
    match c.parse call.setting? words with
    | .error s => .error (s.report c call path)
    | .ok s =>
        match s.words with
        | [] => .error ((Stop.usage .missingCommand).report c call path)
        | name :: rest =>
            if (c.below.lookup name).isSome then .ok (s, name, rest)
            else
              let unknown := UsageError.noSuchCommand name
                (Text.similarTo name (c.below.map Prod.fst))
              let again :=
                if looksLikeOption name then c.parse call.setting? (name :: rest) else .ok s
              match again with
              | .error s => .error (s.report c call path)
              | .ok _ => .error ((Stop.usage unknown).report c call path)

/-- Reads the words after a command that signs. -/
def parseSigning (c : Command) (call : Call) (path : Text) (words : List Text) :
    Except Report Settled :=
  match c.parse call.setting? words with
  | .error s => .error (s.report c call path)
  | .ok s => .ok s

/-- The path in the value of an option. -/
def Settled.path? (s : Settled) (f : Flag) : Option Path := (s.value? f.name).map Path.parse

/-- The path in the value of an option that always has one. -/
def Settled.path (s : Settled) (f : Flag) : Path := (s.path? f).getD (Path.parse [])

/-- The level that is chosen. -/
def Settled.level (s : Settled) : Level :=
  (levels.find? fun l => s.value? levelFlag.name = some (levelName l)).getD .info

/-- The private key and what belongs to it. -/
def Settled.keyOptions (s : Settled) : KeyOptions where
  privateKey := .path (s.path privateKeyFlag)
  certificate := .path (s.path certificateFlag)
  alg := .json (.str ((s.value? algFlag.name).getD []))
  tsaUrl := s.value? tsaFlag.name
  password := s.value? passwordFlag.name
  ocspResponse := (s.path? ocspFlag).map PathArg.path

/-- The job of a signing command. -/
def Settled.job (s : Settled) (method : Method) (level : Level) : Job where
  method := method
  claim := Path.parse s.argument
  signature := s.path signatureFlag
  metadata := s.path? metadataFlag
  level := level

/-- What a command line asks for. -/
def jobOf (call : Call) : Except Report Job := do
  let (top, name, words) ← parseGroup root call call.program call.words
  let path := under call.program name
  let (_, name, words) ← parseGroup signGroup call path words
  let path := under path name
  if name = txt "key" then
    let s ← parseSigning key call path words
    return s.job (.key s.keyOptions) top.level
  else
    let s ← parseSigning placeholder call path words
    return s.job .placeholder top.level

/-! ### Signing -/

/-- The configuration that a job asks for. -/
def Job.configure (j : Job) : Operation Unit (Config Unit) :=
  match j.method with
  | .placeholder => pure Config.initial.usePlaceholder
  | .key o => Config.initial.useKey o

/-- Signs the claim of a job, from choosing the signer to writing the signature. -/
def Job.signOn (disk : Disk Unit) (j : Job) : Operation Unit SignedClaim := do
  let config ← j.configure
  config.signOn disk 0 (.path j.claim) (.path j.signature)

/-- The metadata of a signature as the content of a file. -/
def metadataFile (signed : SignedClaim) : Bytes := signed.toJson.flatMap Utf8.encodePoint

/-- Writes the metadata of a signature; if the system fails to do so the signature is removed, and
that failure is what comes of it.  Other failures are not handled, and neither is a failure to
remove the signature. -/
def Job.writeMetadataOn (disk : Disk Unit) (j : Job) (p : Path) (signed : SignedClaim) :
    Operation Unit (Except Failure Unit) := do
  match ← Operation.outcome (disk.write p (metadataFile signed)) with
  | .ok () => return .ok ()
  | .error f =>
      if f.isSystem then
        disk.remove j.signature
        return .error f
      else throw f

/-- Does a job.  What comes of it is reported, a failure too if it may be handled; any other failure
breaks the job off. -/
def Job.performOn (disk : Disk Unit) (j : Job) : Operation Unit (Except Failure Unit) := do
  match ← Operation.outcome (j.signOn disk) with
  | .error f => if f.isOrdinary then return .error f else throw f
  | .ok signed =>
      match j.metadata with
      | none => return .ok ()
      | some p => j.writeMetadataOn disk p signed

/-- Signs the claim of a job, with the files of the store. -/
def Job.sign (j : Job) : Operation Unit SignedClaim := j.signOn .store

/-- The log lines that are shown. -/
def shownLines (level : Level) (log : List LogLine) : Text :=
  (log.filter fun l => level.rank ≤ l.level.rank).flatMap fun l => l.text ++ newline

/-- What is said of a failure. -/
def failureText (f : Failure) : Text :=
  txt "Signing failed with error: " ++ f.message ++ newline

/-- The report of a job that is done, has failed, or was broken off; what is shown of a failure that
nobody handles is not the program's own. -/
def Job.report (j : Job) (log : List LogLine) : Except Failure (Except Failure Unit) → Report
  | .ok (.ok ()) => ⟨0, txt "Signing succeeded\n", shownLines j.level log⟩
  | .ok (.error f) => ⟨1, [], shownLines j.level log ++ echoed (failureText f)⟩
  | .error _ => ⟨1, [], shownLines j.level log⟩

/-- A code point on the error output: a surrogate, which has no bytes, is shown by its number. -/
def shownPoint (c : CodePoint) : Text := if c.isSurrogate then c.numberEscape else [c]

/-- A report with the error output as it is shown. -/
def Report.shown (r : Report) : Report := { r with err := r.err.flatMap shownPoint }

/-- Runs the program on the given files and disk. -/
def runOn (disk : Disk Unit) (call : Call) (files : FileStore) : Report × FileStore :=
  match jobOf call with
  | .error report => (report.shown, files)
  | .ok job =>
      match job.performOn disk ⟨files, [], ()⟩ with
      | (result, world) => ((job.report world.log result).shown, world.files)

/-- Runs the program on the given files. -/
def run (call : Call) (files : FileStore) : Report × FileStore := runOn .store call files

end CommandLine

end ClaimSeal
