import ClaimSeal.Proofs.KeySigner.Refusals
import ClaimSeal.Proofs.LetterCase
import ClaimSeal.Proofs.Objects
import ClaimSeal.Proofs.Sources
import ClaimSeal.Proofs.SignedFile

/-!
**The log keeps secrets.**

A run builds a signer with a private key from files, attaches a revocation response if one is asked
for, and signs a claim in a file.  What it logs is made of paths, of the name of the algorithm and
of numbers: how many certificates there are, how much space is reserved, and how long the claim and
the signature are.  The reserved space tells how long the certificates are together, and whether
there is the address of a time authority.  All of this is written down here as the public view of a
run, and the lines that the run adds to the log are computed from it.

So two runs with the same public view log the same lines.  Whatever else there is cannot be told
from the log: the private keys, the passwords, what is in the certificates, in the revocation
responses and in the claims, and the addresses of time authorities.

Main definitions:

* `Route`, `SigningRun` — how a signer is built, and a run that succeeds;
* `PublicView`, `PublicView.lines` — what can be seen of a run, and what it logs;
* `SigningRun.Agree` — **two runs cannot be told apart by what may be known**.

Main results:

* `KeySigner.logging_of_ofBytes`, `Route.exists_of_configure` — what building a signer logs;
* `SigningRun.log_eq` — **the log is made of what can be seen**;
* `SigningRun.same_log` — **runs that agree log the same lines**.
-/

set_option autoImplicit false

namespace ClaimSeal

open Run

variable {σ σ' : Type}

/-! ### Runs -/

/-- How a signer with a private key is built from files: by its class, or by a configuration. -/
inductive Route (σ : Type) where
  | files
  | configured (c : Config σ)

namespace Route

/-- A configuration with the signer that options ask for.  The class of signers takes no revocation
response. -/
def configure : Route σ → KeyOptions → Operation σ (Config σ)
  | files, o => do
      let s ← KeySigner.ofFiles o.certificate o.privateKey o.alg o.tsaUrl o.password
      return Config.initial.useSigner s.toSigner
  | configured c, o => c.useKey o

/-- The file with a revocation response, if one is read. -/
def response? : Route σ → KeyOptions → Option PathArg
  | files, _ => none
  | configured _, o => o.ocspResponse

end Route

/-- A run that builds a signer and signs a claim in a file, both with success. -/
structure SigningRun (σ : Type) where
  route : Route σ
  options : KeyOptions
  claim : PathArg
  signature : PathArg
  before : World σ
  signed : SignedClaim
  after : World σ
  succeeds : (do (← route.configure options).sign claim signature) before = (.ok signed, after)

/-- What can be seen of a run. -/
structure PublicView where
  certificate : PathArg
  privateKey : PathArg
  response : Option PathArg
  claim : PathArg
  signature : PathArg
  alg : Text
  usesTimeAuthority : Bool
  certs : Nat
  certsLength : Nat
  claimLength : Nat
  signatureLength : Nat

namespace PublicView

/-- The reserved space. -/
def reserved (v : PublicView) : Nat :=
  baseSize + v.certsLength + if v.usesTimeAuthority then timestampSize else 0

/-- What is logged about the signer. -/
def loadedLine (v : PublicView) : Text :=
  txt "Loaded " ++ v.alg ++ txt " signer with " ++ Text.ofNat v.certs
    ++ txt " certificate(s), reserving " ++ Text.ofNat v.reserved ++ txt " bytes"

/-- What is logged about the signature. -/
def signedLine (v : PublicView) : Text :=
  txt "Signed " ++ Text.ofNat v.claimLength ++ txt " bytes, got " ++ Text.ofNat v.signatureLength
    ++ txt " bytes of " ++ Text.ofInt v.reserved ++ txt " reserved"

/-- What is logged while the signer is built. -/
def buildingLines (v : PublicView) : List LogLine :=
  [v.certificate, v.privateKey].flatMap PathArg.readingLines ++ [⟨.debug, v.loadedLine⟩] ++
    v.response.toList.flatMap PathArg.readingLines

/-- What is logged by the whole run. -/
def lines (v : PublicView) : List LogLine :=
  v.buildingLines ++ [⟨.debug, v.signedLine⟩] ++
    [⟨.info, Config.wroteLine v.claim v.signature⟩]

end PublicView

namespace SigningRun

/-- What is in the file with the claim. -/
def content (r : SigningRun σ) : Bytes :=
  ((r.before.files.contentAt (fun _ => Failure.file) r.claim).toOption).getD []

/-- What can be seen of a run. -/
def view (r : SigningRun σ) : PublicView where
  certificate := r.options.certificate
  privateKey := r.options.privateKey
  response := r.route.response? r.options
  claim := r.claim
  signature := r.signature
  alg := r.signed.alg.getD []
  usesTimeAuthority := !(r.options.tsaUrl.getD []).isEmpty
  certs := r.signed.certs.length
  certsLength := r.signed.certs.flatten.length
  claimLength := r.content.length
  signatureLength := r.signed.signature.length

end SigningRun

/-! ### Building a signer -/

/-- A world with more lines at the end of its log. -/
def World.logging (w : World σ) (lines : List LogLine) : World σ := { w with log := w.log ++ lines }

@[simp] theorem World.logging_nil (w : World σ) : w.logging [] = w := by
  rw [logging, List.append_nil]

@[simp] theorem World.logging_logging (w : World σ) (lines more : List LogLine) :
    (w.logging lines).logging more = w.logging (lines ++ more) := by
  simp only [logging, List.append_assoc]

theorem World.afterReading_eq (w : World σ) (ps : List PathArg) :
    w.afterReading ps = w.logging (ps.flatMap PathArg.readingLines) := rfl

namespace KeySigner

/-- A signer comes from options: it has their algorithm and their time authority. -/
structure ComesFrom (s : KeySigner σ PublicKey) (o : KeyOptions) : Prop where
  alg : Algorithm.parse o.alg = .ok s.alg
  tsaUrl : s.tsaUrl = o.tsaUrl

/-- A signer that is built from bytes adds one line to the log, and has what it was given. -/
theorem logging_of_ofBytes {cert key : Bytes} {alg : Datum} {tsaUrl password : Option Text}
    {w w' : World σ} {s : KeySigner σ PublicKey}
    (h : ofBytes cert key alg tsaUrl password w = (.ok s, w')) :
    Algorithm.parse alg = .ok s.alg ∧ s.tsaUrl = tsaUrl ∧
      w' = w.logging [⟨.debug, s.loadedLine⟩] := by
  have hloading := loading cert key alg tsaUrl password w
  rw [h] at hloading
  cases hloading with
  | built hholds hassemble =>
      obtain ⟨_, chain, _, rfl, _⟩ := assemble_eq_ok_iff.1 hassemble
      exact ⟨hholds.alg, rfl, rfl⟩

/-- A signer that is built from files logs what is read, and then what it is. -/
theorem logging_of_ofFiles {o : KeyOptions} {w w' : World σ} {s : KeySigner σ PublicKey}
    (h : ofFiles o.certificate o.privateKey o.alg o.tsaUrl o.password w = (.ok s, w')) :
    s.ComesFrom o ∧ w' = w.logging ([o.certificate, o.privateKey].flatMap PathArg.readingLines ++
      [⟨.debug, s.loadedLine⟩]) := by
  rw [ofFiles, fromFiles_apply] at h
  cases hcert : w.files.credentialAt o.certificate with
  | error f =>
      rw [hcert] at h
      exact absurd h error_ne_ok
  | ok cert =>
      cases hkey : w.files.credentialAt o.privateKey with
      | error f =>
          rw [hcert, hkey] at h
          exact absurd h error_ne_ok
      | ok key =>
          rw [hcert, hkey] at h
          obtain ⟨halg, htsaUrl, rfl⟩ := logging_of_ofBytes h
          exact ⟨⟨halg, htsaUrl⟩, World.logging_logging ..⟩

/-- A response changes nothing that is logged about a signer. -/
theorem loadedLine_of_withOcsp {s s' : KeySigner σ PublicKey} {o : KeyOptions} {response : Bytes}
    (h : s.withOcsp response = .ok s') (hs : s.ComesFrom o) :
    s'.ComesFrom o ∧ s'.loadedLine = s.loadedLine := by
  obtain ⟨_, rfl⟩ := withOcsp_eq_ok_iff.1 h
  exact ⟨⟨hs.alg, hs.tsaUrl⟩, rfl⟩

end KeySigner

/-- A signer that is configured logs the reading of a revocation response, too. -/
theorem Config.logging_of_keySigner {o : KeyOptions} {w w' : World σ} {s : KeySigner σ PublicKey}
    (h : keySigner o w = (.ok s, w')) :
    s.ComesFrom o ∧ w' = w.logging ([o.certificate, o.privateKey].flatMap PathArg.readingLines ++
      [⟨.debug, s.loadedLine⟩] ++ o.ocspResponse.toList.flatMap PathArg.readingLines) := by
  rw [keySigner, bind_eq_ok_iff] at h
  obtain ⟨s₀, v, hfiles, h⟩ := h
  obtain ⟨hfrom, rfl⟩ := KeySigner.logging_of_ofFiles hfiles
  cases hresponse : o.ocspResponse with
  | none =>
      simp only [hresponse] at h
      obtain ⟨rfl, rfl⟩ := pure_eq_ok_iff.1 h
      exact ⟨hfrom, by simp⟩
  | some p =>
      simp only [hresponse] at h
      obtain ⟨response, v, hread, h⟩ := bind_eq_ok_iff.1 h
      obtain ⟨hs, rfl⟩ := Operation.ofExcept_eq_ok_iff.1 h
      obtain ⟨hfrom', hline⟩ := KeySigner.loadedLine_of_withOcsp hs hfrom
      rw [readCredential_apply, World.afterReading_eq, World.logging_logging] at hread
      refine ⟨hfrom', ?_⟩
      rw [hline]
      exact (congrArg Prod.snd hread).symm

/-- Whichever way it is built, the signer is one with a private key that comes from the options. -/
theorem Route.exists_of_configure {r : Route σ} {o : KeyOptions} {w w' : World σ} {c : Config σ}
    (h : r.configure o w = (.ok c, w')) :
    ∃ s : KeySigner σ PublicKey, c = ⟨s.toSigner⟩ ∧ s.ComesFrom o ∧
      w' = w.logging ([o.certificate, o.privateKey].flatMap PathArg.readingLines ++
        [⟨.debug, s.loadedLine⟩] ++ (r.response? o).toList.flatMap PathArg.readingLines) := by
  cases r with
  | files =>
      obtain ⟨s, v, hs, hpure⟩ := bind_eq_ok_iff.1 h
      obtain ⟨rfl, rfl⟩ := pure_eq_ok_iff.1 hpure
      obtain ⟨hfrom, hv⟩ := KeySigner.logging_of_ofFiles hs
      exact ⟨s, rfl, hfrom, by simpa [response?] using hv⟩
  | configured c₀ =>
      obtain ⟨s, v, hs, hpure⟩ := bind_eq_ok_iff.1 h
      obtain ⟨rfl, rfl⟩ := pure_eq_ok_iff.1 hpure
      obtain ⟨hfrom, hv⟩ := Config.logging_of_keySigner hs
      exact ⟨s, rfl, hfrom, hv⟩

/-! ### Signing -/

namespace KeySigner

/-- A signed claim tells what its signer is made of, and one line is logged about the signature. -/
theorem of_signBytes {s : KeySigner σ PublicKey} {data : Bytes} {w w' : World σ}
    {claim : SignedClaim} (h : Config.signBytes ⟨s.toSigner⟩ data w = (.ok claim, w')) :
    claim.alg = some s.alg.name ∧ claim.certs = s.certs ∧
      w'.log = w.log ++ [⟨.debug, signedLine data claim.signature s.reserveSize⟩] := by
  rw [signBytes_apply] at h
  rcases hsign : s.toSigner.signClaim data w with ⟨f | signature, v⟩
  · rw [hsign] at h
    exact absurd h error_ne_ok
  · rw [hsign] at h
    obtain ⟨rfl, rfl⟩ := ok_eq_ok_iff.1 h
    obtain ⟨reserved, b, b', hreserved, _, _, rfl⟩ := Signer.signClaim_eq_ok_iff.1 hsign
    obtain ⟨rfl, rfl⟩ := ok_eq_ok_iff.1 hreserved
    exact ⟨rfl, rfl, rfl⟩

end KeySigner

namespace SigningRun

/-- A run is made of a signer from the options, and of signing the content of the claim's file. -/
theorem exists_signer (r : SigningRun σ) :
    ∃ s : KeySigner σ PublicKey, s.ComesFrom r.options ∧ r.signed.alg = some s.alg.name ∧
      r.signed.certs = s.certs ∧ r.after.log = r.before.log ++
        (([r.options.certificate, r.options.privateKey].flatMap PathArg.readingLines ++
          [⟨.debug, s.loadedLine⟩] ++
            (r.route.response? r.options).toList.flatMap PathArg.readingLines) ++
          [⟨.debug, signedLine r.content r.signed.signature s.reserveSize⟩] ++
            [⟨.info, Config.wroteLine r.claim r.signature⟩]) := by
  obtain ⟨c, v, hconfigure, hsign⟩ := bind_eq_ok_iff.1 r.succeeds
  obtain ⟨s, rfl, hfrom, rfl⟩ := Route.exists_of_configure hconfigure
  obtain ⟨p, q, data, v, l, hp, hdata, hbytes, hq, hl, hafter⟩ := Config.sign_eq_ok_iff.1 hsign
  -- to build the signer changed no file, so the claim is what was there before
  have hcontent : r.content = data := by
    have hgives : r.before.files.Gives r.claim data := ⟨p, hp, hdata⟩
    rw [content, FileStore.contentAt_eq_ok_iff.2 hgives]
    rfl
  obtain ⟨halg, hcerts, hlog⟩ := KeySigner.of_signBytes hbytes
  refine ⟨s, hfrom, halg, hcerts, ?_⟩
  rw [hafter, hcontent]
  dsimp only
  rw [hlog, World.logging]
  simp only [List.append_assoc]

/-- **The log is made of what can be seen of a run.** -/
theorem log_eq (r : SigningRun σ) : r.after.log = r.before.log ++ r.view.lines := by
  obtain ⟨s, hfrom, halg, hcerts, hlog⟩ := r.exists_signer
  -- the lengths of the certificates are known one by one only to the signer, their sum to anyone
  have hreserved : s.reserveSize = r.view.reserved := by
    rw [KeySigner.reserveSize, KeySigner.usesTimeAuthority, hfrom.tsaUrl, ← hcerts]
    rfl
  have hloaded : s.loadedLine = r.view.loadedLine := by
    rw [KeySigner.loadedLine, PublicView.loadedLine, hreserved, ← hcerts]
    simp only [view, halg, Option.getD_some]
  have hsigned : signedLine r.content r.signed.signature s.reserveSize = r.view.signedLine := by
    rw [hreserved]
    rfl
  rw [hlog, hloaded, hsigned]
  rfl

/-! ### Two runs -/

/-- Two runs agree on what may be known about them: on the paths, on the algorithm in letters of
either case, on whether there is the address of a time authority, on the number of certificates and
their total length, and on the lengths of the claim and of the signature. -/
structure Agree (r : SigningRun σ) (r' : SigningRun σ') : Prop where
  certificate : r.options.certificate = r'.options.certificate
  privateKey : r.options.privateKey = r'.options.privateKey
  response : r.route.response? r.options = r'.route.response? r'.options
  claim : r.claim = r'.claim
  signature : r.signature = r'.signature
  alg : ∃ t t', r.options.alg = .json (.str t) ∧ r'.options.alg = .json (.str t') ∧
    t.lower = t'.lower
  tsaUrl : (r.options.tsaUrl.getD []).isEmpty = (r'.options.tsaUrl.getD []).isEmpty
  certs : r.signed.certs.length = r'.signed.certs.length
  certsLength : r.signed.certs.flatten.length = r'.signed.certs.flatten.length
  claimLength : r.content.length = r'.content.length
  signatureLength : r.signed.signature.length = r'.signed.signature.length

/-- The algorithm is told by the letters of its name, up to their case. -/
theorem Agree.signedAlg {r : SigningRun σ} {r' : SigningRun σ'} (h : Agree r r') :
    r.signed.alg = r'.signed.alg := by
  obtain ⟨t, t', ht, ht', hlower⟩ := h.alg
  obtain ⟨s, hfrom, halg, _, _⟩ := r.exists_signer
  obtain ⟨s', hfrom', halg', _, _⟩ := r'.exists_signer
  have hname := Algorithm.ofName?_eq_some_iff.1
    (Algorithm.parse_text_eq_ok_iff.1 (ht ▸ hfrom.alg))
  have hname' := Algorithm.ofName?_eq_some_iff.1
    (Algorithm.parse_text_eq_ok_iff.1 (ht' ▸ hfrom'.alg))
  rw [halg, halg', hname, hname', hlower]

theorem Agree.view_eq {r : SigningRun σ} {r' : SigningRun σ'} (h : Agree r r') :
    r.view = r'.view := by
  simp only [view, h.certificate, h.privateKey, h.response, h.claim, h.signature, h.signedAlg,
    h.tsaUrl, h.certs, h.certsLength, h.claimLength, h.signatureLength]

/-- **Runs that agree on what may be known log the same lines**, whatever else there is. -/
theorem same_log {r : SigningRun σ} {r' : SigningRun σ'} (h : Agree r r') :
    ∃ lines, r.after.log = r.before.log ++ lines ∧ r'.after.log = r'.before.log ++ lines :=
  ⟨r.view.lines, r.log_eq, h.view_eq ▸ r'.log_eq⟩

/-! ### Two runs to try it on -/

namespace Sample

open KeySigner.Sample

/-- The credentials of the sample, with an algorithm and the address of a time authority. -/
def options (alg url : String) : KeyOptions where
  privateKey := pathTo "key"
  certificate := pathTo "cert"
  alg := .json (.str (txt alg))
  tsaUrl := some (txt url)
  ocspResponse := some (pathTo "response")

/-- Files with credentials and a claim. -/
def world (cert key response claim : Bytes) : World Unit where
  files := ⟨[], [], [([ascii "cert"], cert), ([ascii "key"], key), ([ascii "response"], response),
    ([ascii "claim"], claim)]⟩
  log := []
  backend := ()

/-- Files with the credentials of the sample. -/
def files (serial : Int) (claim : Bytes) : World Unit :=
  world (armoured "CERTIFICATE" (certificate serial)) (armoured "PRIVATE KEY" privateKey)
    (response serial) claim

/-- Signs the claim. -/
def work (alg url : String) : Operation Unit SignedClaim := do
  (← (Route.configured .initial).configure (options alg url)).sign (pathTo "claim") (pathTo "sig")

/-- The lengths that may be known of a signed claim. -/
def lengths (c : SignedClaim) : Nat × Nat × Nat :=
  (c.certs.length, c.certs.flatten.length, c.signature.length)

theorem exists_lengths {alg url : String} {w : World Unit} {n : Nat × Nat × Nat}
    (h : ((work alg url w).1.map lengths).toOption = some n) :
    ∃ signed after, work alg url w = (.ok signed, after) ∧ lengths signed = n := by
  obtain ⟨signed, hsigned, hn⟩ := Outcome.map_eq_ok_iff.1 (Outcome.toOption_eq_some_iff.1 h)
  exact ⟨signed, _, Prod.ext hsigned rfl, hn⟩

variable {alg alg' url url' : String} {cert cert' key key' response response' claim claim' : Bytes}
  {signed signed' : SignedClaim} {after after' : World Unit}

/-- A run of that work. -/
def run (h : work alg url (world cert key response claim) = (.ok signed, after)) :
    SigningRun Unit :=
  ⟨.configured .initial, options alg url, pathTo "claim", pathTo "sig",
    world cert key response claim, signed, after, h⟩

/-- Two such runs agree whatever is in their files, as long as the lengths are the same. -/
theorem agree_run (h : work alg url (world cert key response claim) = (.ok signed, after))
    (h' : work alg' url' (world cert' key' response' claim') = (.ok signed', after'))
    (halg : (txt alg).lower = (txt alg').lower) (hurl : (txt url).isEmpty = (txt url').isEmpty)
    (hclaim : claim.length = claim'.length) (hlengths : lengths signed = lengths signed') :
    Agree (run h) (run h') := by
  simp only [lengths, Prod.mk.injEq] at hlengths
  exact {
    certificate := rfl
    privateKey := rfl
    response := rfl
    claim := rfl
    signature := rfl
    alg := ⟨_, _, rfl, rfl, halg⟩
    tsaUrl := hurl
    certs := hlengths.1
    certsLength := hlengths.2.1
    claimLength := hclaim
    signatureLength := hlengths.2.2 }

end Sample

/-- Two runs with other certificates, responses, claims and time authorities agree. -/
theorem same_log_sample : ∃ r r' : SigningRun Unit, Agree r r' ∧ r.content ≠ r'.content ∧
    ∃ lines, r.after.log = r.before.log ++ lines ∧ r'.after.log = r'.before.log ++ lines := by
  obtain ⟨signed, after, hrun, hlengths⟩ := Sample.exists_lengths
    (by decide +kernel : ((Sample.work "Ed25519" "http://tsa"
      (Sample.files 300 (ascii "one"))).1.map Sample.lengths).toOption = some (1, 105, 64))
  obtain ⟨signed', after', hrun', hlengths'⟩ := Sample.exists_lengths
    (by decide +kernel : ((Sample.work "ED25519" "https://other"
      (Sample.files 301 (ascii "two"))).1.map Sample.lengths).toOption = some (1, 105, 64))
  have hagree := Sample.agree_run hrun hrun' (by decide) (by decide) (by decide)
    (hlengths.trans hlengths'.symm)
  have hcontent : ascii "one" ≠ ascii "two" := by decide
  exact ⟨_, _, hagree, hcontent, same_log hagree⟩

end SigningRun

end ClaimSeal
