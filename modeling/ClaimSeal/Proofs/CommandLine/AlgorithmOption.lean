import ClaimSeal.Proofs.CommandLine.Words
import ClaimSeal.Proofs.KeySigner.Origin
import ClaimSeal.Proofs.LetterCase

/-!
**The option that chooses the algorithm.**

The command that signs with a key takes the name of an algorithm in letters of either case, and so
does the library.  The option is compared by case folding and the name in the library by lower case,
so the two differ where these do: the option takes a long s for an s.  It takes every name that the
library takes, for the same algorithm, and apart from the long s it takes no other.

Main definitions:

* `Call.Reaches` — the words of a call lead to the command that signs with a key;
* `Chooses` — the words after the command choose an algorithm;
* `Scan.IsComplete` — nothing is missing in the words after the command, and nothing is left over;
* `Call.Reads` — what comes of the name of an algorithm.

Main results:

* `meant_algFlag` — what a value of the option means;
* `key_parse_eq_refusal_iff`, `exists_key_parse_iff` — when the option is refused, and when the
  words are taken;
* `value?_of_key_parse` — what the library is given for the name;
* `reads_of_chooses` — **the command line and the library, for every name**.
-/

set_option autoImplicit false

namespace ClaimSeal

open Run Operation

namespace CommandLine

/-! ### The value of the option -/

/-- What is wrong with a value of the option that is none of the choices. -/
def algorithmRefusal (a : Text) : UsageError :=
  .notAChoice (txt "--alg") a (Algorithm.all.map Algorithm.name)

/-- The choice that is meant is the algorithm that the value names once every long s is read as an
s. -/
theorem meant_algFlag (a : Text) :
    algFlag.meant a = match Algorithm.ofName? a.withoutLongS with
      | some alg => .ok alg.name
      | none => .error (algorithmRefusal a) := by
  have hfind : algFlag.choices.find? (fun c => c.fold = a.fold) =
      (Algorithm.ofName? a.withoutLongS).map Algorithm.name := by
    rw [← Algorithm.find?_fold_eq]
    exact List.find?_map
  have hchoices : algFlag.choices.isEmpty = false := rfl
  have hrefusal : UsageError.notAChoice algFlag.name a algFlag.folded = algorithmRefusal a := rfl
  rw [Flag.meant, hchoices, hfind, hrefusal]
  cases Algorithm.ofName? a.withoutLongS <;> rfl

theorem meant_algFlag_eq_ok_iff {a v : Text} :
    algFlag.meant a = .ok v ↔
      ∃ alg, Algorithm.parse (.json (.str a.withoutLongS)) = .ok alg ∧ v = alg.name := by
  simp only [Algorithm.parse_text_eq_ok_iff]
  rw [meant_algFlag]
  cases Algorithm.ofName? a.withoutLongS with
  | none => simp
  | some alg => simp [eq_comm]

theorem meant_algFlag_eq_error_iff {a : Text} {e : UsageError} :
    algFlag.meant a = .error e ↔
      (∀ alg, Algorithm.parse (.json (.str a.withoutLongS)) ≠ .ok alg) ∧
        e = algorithmRefusal a := by
  simp only [ne_eq, Algorithm.parse_text_eq_ok_iff]
  rw [meant_algFlag]
  cases Algorithm.ofName? a.withoutLongS with
  | none => simp [eq_comm]
  | some alg => simp

/-! ### The options of the command -/

theorem eq_algFlag_of_choices :
    ∀ f ∈ key.flags, f.choices.isEmpty = false → f = algFlag := by
  decide

theorem eq_algFlag_of_name : ∀ f ∈ key.flags, f.name = algFlag.name → f = algFlag := by
  decide

theorem envName?_of_mem : ∀ f ∈ key.flags, f.envName? = none := by
  decide

theorem role_of_isRequired : ∀ f ∈ key.flags, f.isRequired = true → f.role = .value := by
  decide

theorem default?_of_isRequired : ∀ f ∈ key.flags, f.isRequired = true → f.default? = none := by
  decide

/-- No other option of the command has choices. -/
theorem meant_of_ne_algFlag {f : Flag} (hf : f ∈ key.flags) (hne : f ≠ algFlag) (value : Text) :
    f.meant value = .ok value := by
  have hchoices : f.choices.isEmpty = true := by
    by_contra h
    exact hne (eq_algFlag_of_choices f hf (Bool.eq_false_iff.2 h))
  rw [Flag.meant, if_pos hchoices]

/-- The words after the command choose the algorithm `a`: they can be sorted, nothing but values of
options is asked for, and `a` is the value that the option is given last. -/
structure Chooses (words : List Text) (a : Text) (scan : Scan) : Prop where
  sorted : key.scan words = .ok scan
  values : ∀ u ∈ scan.uses, u.flag.role = .value
  last : (scan.uses.filter (·.flag = algFlag)).getLast? = some ⟨algFlag, a⟩

/-- Every option of the command that has to be used is used, and there is one word besides, for the
path of the claim. -/
structure Scan.IsComplete (scan : Scan) : Prop where
  required : ∀ f ∈ key.flags, f.isRequired = true → ∃ u ∈ scan.uses, u.flag = f
  claim : ∃ claim, scan.words = [claim]

variable {words : List Text} {a : Text} {scan : Scan} {environment : Text → Option Text}

theorem Chooses.flag_mem (h : Chooses words a scan) : ∀ u ∈ scan.uses, u.flag ∈ key.flags :=
  fun u hu =>
    ((Command.proper_of_scan isHandedOn_true (fun _ _ => trivial) h.sorted).1 u hu).mem

theorem Chooses.mem_lastValues (h : Chooses words a scan) :
    ⟨algFlag, a⟩ ∈ lastValues scan.uses := mem_lastValues_iff.2 h.last

theorem Chooses.eq_of_flag (h : Chooses words a scan) {u : Use} (hu : u ∈ lastValues scan.uses)
    (hflag : u.flag = algFlag) : u = ⟨algFlag, a⟩ := by
  have hlast := mem_lastValues_iff.1 hu
  rw [hflag, h.last] at hlast
  exact (Option.some.inj hlast).symm

/-- The options that are used have their values unless the algorithm is refused. -/
theorem Chooses.usedValues_eq_error_iff (h : Chooses words a scan) {e : UsageError} :
    usedValues (lastValues scan.uses) = .error e ↔ algFlag.meant a = .error e := by
  have hrefused : ∀ {e}, usedValues (lastValues scan.uses) = .error e →
      algFlag.meant a = .error e := by
    intro e he
    obtain ⟨front, u, back, huses, _, hu⟩ := Outcome.mapM_eq_error_iff.1 he
    rw [Outcome.map_eq_error_iff] at hu
    have hmem : u ∈ lastValues scan.uses := by
      rw [huses]
      exact List.mem_append_right _ List.mem_cons_self
    have hflag : u.flag = algFlag := by
      by_contra hne
      rw [meant_of_ne_algFlag (h.flag_mem u (mem_of_lastValues hmem)) hne] at hu
      cases hu
    rwa [h.eq_of_flag hmem hflag] at hu
  refine ⟨hrefused, fun he => ?_⟩
  cases hused : usedValues (lastValues scan.uses) with
  | ok used =>
      obtain ⟨v, hv, _⟩ := exists_mem_usedValues hused h.mem_lastValues
      cases he.symm.trans hv
  | error e' =>
      rw [Except.error.inj (he.symm.trans (hrefused hused))]

theorem Chooses.exists_usedValues_iff (h : Chooses words a scan) :
    (∃ used, usedValues (lastValues scan.uses) = .ok used) ↔ ∃ v, algFlag.meant a = .ok v := by
  cases hused : usedValues (lastValues scan.uses) with
  | ok used =>
      cases hmeant : algFlag.meant a with
      | ok v => simp
      | error e =>
          rw [h.usedValues_eq_error_iff.2 hmeant] at hused
          cases hused
  | error e => simp [h.usedValues_eq_error_iff.1 hused]

/-- An option of the command that is not used is missing if it has to be used. -/
theorem exists_unused_iff {f : Flag} (hf : f ∈ key.flags) :
    (∃ v, f.unused environment = .ok v) ↔ f.isRequired = false := by
  rw [f.unused_of_envName? environment (envName?_of_mem f hf)]
  cases hrequired : f.isRequired with
  | true =>
      rw [default?_of_isRequired f hf hrequired]
      simp
  | false => cases f.default? <;> simp

theorem ne_algorithmRefusal_of_unused {f : Flag} (hf : f ∈ key.flags) {e : UsageError}
    (h : f.unused environment = .error e) : e ≠ algorithmRefusal a := by
  rw [f.unused_of_envName? environment (envName?_of_mem f hf)] at h
  split at h
  · cases h
  · split at h <;> cases h
    exact nofun

theorem mem_unusedFlags_iff {f : Flag} :
    f ∈ key.unusedFlags scan ↔
      f ∈ key.flags ∧ f.role = .value ∧ ∀ u ∈ scan.uses, u.flag ≠ f := by
  have hused : (∃ u ∈ lastValues scan.uses, u.flag = f) ↔ ∃ u ∈ scan.uses, u.flag = f :=
    exists_mem_lastValues_iff
  simp only [Command.unusedFlags, List.mem_filter, Bool.and_eq_true, decide_eq_true_eq,
    Bool.not_eq_true', List.any_eq_false, and_congr_right_iff]
  intro _ _
  rw [← not_iff_not]
  push Not
  exact hused

/-- No option is missing. -/
theorem exists_unusedValues_key_iff :
    (∃ unused, unusedValues environment (key.unusedFlags scan) = .ok unused) ↔
      ∀ f ∈ key.flags, f.isRequired = true → ∃ u ∈ scan.uses, u.flag = f := by
  rw [exists_unusedValues_iff]
  constructor
  · intro h f hf hrequired
    by_contra hunused
    push Not at hunused
    have hmem : f ∈ key.unusedFlags scan :=
      mem_unusedFlags_iff.2 ⟨hf, role_of_isRequired f hf hrequired, hunused⟩
    rw [(exists_unused_iff hf).1 (h f hmem)] at hrequired
    cases hrequired
  · intro h f hf
    obtain ⟨hf, _, hunused⟩ := mem_unusedFlags_iff.1 hf
    rw [exists_unused_iff hf]
    by_contra hrequired
    obtain ⟨u, hu, hflag⟩ := h f hf (Bool.not_eq_false _ ▸ hrequired)
    exact hunused u hu hflag

/-! ### Reading the words after the command -/

theorem Chooses.parse_eq (h : Chooses words a scan) :
    key.parse environment words = key.settle environment scan := by
  rw [Command.parse, h.sorted]

/-- The option is refused exactly if its value names no algorithm once every long s is read as an
s, whatever else may be wrong with the words. -/
theorem key_parse_eq_refusal_iff (h : Chooses words a scan) :
    key.parse environment words = .error (.usage (algorithmRefusal a)) ↔
      ∀ alg, Algorithm.parse (.json (.str a.withoutLongS)) ≠ .ok alg := by
  rw [h.parse_eq, Command.settle_eq_usage_iff, h.usedValues_eq_error_iff,
    meant_algFlag_eq_error_iff]
  constructor
  · rintro ⟨_, ⟨hnone, _⟩ | ⟨_, _, h | ⟨_, _, _, h | ⟨_, _, _, h⟩⟩⟩⟩
    · exact hnone
    · unfold Command.takeArgument at h
      split at h <;> cases h
    · obtain ⟨f, hf, hunused⟩ := exists_of_unusedValues_eq_error h
      exact absurd rfl (ne_algorithmRefusal_of_unused (mem_unusedFlags_iff.1 hf).1 hunused)
    · cases h
  · intro hnone
    exact ⟨h.values, .inl ⟨hnone, rfl⟩⟩

theorem key_takeArgument_eq_ok_iff {words rest : List Text} {argument : Text} :
    key.takeArgument words = .ok (argument, rest) ↔ words = argument :: rest := by
  cases words with
  | nil => exact ⟨nofun, nofun⟩
  | cons word words =>
      constructor
      · intro h
        cases h
        rfl
      · intro h
        cases h
        rfl

/-- The words are taken exactly if the value names an algorithm once every long s is read as an s,
nothing is missing and nothing is left over. -/
theorem exists_key_parse_iff (h : Chooses words a scan) :
    (∃ s, key.parse environment words = .ok s) ↔
      (∃ alg, Algorithm.parse (.json (.str a.withoutLongS)) = .ok alg) ∧ scan.IsComplete := by
  have hmeant : (∃ used, usedValues (lastValues scan.uses) = .ok used) ↔
      ∃ alg, Algorithm.parse (.json (.str a.withoutLongS)) = .ok alg := by
    simp only [h.exists_usedValues_iff, meant_algFlag_eq_ok_iff]
    exact ⟨fun ⟨_, alg, halg, _⟩ => ⟨alg, halg⟩, fun ⟨alg, halg⟩ => ⟨_, alg, halg, rfl⟩⟩
  simp only [h.parse_eq, Command.settle_eq_ok_iff, key_takeArgument_eq_ok_iff]
  constructor
  · rintro ⟨s, _, used, unused, hused, hwords, hunused, hleft, _⟩
    have hnil : s.words = [] := List.isEmpty_iff.1 (hleft rfl)
    rw [hnil] at hwords
    exact ⟨hmeant.1 ⟨used, hused⟩, exists_unusedValues_key_iff.1 ⟨unused, hunused⟩, _, hwords⟩
  · rintro ⟨halg, hrequired, claim, hwords⟩
    obtain ⟨used, hused⟩ := hmeant.2 halg
    have hcomplete : ∃ unused, unusedValues environment (key.unusedFlags scan) = .ok unused :=
      exists_unusedValues_key_iff.2 hrequired
    obtain ⟨unused, hunused⟩ := hcomplete
    exact ⟨⟨used ++ unused, claim, []⟩, h.values, used, unused, hused, hwords, hunused,
      fun _ => rfl, rfl⟩

/-- The library is given the name of the algorithm that is meant. -/
theorem value?_of_key_parse (h : Chooses words a scan) {s : Settled}
    (hs : key.parse environment words = .ok s) :
    ∃ alg, Algorithm.parse (.json (.str a.withoutLongS)) = .ok alg ∧
      s.value? algFlag.name = some alg.name := by
  rw [h.parse_eq] at hs
  obtain ⟨_, used, unused, hused, _, hunused, _, hvalues⟩ := Command.settle_eq_ok_iff.1 hs
  obtain ⟨v, hv, hmem⟩ := exists_mem_usedValues hused h.mem_lastValues
  obtain ⟨alg, halg, rfl⟩ := meant_algFlag_eq_ok_iff.1 hv
  refine ⟨alg, halg, ?_⟩
  rw [Settled.value?, hvalues]
  apply lookup_eq_some_of_forall
  · exact List.mem_append_left _ hmem
  · intro v' hv'
    rcases List.mem_append.1 hv' with hv' | hv'
    · -- a value of that name is one that the option is given, so it is the last one
      obtain ⟨u, hu, hname, hmeant⟩ := exists_of_mem_usedValues hused hv'
      have hflag := eq_algFlag_of_name _ (h.flag_mem u (mem_of_lastValues hu)) hname
      rw [h.eq_of_flag hu hflag, hv] at hmeant
      exact (Except.ok.inj hmeant).symm
    · -- an option that is used has no other value besides
      obtain ⟨f, hf, hname, _⟩ := exists_of_mem_unusedValues hunused hv'
      obtain ⟨hf, _, hno⟩ := mem_unusedFlags_iff.1 hf
      have hflag := eq_algFlag_of_name f hf hname.symm
      exact absurd hflag.symm (hno _ (mem_of_lastValues h.mem_lastValues))

/-! ### Calls -/

/-- The words of a call lead to the command that signs with a key, with `words` after it. -/
def Call.Reaches (call : Call) (top : Settled) (words : List Text) : Prop :=
  ∃ rest below, root.parse call.setting? call.words = .ok top ∧ top.words = txt "sign" :: rest ∧
    signGroup.parse call.setting? rest = .ok below ∧ below.words = txt "key" :: words

/-- How the command that signs with a key is spoken of. -/
def Call.keyPath (call : Call) : Text := under (under call.program (txt "sign")) (txt "key")

/-- A command with others below it that is followed by the name of one of them. -/
theorem parseGroup_of_parse {c : Command} {call : Call} {path name : Text} {words rest : List Text}
    {s : Settled} (h : c.parse call.setting? words = .ok s) (hwords : s.words = name :: rest)
    (hname : (c.below.lookup name).isSome = true) :
    parseGroup c call path words = .ok (s, name, rest) := by
  have hne : words.isEmpty = false := by
    by_contra hempty
    have hnil : words = [] := by simpa using hempty
    rw [hnil] at h
    rw [Command.words_of_parse_nil h] at hwords
    cases hwords
  rw [parseGroup, hne, h]
  dsimp only
  rw [hwords]
  dsimp only
  rw [if_pos hname]
  rfl

/-- What a call that leads to the command asks for depends on the words after it. -/
theorem jobOf_of_reaches {call : Call} {top : Settled} (h : call.Reaches top words) :
    jobOf call = match key.parse call.setting? words with
      | .error s => .error (s.report key call call.keyPath)
      | .ok s => .ok (s.job (.key s.keyOptions) top.level) := by
  obtain ⟨rest, below, htop, htopwords, hbelow, hbelowwords⟩ := h
  have hroot : parseGroup root call call.program call.words = .ok (top, txt "sign", rest) :=
    parseGroup_of_parse htop htopwords rfl
  have hgroup : parseGroup signGroup call (under call.program (txt "sign")) rest =
      .ok (below, txt "key", words) := parseGroup_of_parse hbelow hbelowwords rfl
  have hkey : jobOf call = (do
      let s ← parseSigning key call call.keyPath words
      return s.job (.key s.keyOptions) top.level) := by
    rw [jobOf, hroot]
    dsimp only [bind, Except.bind]
    rw [hgroup]
    rfl
  rw [hkey, parseSigning]
  cases key.parse call.setting? words <;> rfl

end CommandLine

/-! ### The algorithm of a signer -/

namespace KeySigner

/-- A signer that is configured has the algorithm that the options name. -/
theorem parse_alg_of_keySigner {σ : Type} {o : KeyOptions} {w w' : World σ}
    {s : KeySigner σ PublicKey} (h : Config.keySigner o w = (.ok s, w')) :
    Algorithm.parse o.alg = .ok s.alg := by
  obtain ⟨s₀, _, hfiles, hocsp⟩ := exists_of_keySigner h
  obtain ⟨_, _, _, hbytes⟩ := exists_of_ofFiles hfiles
  have hs : s.alg = s₀.alg := by
    rcases hocsp with rfl | ⟨response, hresponse⟩
    · rfl
    · obtain ⟨_, rfl⟩ := withOcsp_eq_ok_iff.1 hresponse
      rfl
  rw [hs, parse_alg_of_ofBytes hbytes]

end KeySigner

namespace CommandLine

variable {words : List Text} {a : Text} {scan : Scan}

/-- A job with a key configures a signer with that key. -/
theorem Job.exists_of_configure {job : Job} {o : KeyOptions} {w w' : World Unit}
    {config : Config Unit} (hmethod : job.method = .key o)
    (h : job.configure w = (.ok config, w')) :
    ∃ s, Config.keySigner o w = (.ok s, w') ∧ config.signer = s.toSigner := by
  rw [configure, hmethod] at h
  obtain ⟨s, _, hs, h⟩ := bind_eq_ok_iff.1 h
  obtain ⟨rfl, rfl⟩ := pure_eq_ok_iff.1 h
  exact ⟨s, hs, rfl⟩

/-! ### Names of algorithms -/

/-- What comes of the name `a` of an algorithm in a call with `words` after the command that signs
with a key. -/
structure Call.Reads (call : Call) (words : List Text) (scan : Scan) (a : Text) : Prop where
  /-- The name is refused exactly if the library does not take it even with every long s read as an
  s. -/
  refused_iff : key.parse call.setting? words = .error (.usage (algorithmRefusal a)) ↔
    ∀ alg, Algorithm.parse (.json (.str a.withoutLongS)) ≠ .ok alg
  /-- A name that is refused is told, with exit code 2, and no file is touched. -/
  refused : (∀ alg, Algorithm.parse (.json (.str a.withoutLongS)) ≠ .ok alg) → ∀ files,
    run call files =
      (((Stop.usage (algorithmRefusal a)).report key call call.keyPath).shown, files)
  /-- There is a job exactly if the name is not refused, nothing else is missing and nothing is left
  over. -/
  taken_iff : (∃ job, jobOf call = .ok job) ↔
    (∃ alg, Algorithm.parse (.json (.str a.withoutLongS)) = .ok alg) ∧ scan.IsComplete
  /-- A name that the library takes is not refused, and it is for the same algorithm. -/
  library : ∀ alg, Algorithm.parse (.json (.str a)) = .ok alg →
    key.parse call.setting? words ≠ .error (.usage (algorithmRefusal a)) ∧
      Algorithm.parse (.json (.str a.withoutLongS)) = .ok alg
  /-- A name without a long s is refused exactly if the library does not take it. -/
  same : (∀ c ∈ a, c.val ≠ 0x017F) →
    (key.parse call.setting? words = .error (.usage (algorithmRefusal a)) ↔
      ∀ alg, Algorithm.parse (.json (.str a)) ≠ .ok alg)
  /-- The signer of a job has the algorithm that the library takes the name for. -/
  used : ∀ job, jobOf call = .ok job → ∃ o alg, job.method = .key o ∧
    Algorithm.parse (.json (.str a.withoutLongS)) = .ok alg ∧ Algorithm.parse o.alg = .ok alg ∧
    ∀ w config w', job.configure w = (.ok config, w') →
      ∃ s : KeySigner Unit PublicKey, config.signer = s.toSigner ∧ s.alg = alg

/-- **The command line and the library, for every name of an algorithm**: the option takes a name
exactly if the library takes it once every long s is read as an s, and the signer has the algorithm
that the library takes it for. -/
theorem reads_of_chooses {call : Call} {top : Settled} (hcall : call.Reaches top words)
    (h : Chooses words a scan) : call.Reads words scan a := by
  have hjob := jobOf_of_reaches hcall
  have hrefused : key.parse call.setting? words = .error (.usage (algorithmRefusal a)) ↔
      ∀ alg, Algorithm.parse (.json (.str a.withoutLongS)) ≠ .ok alg := key_parse_eq_refusal_iff h
  refine { refused_iff := hrefused, refused := ?_, taken_iff := ?_, library := ?_, same := ?_,
           used := ?_ }
  · intro hnone files
    rw [hrefused.2 hnone] at hjob
    rw [run, runOn, hjob]
  · rw [← exists_key_parse_iff h, hjob]
    cases key.parse call.setting? words with
    | error s => simp
    | ok s => simp
  · intro alg halg
    have hsame := Algorithm.withoutLongS_of_ofName? (Algorithm.parse_text_eq_ok_iff.1 halg)
    rw [ne_eq, hrefused, hsame]
    exact ⟨fun hnone => hnone alg halg, halg⟩
  · intro hletters
    rw [hrefused, Text.withoutLongS_of_forall_ne hletters]
  · intro job hok
    rw [hjob] at hok
    cases hs : key.parse call.setting? words with
    | error s =>
        rw [hs] at hok
        cases hok
    | ok s =>
        rw [hs] at hok
        cases hok
        obtain ⟨alg, halg, hvalue⟩ := value?_of_key_parse h hs
        have hgiven : Algorithm.parse s.keyOptions.alg = .ok alg := by
          rw [Settled.keyOptions, hvalue]
          exact Algorithm.parse_name alg
        refine ⟨s.keyOptions, alg, rfl, halg, hgiven, fun w config w' hconfig => ?_⟩
        obtain ⟨signer, hsigner, htoSigner⟩ := Job.exists_of_configure rfl hconfig
        have hparse := KeySigner.parse_alg_of_keySigner hsigner
        rw [hgiven] at hparse
        exact ⟨signer, htoSigner, (Except.ok.inj hparse).symm⟩

/-! ### A call with a long s -/

/-- The call that signs the file `c` with the key `k` and the certificates `s`, with the given word
for the name of the algorithm. -/
def keying (a : Text) : Call where
  program := txt "claim_signing"
  environment := []
  words := [txt "sign", txt "key", txt "c", txt "--private_key", txt "k",
    txt "--signing_certificate", txt "s", txt "--alg", a]

/-- The words of that call after the command. -/
def keyingWords (a : Text) : List Text := (keying a).words.drop 2

/-- Those words, sorted. -/
def keyingScan (a : Text) : Scan where
  uses := [⟨privateKeyFlag, txt "k"⟩, ⟨certificateFlag, txt "s"⟩, ⟨algFlag, a⟩]
  words := [txt "c"]

theorem reaches_keying (a : Text) :
    (keying a).Reaches ⟨[(levelFlag.name, levelName .info)], [], (keying a).words⟩
      (keyingWords a) :=
  ⟨_, ⟨[], [], (keying a).words.drop 1⟩, rfl, rfl, rfl, rfl⟩

theorem chooses_keying (a : Text) : Chooses (keyingWords a) a (keyingScan a) where
  sorted := rfl
  values := by
    intro u hu
    simp only [keyingScan, List.mem_cons, List.not_mem_nil, or_false] at hu
    rcases hu with rfl | rfl | rfl <;> rfl
  last := rfl

/-- The name of an algorithm with a long s in it. -/
def longSName : Text := txt "e\u017f256"

theorem reads_of_chooses_longS :
    (keying longSName).Reaches ⟨[(levelFlag.name, levelName .info)], [], (keying longSName).words⟩
        (keyingWords longSName) ∧
      Chooses (keyingWords longSName) longSName (keyingScan longSName) ∧
      (keying longSName).Reads (keyingWords longSName) (keyingScan longSName) longSName :=
  ⟨reaches_keying _, chooses_keying _, reads_of_chooses (reaches_keying _) (chooses_keying _)⟩

/-- The option takes a name that the library does not take. -/
theorem not_forall_refused_iff :
    ¬ ∀ (call : Call) (top : Settled) (words : List Text) (scan : Scan) (a : Text),
      call.Reaches top words → Chooses words a scan →
        (key.parse call.setting? words ≠ .error (.usage (algorithmRefusal a)) ↔
          ∃ alg, Algorithm.parse (.json (.str a)) = .ok alg) := by
  intro hall
  have hiff := hall _ _ _ _ _ (reaches_keying longSName) (chooses_keying longSName)
  have hlong : Algorithm.parse (.json (.str longSName.withoutLongS)) = .ok .es256 := by rfl
  have htaken : key.parse (keying longSName).setting? (keyingWords longSName) ≠
      .error (.usage (algorithmRefusal longSName)) := by
    rw [ne_eq, key_parse_eq_refusal_iff (chooses_keying longSName)]
    intro hnone
    exact hnone _ hlong
  obtain ⟨alg, halg⟩ := hiff.1 htaken
  have hnone : Algorithm.ofName? longSName = none := by decide
  rw [Algorithm.parse_text_eq_ok_iff, hnone] at halg
  cases halg

end CommandLine

end ClaimSeal
