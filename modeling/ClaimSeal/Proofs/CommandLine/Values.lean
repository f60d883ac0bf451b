import Mathlib.Data.List.Nodup
import ClaimSeal.Proofs.CommandLine.Words

/-!
**What the words of a call give.**

Once the words after a command are sorted, every option has the value that it was given last, or
else its default.  Where there are choices the value is the choice with the same letters in either
case.  So what a job is made of is told by the words alone: where the claim, the signature and the
metadata are, and with which key and certificates the claim is signed.

Main definitions:

* `Scan.given` — the word that is given to an option;
* `Call.Sorts` — the words of a call, sorted;
* `Scan.GivesJob`, `Scan.GivesKey` — what the words give a job and the signer with a key.

Main results:

* `Command.value?_of_given` — the value of an option;
* `Command.value?_eq_given` — it is the word that is given, where there are no choices;
* `Command.exists_given` — an option that has to be used is given a word;
* `givesJob_of_settle`, `givesKey_of_settle` — what a job asks for is what the words give.
-/

set_option autoImplicit false

namespace ClaimSeal

namespace CommandLine

/-! ### What is given -/

/-- The word that is given to an option last, or else the one that it has by default. -/
def Scan.given (scan : Scan) (f : Flag) : Option Text :=
  ((scan.uses.filter (·.flag = f)).getLast?.map Use.value).or f.default?

/-- The words of a call lead to a signing command, and those after it are sorted. -/
def Call.Sorts (call : Call) (c : Command) (scan : Scan) : Prop :=
  ∃ top words below method rest, root.scan call.words = .ok top ∧ top.words = txt "sign" :: words ∧
    signGroup.scan words = .ok below ∧ below.words = method :: rest ∧
    (method, c) ∈ signingCommands ∧ c.scan rest = .ok scan

/-- What the words give a job: where the claim is and where the results go. -/
structure Scan.GivesJob (scan : Scan) (j : Job) : Prop where
  claim : ∃ word, scan.words = [word] ∧ j.claim = Path.parse word
  signature : ∃ word, scan.given signatureFlag = some word ∧ j.signature = Path.parse word
  metadata : j.metadata = (scan.given metadataFlag).map Path.parse

/-- What the words give for signing with a key; the letters of the name of the algorithm may be of
either case. -/
structure Scan.GivesKey (scan : Scan) (o : KeyOptions) : Prop where
  privateKey : ∃ word, scan.given privateKeyFlag = some word ∧
    o.privateKey = .path (Path.parse word)
  certificate : ∃ word, scan.given certificateFlag = some word ∧
    o.certificate = .path (Path.parse word)
  alg : ∃ (word : Text) (alg : Algorithm), scan.given algFlag = some word ∧
    alg.name.fold = word.fold ∧ o.alg = .json (.str alg.name)
  tsaUrl : o.tsaUrl = scan.given tsaFlag
  password : o.password = scan.given passwordFlag
  ocspResponse : o.ocspResponse = (scan.given ocspFlag).map fun word => .path (Path.parse word)

/-! ### The values of options -/

/-- The options of a command are told apart by their names. -/
def Command.TellsApart (c : Command) : Prop := (c.flags.map Flag.name).Nodup

theorem Command.TellsApart.eq {c : Command} (hc : c.TellsApart) {f g : Flag} (hf : f ∈ c.flags)
    (hg : g ∈ c.flags) (h : f.name = g.name) : f = g := List.inj_on_of_nodup_map hc hf hg h

section Values

variable {c : Command} {environment : Text → Option Text} {scan : Scan} {s : Settled} {f : Flag}

/-- An option that is used has the value that is meant by the last word given to it. -/
theorem Command.value?_of_used (hc : c.TellsApart) (huses : ∀ u ∈ scan.uses, u.flag ∈ c.flags)
    (h : c.settle environment scan = .ok s) {u : Use}
    (hu : (scan.uses.filter (·.flag = u.flag)).getLast? = some u) :
    ∃ v, u.flag.meant u.value = .ok v ∧ s.value? u.flag.name = some v := by
  obtain ⟨_, used, unused, hused, _, hunused, _, hvalues⟩ := Command.settle_eq_ok_iff.1 h
  have hlast : u ∈ lastValues scan.uses := mem_lastValues_iff.2 hu
  have hmem : u.flag ∈ c.flags := huses u (mem_of_lastValues hlast)
  obtain ⟨v, hv, hentry⟩ := exists_mem_usedValues hused hlast
  refine ⟨v, hv, ?_⟩
  rw [Settled.value?, hvalues]
  refine lookup_eq_some_of_forall (List.mem_append_left _ hentry) ?_
  intro v' hv'
  rcases List.mem_append.1 hv' with hv' | hv'
  · -- another value of that name is one that the option is given, so it is the last one
    obtain ⟨u', hu', hname, hmeant⟩ := exists_of_mem_usedValues hused hv'
    have hflag := hc.eq (huses u' (mem_of_lastValues hu')) hmem hname
    have hlast' := mem_lastValues_iff.1 hu'
    rw [hflag, hu] at hlast'
    obtain rfl := Option.some.inj hlast'
    exact Except.ok.inj (hmeant.symm.trans hv)
  · -- an option that is used has no other value besides
    obtain ⟨g, hg, hname, _⟩ := exists_of_mem_unusedValues hunused hv'
    obtain ⟨hg, hfree⟩ := List.mem_filter.1 hg
    rw [hc.eq hg hmem hname.symm] at hfree
    simp only [Bool.and_eq_true, Bool.not_eq_true', List.any_eq_false, decide_eq_true_eq] at hfree
    exact absurd rfl (hfree.2 u hlast)

/-- An option that is not used has the value that it has without the words. -/
theorem Command.value?_of_unused (hc : c.TellsApart) (huses : ∀ u ∈ scan.uses, u.flag ∈ c.flags)
    (h : c.settle environment scan = .ok s) (hf : f ∈ c.flags) (hrole : f.role = .value)
    (hno : ∀ u ∈ scan.uses, u.flag ≠ f) : f.unused environment = .ok (s.value? f.name) := by
  obtain ⟨_, used, unused, hused, _, hunused, _, hvalues⟩ := Command.settle_eq_ok_iff.1 h
  have hfree : f ∈ c.unusedFlags scan := by
    simp only [unusedFlags, List.mem_filter, Bool.and_eq_true, decide_eq_true_eq,
      Bool.not_eq_true', List.any_eq_false]
    exact ⟨hf, hrole, fun u hu => hno u (mem_of_lastValues hu)⟩
  obtain ⟨value, hvalue⟩ := exists_unusedValues_iff.1 ⟨unused, hunused⟩ f hfree
  -- whatever has the name of the option is what it has
  have hall : ∀ v, (f.name, v) ∈ s.values → value = some v := by
    intro v hv
    rw [hvalues] at hv
    rcases List.mem_append.1 hv with hv | hv
    · obtain ⟨u, hu, hname, _⟩ := exists_of_mem_usedValues hused hv
      have hu := mem_of_lastValues hu
      exact absurd (hc.eq (huses u hu) hf hname) (hno u hu)
    · obtain ⟨g, hg, hname, hg'⟩ := exists_of_mem_unusedValues hunused hv
      obtain rfl := hc.eq (List.mem_filter.1 hg).1 hf hname.symm
      exact Except.ok.inj (hvalue.symm.trans hg')
  rw [hvalue, Settled.value?]
  cases hlookup : s.values.lookup f.name with
  | some v => rw [hall v (mem_of_lookup_eq_some hlookup)]
  | none =>
      cases value with
      | none => rfl
      | some v =>
          have hentry := mem_unusedValues_of_unused hunused hfree hvalue
          rw [List.lookup_eq_none_iff] at hlookup
          have hne := hlookup (f.name, v) (hvalues ▸ List.mem_append_right _ hentry)
          rw [bne_self_eq_false] at hne
          cases hne

/-- Apart from the environment, an option has the value that is meant by the word given to it, or
its default; one that is not given any word need not be used. -/
theorem Command.value?_of_given (hc : c.TellsApart) (huses : ∀ u ∈ scan.uses, u.flag ∈ c.flags)
    (h : c.settle environment scan = .ok s) (hf : f ∈ c.flags) (hrole : f.role = .value)
    (henvironment : f.envName? = none) :
    (∃ word v, scan.given f = some word ∧ s.value? f.name = some v ∧
      (f.meant word = .ok v ∨ f.default? = some word ∧ v = word)) ∨
      (scan.given f = none ∧ s.value? f.name = none ∧ f.isRequired = false) := by
  cases hlast : (scan.uses.filter (·.flag = f)).getLast? with
  | some u =>
      have hu : u.flag = f := by
        simpa using (List.mem_filter.1 (List.mem_of_getLast? hlast)).2
      subst hu
      obtain ⟨v, hv, hvalue⟩ := value?_of_used hc huses h hlast
      have hgiven : scan.given u.flag = some u.value := by
        rw [Scan.given, hlast]
        rfl
      exact .inl ⟨u.value, v, hgiven, hvalue, .inl hv⟩
  | none =>
      have hgiven : scan.given f = f.default? := by
        rw [Scan.given, hlast]
        rfl
      have hno : ∀ u ∈ scan.uses, u.flag ≠ f := by
        intro u hu hflag
        have hmem : u ∈ scan.uses.filter (·.flag = f) :=
          List.mem_filter.2 ⟨hu, decide_eq_true hflag⟩
        rw [List.getLast?_eq_none_iff.1 hlast] at hmem
        exact List.not_mem_nil hmem
      have hunused := value?_of_unused hc huses h hf hrole hno
      rw [f.unused_of_envName? environment henvironment] at hunused
      rw [hgiven]
      cases hdefault : f.default? with
      | some v =>
          rw [hdefault] at hunused
          exact .inl ⟨v, v, rfl, (Except.ok.inj hunused).symm, .inr ⟨rfl, rfl⟩⟩
      | none =>
          rw [hdefault] at hunused
          dsimp only at hunused
          split at hunused
          · cases hunused
          · next hrequired =>
              exact .inr ⟨rfl, (Except.ok.inj hunused).symm, Bool.eq_false_iff.2 hrequired⟩

/-- Without choices, the value of an option is the word that is given to it. -/
theorem Command.value?_eq_given (hc : c.TellsApart) (huses : ∀ u ∈ scan.uses, u.flag ∈ c.flags)
    (h : c.settle environment scan = .ok s) (hf : f ∈ c.flags) (hrole : f.role = .value)
    (henvironment : f.envName? = none) (hchoices : f.choices = []) :
    s.value? f.name = scan.given f := by
  rcases value?_of_given hc huses h hf hrole henvironment with
    ⟨word, v, hgiven, hvalue, hmeant | ⟨_, rfl⟩⟩ | ⟨hgiven, hvalue, _⟩
  · rw [Flag.meant, hchoices] at hmeant
    cases hmeant
    rw [hgiven, hvalue]
  · rw [hgiven, hvalue]
  · rw [hgiven, hvalue]

/-- An option that has to be used is given a word. -/
theorem Command.exists_given (hc : c.TellsApart) (huses : ∀ u ∈ scan.uses, u.flag ∈ c.flags)
    (h : c.settle environment scan = .ok s) (hf : f ∈ c.flags) (hrole : f.role = .value)
    (henvironment : f.envName? = none) (hrequired : f.isRequired = true) :
    ∃ word, scan.given f = some word := by
  rcases value?_of_given hc huses h hf hrole henvironment with
    ⟨word, _, hgiven, _⟩ | ⟨_, _, hfree⟩
  · exact ⟨word, hgiven⟩
  · rw [hrequired] at hfree
    cases hfree

end Values

/-! ### What a job is made of -/

theorem tellsApart_key : key.TellsApart := by
  unfold Command.TellsApart
  decide

/-- The options of the commands that sign are told apart by their names. -/
theorem tellsApart_of_mem_signingCommands {method : Text} {c : Command}
    (h : (method, c) ∈ signingCommands) : c.TellsApart := by
  simp only [signingCommands, List.mem_cons, Prod.mk.injEq, List.not_mem_nil, or_false] at h
  rcases h with ⟨_, rfl⟩ | ⟨_, rfl⟩
  · exact tellsApart_key
  · unfold Command.TellsApart
    decide

/-- The commands that sign take one argument and say where the results go. -/
theorem flags_of_mem_signingCommands {method : Text} {c : Command}
    (h : (method, c) ∈ signingCommands) :
    signatureFlag ∈ c.flags ∧ metadataFlag ∈ c.flags ∧ c.argument?.isSome = true ∧
      c.below.isEmpty = true := by
  simp only [signingCommands, List.mem_cons, Prod.mk.injEq, List.not_mem_nil, or_false] at h
  rcases h with ⟨_, rfl⟩ | ⟨_, rfl⟩ <;> simp [key, placeholder]

/-- A command is parsed by sorting the words and giving its own options their values. -/
theorem Command.exists_scan_of_parse {c : Command} {environment : Text → Option Text}
    {words : List Text} {s : Settled} (h : c.parse environment words = .ok s) :
    ∃ scan, c.scan words = .ok scan ∧ c.settle environment scan = .ok s ∧
      ∀ u ∈ scan.uses, u.flag ∈ c.flags := by
  unfold parse at h
  split at h
  · cases h
  · next scan hscan =>
      exact ⟨scan, hscan, h, fun u hu =>
        ((proper_of_scan isHandedOn_true (fun _ _ => trivial) hscan).1 u hu).mem⟩

/-- A command without an argument leaves all words that are no options. -/
theorem Command.words_of_settle {c : Command} {environment : Text → Option Text} {scan : Scan}
    {s : Settled} (hc : c.argument? = none) (h : c.settle environment scan = .ok s) :
    scan.words = s.words := by
  obtain ⟨_, _, _, _, htake, _⟩ := Command.settle_eq_ok_iff.1 h
  simp only [takeArgument, hc] at htake
  exact congrArg Prod.snd (Except.ok.inj htake)

/-- The values of a signing command come from sorting the words after it. -/
theorem Call.exists_sorts_of_selects {call : Call} {c : Command} {top s : Settled}
    (h : call.Selects c top s) :
    ∃ method scan, (method, c) ∈ signingCommands ∧ call.Sorts c scan ∧
      c.settle call.setting? scan = .ok s ∧ ∀ u ∈ scan.uses, u.flag ∈ c.flags := by
  obtain ⟨words, below, method, rest, htop, htopwords, hbelow, hbelowwords, hmem, hs⟩ := h
  obtain ⟨topScan, htop, htopSettle, _⟩ := Command.exists_scan_of_parse htop
  obtain ⟨belowScan, hbelow, hbelowSettle, _⟩ := Command.exists_scan_of_parse hbelow
  obtain ⟨scan, hscan, hsettle, huses⟩ := Command.exists_scan_of_parse hs
  rw [← Command.words_of_settle rfl htopSettle] at htopwords
  rw [← Command.words_of_settle rfl hbelowSettle] at hbelowwords
  exact ⟨method, scan, hmem, ⟨topScan, words, belowScan, method, rest, htop, htopwords, hbelow,
    hbelowwords, hmem, hscan⟩, hsettle, huses⟩

section Jobs

variable {method : Text} {c : Command} {environment : Text → Option Text} {scan : Scan}
variable {s : Settled}

/-- The only word of a signing command that is no option is its argument. -/
theorem words_of_signing (hmem : (method, c) ∈ signingCommands)
    (h : c.settle environment scan = .ok s) : scan.words = [s.argument] := by
  obtain ⟨_, _, hargument, hbelow⟩ := flags_of_mem_signingCommands hmem
  obtain ⟨_, _, _, _, htake, _, hleft, _⟩ := Command.settle_eq_ok_iff.1 h
  obtain ⟨placeholder, hargument⟩ := Option.isSome_iff_exists.1 hargument
  cases hwords : scan.words with
  | nil =>
      simp only [Command.takeArgument, hargument, hwords] at htake
      cases htake
  | cons word rest =>
      simp only [Command.takeArgument, hargument, hwords] at htake
      have hnil := List.isEmpty_iff.1 (hleft hbelow)
      simp only [Except.ok.injEq, Prod.mk.injEq] at htake
      rw [htake.1, htake.2, hnil]

/-- The algorithm that is meant has the same letters in its name, of either case. -/
theorem exists_algorithm_of_meant {word v : Text} (h : algFlag.meant word = .ok v) :
    ∃ alg : Algorithm, v = alg.name ∧ alg.name.fold = word.fold := by
  unfold Flag.meant at h
  split at h
  · next hempty => exact absurd hempty (by decide)
  · split at h
    · next choice hfind =>
        cases h
        obtain ⟨alg, _, rfl⟩ := List.mem_map.1 (List.mem_of_find?_eq_some hfind)
        exact ⟨alg, rfl, by simpa using List.find?_some hfind⟩
    · cases h

/-- A path that an option is given is the one in its value. -/
theorem Settled.path_eq {f : Flag} {word : Text} (h : s.value? f.name = some word) :
    s.path f = Path.parse word := by
  rw [path, path?, h]
  rfl

/-- Where the claim of a job is and where its results go is what the words give. -/
theorem givesJob_of_settle (hmem : (method, c) ∈ signingCommands)
    (huses : ∀ u ∈ scan.uses, u.flag ∈ c.flags) (h : c.settle environment scan = .ok s)
    (m : Method) (level : Level) : scan.GivesJob (s.job m level) := by
  have hc := tellsApart_of_mem_signingCommands hmem
  obtain ⟨hsignature, hmetadata, _, _⟩ := flags_of_mem_signingCommands hmem
  refine { claim := ?_, signature := ?_, metadata := ?_ }
  · exact ⟨s.argument, words_of_signing hmem h, rfl⟩
  · have hvalue := Command.value?_eq_given hc huses h hsignature rfl rfl rfl
    -- without a word for it the signature has a path by default
    obtain ⟨word, hword⟩ : ∃ word, scan.given signatureFlag = some word := by
      rw [Scan.given]
      cases (scan.uses.filter (·.flag = signatureFlag)).getLast? with
      | some u => exact ⟨u.value, rfl⟩
      | none => exact ⟨_, rfl⟩
    exact ⟨word, hword, Settled.path_eq (hvalue.trans hword)⟩
  · exact congrArg (Option.map Path.parse)
      (Command.value?_eq_given hc huses h hmetadata rfl rfl rfl)

/-- What the signer with a key is built from is what the words give. -/
theorem givesKey_of_settle (huses : ∀ u ∈ scan.uses, u.flag ∈ key.flags)
    (h : key.settle environment scan = .ok s) : scan.GivesKey s.keyOptions := by
  have hc := tellsApart_key
  have hvalue : ∀ f ∈ key.flags, f.role = .value → f.envName? = none → f.choices = [] →
      s.value? f.name = scan.given f :=
    fun f hf hrole => Command.value?_eq_given hc huses h hf hrole
  have hpath : ∀ f ∈ key.flags, f.role = .value → f.envName? = none → f.choices = [] →
      f.isRequired = true → ∃ word, scan.given f = some word ∧
        PathArg.path (s.path f) = .path (Path.parse word) := by
    intro f hf hrole henvironment hchoices hrequired
    obtain ⟨word, hword⟩ := Command.exists_given hc huses h hf hrole henvironment hrequired
    have hgiven := hvalue f hf hrole henvironment hchoices
    exact ⟨word, hword, congrArg PathArg.path (Settled.path_eq (hgiven.trans hword))⟩
  refine {
    privateKey := hpath privateKeyFlag (by simp [key]) rfl rfl rfl rfl
    certificate := hpath certificateFlag (by simp [key]) rfl rfl rfl rfl
    alg := ?_
    tsaUrl := hvalue tsaFlag (by simp [key]) rfl rfl rfl
    password := hvalue passwordFlag (by simp [key]) rfl rfl rfl
    ocspResponse := ?_ }
  · have halg : algFlag ∈ key.flags := by simp [key]
    rcases Command.value?_of_given hc huses h halg rfl rfl with
      ⟨word, v, hgiven, hv, hmeant | ⟨hdefault, _⟩⟩ | ⟨_, _, hfree⟩
    · obtain ⟨alg, rfl, hfold⟩ := exists_algorithm_of_meant hmeant
      refine ⟨word, alg, hgiven, hfold, ?_⟩
      rw [Settled.keyOptions, hv]
      rfl
    · cases hdefault
    · cases hfree
  · have hgiven := hvalue ocspFlag (by simp [key]) rfl rfl rfl
    rw [Settled.keyOptions, Settled.path?, hgiven, Option.map_map]
    rfl

end Jobs

end CommandLine

end ClaimSeal
