import ClaimSeal.CommandLine.Program
import ClaimSeal.Proofs.FileNames
import ClaimSeal.Proofs.Operation

/-!
**The words of a command line and the values of its options.**

An operating system passes words that are texts of file names.  Sorting the words and giving the
options their values only takes such words apart, and what options have by default is made in the
same way; so the paths in the values can always be given to file operations.

Main definitions:

* `Call.IsPassable` — the words of a call are such as an operating system passes;
* `Call.Selects` — the words of a call lead to a signing command;
* `IsHandedOn` — what values have if the words have it that they are taken from.

Main results:

* `Command.proper_of_scan` — sorting the words;
* `mem_lastValues_iff` — the value that an option gets is the one given last;
* `Command.isNameable_of_parse` — reading the words of a command;
* `selects_of_jobOf` — a job comes from a signing command;
* `exists_toSystem_of_jobOf` — **the path of the metadata can be given to file operations**.
-/

set_option autoImplicit false

namespace ClaimSeal

namespace CommandLine

open Text

/-- The words of a call are such as an operating system passes: byte strings without a zero. -/
def Call.IsPassable (call : Call) : Prop :=
  ∀ word ∈ call.words, ∃ b, word = Text.ofFileName b ∧ 0 ∉ b

/-! ### Commands -/

/-- The commands that sign, by their names. -/
def signingCommands : List (Text × Command) := [(txt "key", key), (txt "placeholder", placeholder)]

/-- The words of a call lead to the signing command `c`: `top` are the values of the program's own
options, and `s` are those of the command. -/
def Call.Selects (call : Call) (c : Command) (top s : Settled) : Prop :=
  ∃ words below method rest, root.parse call.setting? call.words = .ok top ∧
    top.words = txt "sign" :: words ∧ signGroup.parse call.setting? words = .ok below ∧
    below.words = method :: rest ∧ (method, c) ∈ signingCommands ∧
    c.parse call.setting? rest = .ok s

theorem mem_of_lookup_isSome {α : Type} {name : Text} {entries : List (Text × α)}
    (h : (entries.lookup name).isSome = true) : name ∈ entries.map Prod.fst := by
  induction entries with
  | nil => cases h
  | cons e rest ih =>
      rw [List.lookup_cons] at h
      split at h
      · next he => exact List.mem_map.2 ⟨e, List.mem_cons_self, (eq_of_beq he).symm⟩
      · exact List.mem_cons_of_mem _ (ih h)

/-- A command with others below it is followed by the name of one of them. -/
theorem parse_of_parseGroup {c : Command} {call : Call} {path name : Text} {words rest : List Text}
    {s : Settled} (h : parseGroup c call path words = .ok (s, name, rest)) :
    c.parse call.setting? words = .ok s ∧ s.words = name :: rest ∧ name ∈ c.below.map Prod.fst := by
  unfold parseGroup at h
  split at h
  · cases h
  · split at h
    · cases h
    · next s' hs =>
        split at h
        · cases h
        · next name' rest' hwords =>
            split at h
            · next hbelow =>
                cases h
                exact ⟨hs, hwords, mem_of_lookup_isSome hbelow⟩
            · dsimp only at h
              split at h <;> cases h

theorem parse_of_parseSigning {c : Command} {call : Call} {path : Text} {words : List Text}
    {s : Settled} (h : parseSigning c call path words = .ok s) :
    c.parse call.setting? words = .ok s := by
  unfold parseSigning at h
  split at h
  · cases h
  · next hs =>
      cases h
      exact hs

/-- A job comes from a signing command: the values of its options say what is asked for. -/
theorem selects_of_jobOf {call : Call} {job : Job} (h : jobOf call = .ok job) :
    ∃ c top s, call.Selects c top s ∧
      ((c = key ∧ job = s.job (.key s.keyOptions) top.level) ∨
        c = placeholder ∧ job = s.job .placeholder top.level) := by
  obtain ⟨⟨top, group, words⟩, htop, h⟩ := Outcome.bind_eq_ok_iff.1 h
  obtain ⟨⟨below, method, rest⟩, hbelow, h⟩ := Outcome.bind_eq_ok_iff.1 h
  obtain ⟨htop, htopwords, hgroup⟩ := parse_of_parseGroup htop
  obtain ⟨hbelow, hbelowwords, hmethod⟩ := parse_of_parseGroup hbelow
  rw [List.mem_singleton.1 hgroup] at htopwords
  dsimp only at h
  split at h
  · next hkey =>
      obtain ⟨s, hs, h⟩ := Outcome.bind_eq_ok_iff.1 h
      cases h
      exact ⟨key, top, s, ⟨words, below, method, rest, htop, htopwords, hbelow, hbelowwords,
        hkey ▸ List.mem_cons_self, parse_of_parseSigning hs⟩, .inl ⟨rfl, rfl⟩⟩
  · next hkey =>
      obtain ⟨s, hs, h⟩ := Outcome.bind_eq_ok_iff.1 h
      cases h
      have hplaceholder : method = txt "placeholder" := by
        rcases List.mem_cons.1 hmethod with h | h
        · exact absurd h hkey
        · exact List.mem_singleton.1 h
      exact ⟨placeholder, top, s, ⟨words, below, method, rest, htop, htopwords, hbelow,
        hbelowwords, hplaceholder ▸ List.mem_cons_of_mem _ List.mem_cons_self,
        parse_of_parseSigning hs⟩, .inr ⟨rfl, rfl⟩⟩

/-! ### Sorting the words -/

/-- A property of words that is handed on to the values that are taken out of them. -/
structure IsHandedOn (P : Text → Prop) : Prop where
  nil : P []
  cut : ∀ {t name value : Text}, P t → t.cutAt? (cp '=') = some (name, value) → P value

theorem isHandedOn_true : IsHandedOn fun _ => True := ⟨trivial, fun _ _ => trivial⟩

theorem isHandedOn_isNameable : IsHandedOn Text.IsNameable where
  nil := isNameable_nil
  cut := by
    intro t name value ht h
    unfold Text.cutAt? at h
    split at h
    · cases h
    · next first rest hdrop =>
        cases h
        refine ht.mono fun x hx => ?_
        have hmem : x ∈ t.dropWhile (· ≠ cp '=') := by
          rw [hdrop]
          exact List.mem_cons_of_mem first hx
        exact (List.dropWhile_sublist _).subset hmem

/-- A use of an option of a command, with a value that has a property. -/
structure Use.Proper (P : Text → Prop) (c : Command) (u : Use) : Prop where
  mem : u.flag ∈ c.flags
  value : P u.value

variable {P : Text → Prop} {c : Command}

theorem Command.mem_of_flag? {name : Text} {f : Flag} (h : c.flag? name = some f) :
    f ∈ c.flags := List.mem_of_find?_eq_some h

theorem Command.mem_of_longFlag? {name : Text} {f : Flag} (h : c.longFlag? name = some f) :
    f ∈ c.flags := by
  unfold longFlag? at h
  split at h
  · exact mem_of_flag? h
  · cases h

theorem Command.proper_of_letters (hP : IsHandedOn P) {letters : Text} {uses : List Use}
    (h : c.letters letters = .ok uses) : ∀ u ∈ uses, u.Proper P c := by
  induction letters generalizing uses with
  | nil =>
      cases h
      exact nofun
  | cons l rest ih =>
      rw [Command.letters] at h
      split at h
      · cases h
      · next f hf =>
          obtain ⟨others, hothers, h⟩ := Outcome.bind_eq_ok_iff.1 h
          cases h
          exact List.forall_mem_cons.2 ⟨⟨mem_of_flag? hf, hP.nil⟩, ih hothers⟩

/-- What a word that starts like an option stands for is taken from the word and the options of the
command. -/
structure Opening.Proper (P : Text → Prop) (c : Command) (o : Opening) : Prop where
  uses : ∀ u ∈ o.uses, u.Proper P c
  waiting : ∀ name f, o.waiting = some (name, f) → f ∈ c.flags

theorem Opening.proper_of_uses {uses : List Use} (h : ∀ u ∈ uses, u.Proper P c) :
    Opening.Proper P c ⟨uses, none⟩ where
  uses := h
  waiting := by
    intro name f h
    cases h

theorem Opening.proper_of_waiting {name : Text} {f : Flag} (h : f ∈ c.flags) :
    Opening.Proper P c ⟨[], some (name, f)⟩ where
  uses := nofun
  waiting := by
    intro name' f' hf
    cases hf
    exact h

theorem Opening.proper_of_letters (hP : IsHandedOn P) {letters : Text} {o : Opening}
    (h : ((c.letters letters).map fun uses => (⟨uses, none⟩ : Opening)) = .ok o) :
    o.Proper P c := by
  cases hletters : c.letters letters with
  | error e =>
      rw [hletters] at h
      cases h
  | ok uses =>
      rw [hletters] at h
      cases h
      exact proper_of_uses (Command.proper_of_letters hP hletters)

theorem Command.proper_of_opening (hP : IsHandedOn P) {word : Text} {o : Opening} (hword : P word)
    (h : c.opening word = .ok o) : o.Proper P c := by
  unfold opening at h
  -- a value may stand in the word itself, after an equals sign
  cases hcut : word.cutAt? (cp '=') with
  | none =>
      rw [hcut] at h
      dsimp only at h
      split at h
      · next f hf =>
          split at h
          · cases h
            exact Opening.proper_of_waiting (mem_of_longFlag? hf)
          · rw [Option.isSome_none, if_neg Bool.false_ne_true] at h
            cases h
            exact Opening.proper_of_uses
              (List.forall_mem_singleton.2 ⟨mem_of_longFlag? hf, hP.nil⟩)
      · split at h
        · cases h
        · exact Opening.proper_of_letters hP h
  | some pair =>
      obtain ⟨name, v⟩ := pair
      rw [hcut] at h
      dsimp only at h
      split at h
      · next f hf =>
          split at h
          · cases h
            exact Opening.proper_of_uses (List.forall_mem_singleton.2
              ⟨mem_of_longFlag? hf, hP.cut hword hcut⟩)
          · rw [Option.isSome_some, if_pos rfl] at h
            cases h
      · split at h
        · cases h
        · exact Opening.proper_of_letters hP h

theorem Command.proper_of_scanFrom (hP : IsHandedOn P) {words : List Text}
    {waiting : Option (Text × Flag)} {s : Scan} (hwords : ∀ word ∈ words, P word)
    (hwaiting : ∀ name f, waiting = some (name, f) → f ∈ c.flags)
    (h : c.scanFrom waiting words = .ok s) :
    (∀ u ∈ s.uses, u.Proper P c) ∧ ∀ word ∈ s.words, P word := by
  have hnone : ∀ name f, (none : Option (Text × Flag)) = some (name, f) → f ∈ c.flags :=
    fun _ _ h => nomatch h
  -- the words are taken one by one; a word is read in the light of the one before it
  induction words generalizing waiting s with
  | nil =>
      cases waiting with
      | some pair => cases h
      | none =>
          cases h
          exact ⟨nofun, nofun⟩
  | cons word rest ih =>
      obtain ⟨hword, hrest⟩ := List.forall_mem_cons.1 hwords
      cases waiting with
      | some pair =>
          rw [scanFrom] at h
          obtain ⟨s', hs', h⟩ := Outcome.bind_eq_ok_iff.1 h
          cases h
          obtain ⟨huses, hleft⟩ := ih hrest hnone hs'
          exact ⟨List.forall_mem_cons.2 ⟨⟨hwaiting _ _ rfl, hword⟩, huses⟩, hleft⟩
      | none =>
          rw [scanFrom] at h
          split at h
          · cases h
            exact ⟨nofun, hrest⟩
          · split at h
            · obtain ⟨o, ho, h⟩ := Outcome.bind_eq_ok_iff.1 h
              obtain ⟨s', hs', h⟩ := Outcome.bind_eq_ok_iff.1 h
              cases h
              have hopening := proper_of_opening hP hword ho
              obtain ⟨huses, hleft⟩ := ih hrest hopening.waiting hs'
              exact ⟨List.forall_mem_append.2 ⟨hopening.uses, huses⟩, hleft⟩
            · split at h
              · obtain ⟨s', hs', h⟩ := Outcome.bind_eq_ok_iff.1 h
                cases h
                obtain ⟨huses, hleft⟩ := ih hrest hnone hs'
                exact ⟨huses, List.forall_mem_cons.2 ⟨hword, hleft⟩⟩
              · cases h
                exact ⟨nofun, hwords⟩

/-- Sorting the words of a command gives uses of its own options. -/
theorem Command.proper_of_scan (hP : IsHandedOn P) {words : List Text} {s : Scan}
    (hwords : ∀ word ∈ words, P word) (h : c.scan words = .ok s) :
    (∀ u ∈ s.uses, u.Proper P c) ∧ ∀ word ∈ s.words, P word := by
  refine proper_of_scanFrom hP hwords ?_ h
  intro name f hnone
  cases hnone

/-! ### Giving values -/

/-- What an option has without the words of the line is made of what occurs in file names, and
nothing comes from the environment. -/
structure Flag.Proper (f : Flag) : Prop where
  choices : ∀ choice ∈ f.choices, Text.IsNameable choice
  default : Text.IsNameable (f.default?.getD [])
  environment : f.envName? = none

theorem Flag.Proper.of_bare {f : Flag} (hchoices : f.choices = []) (hdefault : f.default? = none)
    (henvironment : f.envName? = none) : f.Proper where
  choices := by
    rw [hchoices]
    exact nofun
  default := by
    rw [hdefault]
    exact isNameable_nil
  environment := henvironment

theorem Algorithm.isNameable_name (alg : Algorithm) : Text.IsNameable alg.name := by
  cases alg <;> exact isNameable_txt (by decide)

theorem proper_signatureFlag : signatureFlag.Proper where
  choices := nofun
  default := isNameable_txt (by decide)
  environment := rfl

theorem proper_algFlag : algFlag.Proper where
  choices := by
    intro choice h
    obtain ⟨alg, _, rfl⟩ := List.mem_map.1 h
    exact Algorithm.isNameable_name alg
  default := isNameable_nil
  environment := rfl

/-- The options of the commands that sign are such. -/
theorem proper_of_mem_signingCommands {name : Text} (h : (name, c) ∈ signingCommands) :
    ∀ f ∈ c.flags, f.Proper := by
  have hmetadata : metadataFlag.Proper := .of_bare rfl rfl rfl
  have hhelp : helpFlag.Proper := .of_bare rfl rfl rfl
  simp only [signingCommands, List.mem_cons, Prod.mk.injEq, List.not_mem_nil, or_false] at h
  rcases h with ⟨_, rfl⟩ | ⟨_, rfl⟩
  · simp only [key, List.forall_mem_cons]
    exact ⟨proper_signatureFlag, hmetadata, .of_bare rfl rfl rfl, .of_bare rfl rfl rfl,
      proper_algFlag, .of_bare rfl rfl rfl, .of_bare rfl rfl rfl, .of_bare rfl rfl rfl, hhelp,
      nofun⟩
  · simp only [placeholder, List.forall_mem_cons]
    exact ⟨proper_signatureFlag, hmetadata, hhelp, nofun⟩

theorem Flag.isNameable_of_meant {f : Flag} {value v : Text}
    (hchoices : ∀ choice ∈ f.choices, Text.IsNameable choice) (hvalue : value.IsNameable)
    (h : f.meant value = .ok v) : v.IsNameable := by
  unfold meant at h
  split at h
  · cases h
    exact hvalue
  · split at h
    · next choice hfind =>
        cases h
        exact hchoices _ (List.mem_of_find?_eq_some hfind)
    · cases h

/-- A use is kept if it is the last one of its option. -/
theorem mem_lastValues_iff {uses : List Use} {u : Use} :
    u ∈ lastValues uses ↔ (uses.filter (·.flag = u.flag)).getLast? = some u := by
  induction uses generalizing u with
  | nil => simp [lastValues]
  | cons first rest ih =>
      rw [lastValues]
      split
      · next v hv =>
          -- the option is used again, by `v` at last
          have hlast := ih.1 (List.mem_of_find?_eq_some hv)
          have hflag : v.flag = first.flag := by
            simpa using List.find?_some hv
          by_cases hu : u.flag = first.flag
          · rw [hflag] at hlast
            rw [List.filter_cons_of_pos (by simp [hu]), List.getLast?_cons, hu, hlast]
            simp [hu, eq_comm]
          · have hne : u ≠ v := by
              rintro rfl
              exact hu hflag
            rw [List.filter_cons_of_neg (by simpa using Ne.symm hu), ← ih]
            simp [hu, hne]
      · next hnone =>
          have hlater : ∀ v ∈ lastValues rest, v.flag ≠ first.flag := by
            simpa using List.find?_eq_none.1 hnone
          by_cases hu : u.flag = first.flag
          · have hrest : rest.filter (·.flag = first.flag) = [] := by
              cases hlast : (rest.filter (·.flag = first.flag)).getLast? with
              | none => exact List.getLast?_eq_none_iff.1 hlast
              | some v =>
                  have hflag : v.flag = first.flag := by
                    simpa using (List.mem_filter.1 (List.mem_of_getLast? hlast)).2
                  rw [← hflag] at hlast
                  exact absurd hflag (hlater v (ih.2 hlast))
            have hmem : u ∉ lastValues rest := fun h => hlater u h hu
            rw [List.filter_cons_of_pos (by simp [hu]), hu, hrest]
            simp [hmem, eq_comm]
          · have hne : u ≠ first := by
              rintro rfl
              exact hu rfl
            rw [List.filter_cons_of_neg (by simpa using Ne.symm hu), ← ih]
            simp [hne]

theorem mem_of_lastValues {uses : List Use} {u : Use} (h : u ∈ lastValues uses) : u ∈ uses :=
  (List.mem_filter.1 (List.mem_of_getLast? (mem_lastValues_iff.1 h))).1

/-- Every option that is used has a last use. -/
theorem exists_mem_lastValues_iff {uses : List Use} {f : Flag} :
    (∃ u ∈ lastValues uses, u.flag = f) ↔ ∃ u ∈ uses, u.flag = f := by
  constructor
  · rintro ⟨u, hu, hf⟩
    exact ⟨u, mem_of_lastValues hu, hf⟩
  · rintro ⟨u, hu, rfl⟩
    cases hlast : (uses.filter (·.flag = u.flag)).getLast? with
    | none =>
        have hnone := List.getLast?_eq_none_iff.1 hlast
        exact absurd (List.mem_filter.2 ⟨hu, decide_eq_true rfl⟩) (hnone ▸ List.not_mem_nil)
    | some v =>
        have hflag : v.flag = u.flag := by
          simpa using (List.mem_filter.1 (List.mem_of_getLast? hlast)).2
        rw [← hflag] at hlast
        exact ⟨v, mem_lastValues_iff.2 hlast, hflag⟩

/-- The values of options that are used come from such options. -/
theorem exists_of_mem_usedValues {uses : List Use} {values : List (Text × Text)}
    {entry : Text × Text} (h : usedValues uses = .ok values) (hentry : entry ∈ values) :
    ∃ u ∈ uses, u.flag.name = entry.1 ∧ u.flag.meant u.value = .ok entry.2 := by
  obtain ⟨u, hu, hmap⟩ := Outcome.exists_of_mem_mapM h hentry
  obtain ⟨v, hv, rfl⟩ := Outcome.map_eq_ok_iff.1 hmap
  exact ⟨u, hu, rfl, hv⟩

/-- Every option that is used has its value. -/
theorem exists_mem_usedValues {uses : List Use} {values : List (Text × Text)} {u : Use}
    (h : usedValues uses = .ok values) (hu : u ∈ uses) :
    ∃ v, u.flag.meant u.value = .ok v ∧ (u.flag.name, v) ∈ values := by
  obtain ⟨entry, hentry, hmap⟩ := Outcome.exists_mem_of_mapM h hu
  obtain ⟨v, hv, rfl⟩ := Outcome.map_eq_ok_iff.1 hmap
  exact ⟨v, hv, hentry⟩

theorem isNameable_of_usedValues {uses : List Use} {values : List (Text × Text)}
    (hflags : ∀ f ∈ c.flags, f.Proper) (huses : ∀ u ∈ uses, u.Proper Text.IsNameable c)
    (h : usedValues uses = .ok values) : ∀ entry ∈ values, Text.IsNameable entry.2 := by
  intro entry hentry
  obtain ⟨u, hu, _, hmeant⟩ := exists_of_mem_usedValues h hentry
  exact Flag.isNameable_of_meant (hflags _ (huses u hu).mem).choices (huses u hu).value hmeant

/-- The values of options that are not used come from such options. -/
theorem exists_of_mem_unusedValues {environment : Text → Option Text} {flags : List Flag}
    {values : List (Text × Text)} {entry : Text × Text}
    (h : unusedValues environment flags = .ok values) (hentry : entry ∈ values) :
    ∃ f ∈ flags, entry.1 = f.name ∧ f.unused environment = .ok (some entry.2) := by
  induction flags generalizing values with
  | nil =>
      cases h
      cases hentry
  | cons f rest ih =>
      rw [unusedValues] at h
      obtain ⟨value, hvalue, h⟩ := Outcome.bind_eq_ok_iff.1 h
      obtain ⟨others, hothers, h⟩ := Outcome.bind_eq_ok_iff.1 h
      have hlater : entry ∈ others →
          ∃ g ∈ f :: rest, entry.1 = g.name ∧ g.unused environment = .ok (some entry.2) := by
        intro hmem
        obtain ⟨g, hg, hgentry⟩ := ih hothers hmem
        exact ⟨g, List.mem_cons_of_mem _ hg, hgentry⟩
      cases value with
      | none =>
          cases h
          exact hlater hentry
      | some v =>
          cases h
          rcases List.mem_cons.1 hentry with rfl | hmem
          · exact ⟨f, List.mem_cons_self, rfl, hvalue⟩
          · exact hlater hmem

/-- Every option that is not used has its value, if it has any. -/
theorem mem_unusedValues_of_unused {environment : Text → Option Text} {flags : List Flag}
    {values : List (Text × Text)} {f : Flag} {v : Text}
    (h : unusedValues environment flags = .ok values) (hf : f ∈ flags)
    (hv : f.unused environment = .ok (some v)) : (f.name, v) ∈ values := by
  induction flags generalizing values with
  | nil => cases hf
  | cons g rest ih =>
      rw [unusedValues] at h
      obtain ⟨value, hvalue, h⟩ := Outcome.bind_eq_ok_iff.1 h
      obtain ⟨others, hothers, h⟩ := Outcome.bind_eq_ok_iff.1 h
      rcases List.mem_cons.1 hf with rfl | hf
      · rw [hv] at hvalue
        cases hvalue
        cases h
        exact List.mem_cons_self
      · have hmem := ih hothers hf
        cases value with
        | none =>
            cases h
            exact hmem
        | some w =>
            cases h
            exact List.mem_cons_of_mem _ hmem

/-- The options that are not used are refused because of one of them. -/
theorem exists_of_unusedValues_eq_error {environment : Text → Option Text} {flags : List Flag}
    {e : UsageError} (h : unusedValues environment flags = .error e) :
    ∃ f ∈ flags, f.unused environment = .error e := by
  induction flags with
  | nil => cases h
  | cons f rest ih =>
      rw [unusedValues] at h
      rcases Outcome.bind_eq_error_iff.1 h with hf | ⟨value, _, h⟩
      · exact ⟨f, List.mem_cons_self, hf⟩
      · rcases Outcome.bind_eq_error_iff.1 h with hrest | ⟨others, _, h⟩
        · obtain ⟨g, hg, hge⟩ := ih hrest
          exact ⟨g, List.mem_cons_of_mem _ hg, hge⟩
        · cases value <;> cases h

/-- The options that are not used have their values if none of them is refused. -/
theorem exists_unusedValues_iff {environment : Text → Option Text} {flags : List Flag} :
    (∃ values, unusedValues environment flags = .ok values) ↔
      ∀ f ∈ flags, ∃ v, f.unused environment = .ok v := by
  induction flags with
  | nil => exact ⟨fun _ => nofun, fun _ => ⟨_, rfl⟩⟩
  | cons f rest ih =>
      rw [List.forall_mem_cons, ← ih]
      constructor
      · rintro ⟨values, h⟩
        rw [unusedValues] at h
        obtain ⟨value, hvalue, h⟩ := Outcome.bind_eq_ok_iff.1 h
        obtain ⟨others, hothers, _⟩ := Outcome.bind_eq_ok_iff.1 h
        exact ⟨⟨value, hvalue⟩, others, hothers⟩
      · rintro ⟨⟨value, hvalue⟩, others, hothers⟩
        rw [unusedValues, hvalue, hothers]
        cases value <;> exact ⟨_, rfl⟩

/-- What an option has that nothing in the environment is about. -/
theorem Flag.unused_of_envName? {f : Flag} (environment : Text → Option Text)
    (h : f.envName? = none) :
    f.unused environment =
      match f.default? with
      | some value => .ok (some value)
      | none => if f.isRequired then .error (.missingOption f.name f.folded) else .ok none := by
  rw [unused, h]
  rfl

theorem isNameable_of_unusedValues {environment : Text → Option Text} {flags : List Flag}
    {values : List (Text × Text)} (hflags : ∀ f ∈ flags, f.Proper)
    (h : unusedValues environment flags = .ok values) :
    ∀ entry ∈ values, Text.IsNameable entry.2 := by
  intro entry hentry
  obtain ⟨f, hf, _, hvalue⟩ := exists_of_mem_unusedValues h hentry
  have hproper := hflags f hf
  rw [f.unused_of_envName? environment hproper.environment] at hvalue
  split at hvalue
  · next w hw =>
      cases hvalue
      have hdefault := hproper.default
      rwa [hw] at hdefault
  · split at hvalue <;> cases hvalue

theorem Command.isNameable_of_takeArgument {words rest : List Text} {argument : Text}
    (hwords : ∀ word ∈ words, word.IsNameable)
    (h : c.takeArgument words = .ok (argument, rest)) : ∀ word ∈ rest, word.IsNameable := by
  unfold takeArgument at h
  split at h
  · cases h
    exact hwords
  · cases h
    exact (List.forall_mem_cons.1 hwords).2
  · cases h

/-- The options of a command with a value that are not used. -/
def Command.unusedFlags (c : Command) (scan : Scan) : List Flag :=
  c.flags.filter fun f => f.role = .value && !((lastValues scan.uses).any fun u => u.flag = f)

/-- Options get their values if nothing else is asked for: those that are used and those that are
not, then the argument is there, and no words are left over if there is no command for them. -/
theorem Command.settle_eq_ok_iff {environment : Text → Option Text} {scan : Scan} {s : Settled} :
    c.settle environment scan = .ok s ↔
      (∀ u ∈ scan.uses, u.flag.role = .value) ∧ ∃ used unused,
        usedValues (lastValues scan.uses) = .ok used ∧
        c.takeArgument scan.words = .ok (s.argument, s.words) ∧
        unusedValues environment (c.unusedFlags scan) = .ok unused ∧
        (c.below.isEmpty = true → s.words.isEmpty = true) ∧ s.values = used ++ unused := by
  rw [settle]
  cases hasks : scan.uses.find? fun u => u.flag.role ≠ .value with
  | some u =>
      have hrole := List.find?_some hasks
      simp only [decide_eq_true_eq] at hrole
      constructor
      · intro h
        cases h
      · rintro ⟨hvalues, _⟩
        exact absurd (hvalues u (List.mem_of_find?_eq_some hasks)) hrole
  | none =>
      have hvalues : ∀ u ∈ scan.uses, u.flag.role = .value := by
        simpa using List.find?_eq_none.1 hasks
      simp only [Outcome.mapError_eq_ok_iff, Outcome.bind_eq_ok_iff]
      constructor
      · rintro ⟨used, hused, ⟨argument, words⟩, htake, unused, hunused, h⟩
        dsimp only at h
        split at h
        · cases h
        · next hleft =>
            cases h
            simp only [Bool.and_eq_true, Bool.not_eq_true', not_and, Bool.not_eq_false] at hleft
            exact ⟨hvalues, used, unused, hused, htake, hunused, hleft, rfl⟩
      · rintro ⟨_, used, unused, hused, htake, hunused, hleft, hs⟩
        refine ⟨used, hused, _, htake, unused, hunused, ?_⟩
        have hnone : ¬ (c.below.isEmpty && !s.words.isEmpty) = true := by
          simpa only [Bool.and_eq_true, Bool.not_eq_true', not_and, Bool.not_eq_false] using hleft
        dsimp only
        rw [if_neg hnone, ← hs]
        rfl

/-- Where there are no words none are left. -/
theorem Command.words_of_parse_nil {environment : Text → Option Text} {s : Settled}
    (h : c.parse environment [] = .ok s) : s.words = [] := by
  have hsettle : c.settle environment ⟨[], []⟩ = .ok s := h
  obtain ⟨_, _, _, _, htake, _⟩ := Command.settle_eq_ok_iff.1 hsettle
  cases hargument : c.argument? with
  | none =>
      simp only [Command.takeArgument, hargument, Except.ok.injEq, Prod.mk.injEq] at htake
      exact htake.2.symm
  | some placeholder => simp [Command.takeArgument, hargument] at htake

/-- If nothing else is asked for, what is wrong is the value of an option that is used, else the
argument, else an option that is not used, else the words left over. -/
theorem Command.settle_eq_usage_iff {environment : Text → Option Text} {scan : Scan}
    {e : UsageError} :
    c.settle environment scan = .error (.usage e) ↔
      (∀ u ∈ scan.uses, u.flag.role = .value) ∧
      (usedValues (lastValues scan.uses) = .error e ∨
        ∃ used, usedValues (lastValues scan.uses) = .ok used ∧
          (c.takeArgument scan.words = .error e ∨
            ∃ argument words, c.takeArgument scan.words = .ok (argument, words) ∧
              (unusedValues environment (c.unusedFlags scan) = .error e ∨
                ∃ unused, unusedValues environment (c.unusedFlags scan) = .ok unused ∧
                  (c.below.isEmpty && !words.isEmpty) = true ∧ e = .unexpected words))) := by
  rw [settle]
  cases hasks : scan.uses.find? fun u => u.flag.role ≠ .value with
  | some u =>
      have hrole := List.find?_some hasks
      simp only [decide_eq_true_eq] at hrole
      constructor
      · intro h
        dsimp only at h
        split at h <;> cases h
      · rintro ⟨hvalues, _⟩
        exact absurd (hvalues u (List.mem_of_find?_eq_some hasks)) hrole
  | none =>
      have hvalues : ∀ u ∈ scan.uses, u.flag.role = .value := by
        simpa using List.find?_eq_none.1 hasks
      simp only [Outcome.mapError_eq_error_iff, Outcome.bind_eq_error_iff, Stop.usage.injEq,
        exists_eq_right]
      constructor
      · rintro (h | ⟨used, hused, h | ⟨⟨argument, words⟩, htake, h | ⟨unused, hunused, h⟩⟩⟩)
        · exact ⟨hvalues, .inl h⟩
        · exact ⟨hvalues, .inr ⟨used, hused, .inl h⟩⟩
        · exact ⟨hvalues, .inr ⟨used, hused, .inr ⟨argument, words, htake, .inl h⟩⟩⟩
        · dsimp only at h
          split at h
          · next hleft =>
              cases h
              exact ⟨hvalues, .inr ⟨used, hused, .inr ⟨argument, words, htake,
                .inr ⟨unused, hunused, hleft, rfl⟩⟩⟩⟩
          · cases h
      · rintro ⟨_, h | ⟨used, hused, h | ⟨argument, words, htake,
          h | ⟨unused, hunused, hleft, rfl⟩⟩⟩⟩
        · exact .inl h
        · exact .inr ⟨used, hused, .inl h⟩
        · exact .inr ⟨used, hused, .inr ⟨_, htake, .inl h⟩⟩
        · refine .inr ⟨used, hused, .inr ⟨_, htake, .inr ⟨unused, hunused, ?_⟩⟩⟩
          dsimp only
          rw [if_pos hleft]
          rfl

/-- Reading words that are made of what occurs in file names gives values that are made of it too,
and leaves such words. -/
theorem Command.isNameable_of_parse {environment : Text → Option Text} {words : List Text}
    {s : Settled} (hwords : ∀ word ∈ words, word.IsNameable)
    (h : c.parse environment words = .ok s) :
    (∀ word ∈ s.words, word.IsNameable) ∧
      ((∀ f ∈ c.flags, f.Proper) → ∀ entry ∈ s.values, Text.IsNameable entry.2) := by
  unfold parse at h
  split at h
  · cases h
  · next scan hscan =>
      obtain ⟨huses, hleft⟩ := proper_of_scan isHandedOn_isNameable hwords hscan
      obtain ⟨_, used, unused, hused, htake, hunused, _, hvalues⟩ := settle_eq_ok_iff.1 h
      refine ⟨isNameable_of_takeArgument hleft htake, fun hflags => ?_⟩
      rw [hvalues]
      refine List.forall_mem_append.2 ⟨?_, ?_⟩
      · exact isNameable_of_usedValues hflags (fun u hu => huses u (mem_of_lastValues hu)) hused
      · exact isNameable_of_unusedValues (fun f hf => hflags f (List.mem_filter.1 hf).1) hunused

theorem mem_of_lookup_eq_some {entries : List (Text × Text)} {name value : Text}
    (h : entries.lookup name = some value) : (name, value) ∈ entries := by
  induction entries with
  | nil => cases h
  | cons e rest ih =>
      rw [List.lookup_cons] at h
      split at h
      · next he =>
          cases h
          rw [eq_of_beq he]
          exact List.mem_cons_self
      · exact List.mem_cons_of_mem _ (ih h)

theorem lookup_eq_some_of_forall {entries : List (Text × Text)} {name value : Text}
    (hmem : (name, value) ∈ entries) (hall : ∀ v, (name, v) ∈ entries → v = value) :
    entries.lookup name = some value := by
  cases hlookup : entries.lookup name with
  | none =>
      rw [List.lookup_eq_none_iff] at hlookup
      exact absurd (hlookup _ hmem) (by simp)
  | some v => rw [hall v (mem_of_lookup_eq_some hlookup)]

/-- The values of a signing command that an operating system has passed. -/
theorem isNameable_of_selects {call : Call} {top s : Settled} (hcall : call.IsPassable)
    (h : call.Selects c top s) : ∀ entry ∈ s.values, Text.IsNameable entry.2 := by
  obtain ⟨words, below, method, rest, htop, htopwords, hbelow, hbelowwords, hmem, hs⟩ := h
  have hwords : ∀ word ∈ call.words, word.IsNameable := by
    intro word hword
    obtain ⟨b, rfl, hzero⟩ := hcall word hword
    exact isNameable_ofFileName hzero
  have hwords := (Command.isNameable_of_parse hwords htop).1
  rw [htopwords] at hwords
  have hwords := (Command.isNameable_of_parse (List.forall_mem_cons.1 hwords).2 hbelow).1
  rw [hbelowwords] at hwords
  exact (Command.isNameable_of_parse (List.forall_mem_cons.1 hwords).2 hs).2
    (proper_of_mem_signingCommands hmem)

/-- The path of the metadata in a call that an operating system has passed can be given to file
operations. -/
theorem exists_toSystem_of_jobOf {call : Call} {job : Job} {p : Path} (hcall : call.IsPassable)
    (hjob : jobOf call = .ok job) (hmetadata : job.metadata = some p) :
    ∃ sys, p.toSystem = .ok sys := by
  obtain ⟨c, top, s, hs, hwhich⟩ := selects_of_jobOf hjob
  have hpath : s.path? metadataFlag = some p := by
    rcases hwhich with ⟨_, rfl⟩ | ⟨_, rfl⟩ <;> exact hmetadata
  obtain ⟨value, hvalue, rfl⟩ := Option.map_eq_some_iff.1 hpath
  exact (isNameable_of_selects hcall hs _ (mem_of_lookup_eq_some hvalue)).exists_toSystem

end CommandLine

end ClaimSeal
