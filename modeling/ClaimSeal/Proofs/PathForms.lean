import ClaimSeal.Proofs.PathBytes
import ClaimSeal.Proofs.SignedFile
import ClaimSeal.Proofs.Sources

/-!
**The form of a path does not matter.**

A text may be given as a path as it is, as the path that has been read from it, or as the bytes that
it is written with.  The system gets the same for all of them, so the same file is read or written,
or the same operation fails.  A failure shows the path; it shows the text itself in each form,
unless surrogates in the text spell a code point out: then bytes are shown with that code point.

Main definitions:

* `PathArg.Form` — the forms of a text, and the paths that they mean;
* `Path.Alike` — paths for which the system gets the same, up to the text that is shown;
* `Failure.Respelled` — failures that show the one or the other of two paths;
* `Run.EndAlike`, `Operation.Matches` — runs that differ in such failures at most;
* `PathArg.FormFree` — **what reading and signing have to do with the form of a path**.

Main results:

* `PathArg.Form.alike` — the system gets the same for all forms;
* `Operation.Matches.bind` — operations that match step by step do so as a whole;
* `PathArg.formFree` — **the form of a path does not matter, but for what bytes are shown as**;
* `PathArg.not_forall_sameMessage` — bytes may be shown as another text.
-/

set_option autoImplicit false

namespace ClaimSeal

open Run

variable {σ α β : Type}

/-! ### Paths that the system takes alike -/

namespace Path

/-- The system gets the same for two paths, up to the text that is shown. -/
inductive Alike (p q : Path) : Prop
  | fault {e : PathFault} (hp : p.toSystem = .error e) (hq : q.toSystem = .error e)
  | system (sys : SystemPath) (hp : p.toSystem = .ok { sys with text := p.text })
      (hq : q.toSystem = .ok { sys with text := q.text })

theorem text_of_toSystem {p : Path} {sys : SystemPath} (h : p.toSystem = .ok sys) :
    sys.text = p.text := by
  unfold toSystem at h
  split at h
  · cases h
  · split at h
    · cases h
    · cases h
      rfl

theorem Alike.refl (p : Path) : Alike p p := by
  cases h : p.toSystem with
  | error e => exact .fault h h
  | ok sys =>
      have hp : p.toSystem = .ok { sys with text := p.text } := by
        rw [h, ← text_of_toSystem h]
      exact .system sys hp hp

/-- Texts with the same bytes have such paths. -/
theorem alike_parse {t u : Text} {b : Bytes} (ht : t.Encodes b) (hu : u.Encodes b) :
    Alike (parse t) (parse u) := by
  have htsys := ht.toSystem_parse
  have husys := hu.toSystem_parse
  unfold systemFrom at htsys husys
  split at htsys
  · next hzero =>
      rw [if_pos hzero] at husys
      exact .fault htsys husys
  · next hzero =>
      rw [if_neg hzero] at husys
      exact .system ⟨[], slashesIn b ≠ 0, namesIn b, (bytesFrom b).length⟩ htsys husys

end Path

namespace FileStore

/-- Whether a file can be read has nothing to do with the text that is shown. -/
theorem read_cases (s : FileStore) (sys : SystemPath) :
    (∃ content, ∀ text, s.read { sys with text } = .ok content) ∨
      ∃ o, ∀ text, s.read { sys with text } = .error ⟨o, text⟩ := by
  have hlocate (text : Text) : s.locate { sys with text } = s.locate sys := rfl
  simp only [read, hlocate]
  rcases s.locate sys with e | ⟨l⟩ | ⟨l, content⟩ | ⟨l⟩
  · exact .inr ⟨e, fun _ => rfl⟩
  · exact .inr ⟨.isDirectory, fun _ => rfl⟩
  · exact .inl ⟨content, fun _ => rfl⟩
  · exact .inr ⟨.notFound, fun _ => rfl⟩

/-- And so it is with writing one. -/
theorem write_cases (s : FileStore) (sys : SystemPath) (content : Bytes) :
    (∃ s', ∀ text, s.write { sys with text } content = .ok s') ∨
      ∃ o, ∀ text, s.write { sys with text } content = .error ⟨o, text⟩ := by
  have hlocate (text : Text) : s.locate { sys with text } = s.locate sys := rfl
  simp only [write, hlocate]
  rcases s.locate sys with e | ⟨l⟩ | ⟨l, _⟩ | ⟨l⟩
  · exact .inr ⟨e, fun _ => rfl⟩
  · exact .inr ⟨.isDirectory, fun _ => rfl⟩
  · exact .inl ⟨_, fun _ => rfl⟩
  · exact .inl ⟨_, fun _ => rfl⟩

end FileStore

/-! ### Runs that end alike -/

/-- The same value, or related failures. -/
inductive Outcome.SameBut (R : Failure → Failure → Prop) :
    Except Failure α → Except Failure α → Prop
  | value (a : α) : SameBut R (.ok a) (.ok a)
  | failure {f g : Failure} (h : R f g) : SameBut R (.error f) (.error g)

theorem Outcome.SameBut.refl {R : Failure → Failure → Prop} (hR : ∀ f, R f f)
    (r : Except Failure α) : SameBut R r r := by
  cases r with
  | ok a => exact .value a
  | error f => exact .failure (hR f)

/-- Two runs end with the same value or related failures, with the same files and with the backend
in the same state; the log does not count. -/
structure Run.EndAlike (R : Failure → Failure → Prop) (r r' : Except Failure α × World σ) :
    Prop where
  outcome : Outcome.SameBut R r.1 r'.1
  files : r.2.files = r'.2.files
  backend : r.2.backend = r'.2.backend

/-- Failures that are the same, or the same failure of a file operation on one path and on
another, which is shown instead. -/
inductive Failure.Respelled (p q : Path) : Failure → Failure → Prop
  | same (f : Failure) : Respelled p q f f
  | file (o : Obstacle) : Respelled p q (.file ⟨o, p.text⟩) (.file ⟨o, q.text⟩)
  | unreadable (o : Obstacle) : Respelled p q (.credential (.unreadable p ⟨o, p.text⟩))
      (.credential (.unreadable q ⟨o, q.text⟩))

namespace Failure.Respelled

variable {p q : Path} {f g : Failure}

theorem kind_eq (h : Respelled p q f g) : f.kind = g.kind ∧ f.cause? = g.cause? := by
  cases h <;> exact ⟨rfl, rfl⟩

/-- If the same path is shown they are the same. -/
theorem eq (h : Respelled p p f g) : f = g := by
  cases h <;> rfl

end Failure.Respelled

/-- What can be read at one path can be read at the other; what cannot be is reported for each. -/
theorem Path.Alike.sameBut_read {p q : Path} (h : Alike p q) {R : Failure → Failure → Prop}
    {report report' : FileError → Failure} (hR : ∀ f, R f f)
    (hreport : ∀ o, R (report ⟨o, p.text⟩) (report' ⟨o, q.text⟩)) (files : FileStore) :
    Outcome.SameBut R
      (do let sys ← p.toSystem.mapError Failure.path
          (files.read sys).mapError report)
      (do let sys ← q.toSystem.mapError Failure.path
          (files.read sys).mapError report') := by
  cases h with
  | @fault e hp hq =>
      rw [hp, hq]
      exact .failure (hR (.path e))
  | system sys hp hq =>
      rw [hp, hq]
      change Outcome.SameBut R ((files.read { sys with text := p.text }).mapError report)
        ((files.read { sys with text := q.text }).mapError report')
      rcases files.read_cases sys with ⟨content, hread⟩ | ⟨o, hread⟩
      · rw [hread, hread]
        exact .value content
      · rw [hread, hread]
        exact .failure (hreport o)

namespace Operation

variable {R : Failure → Failure → Prop}

/-- Two operations give the same value or related failures and leave the same world. -/
def Matches (R : Failure → Failure → Prop) (o o' : Operation σ α) : Prop :=
  ∀ w, Outcome.SameBut R (o w).1 (o' w).1 ∧ (o w).2 = (o' w).2

theorem Matches.refl (hR : ∀ f, R f f) (o : Operation σ α) : Matches R o o :=
  fun _ => ⟨.refl hR _, rfl⟩

/-- Operations that match are followed by operations that match. -/
theorem Matches.bind {o o' : Operation σ α} {f f' : α → Operation σ β} (ho : Matches R o o')
    (hf : ∀ a, Matches R (f a) (f' a)) : Matches R (o >>= f) (o' >>= f') := by
  intro w
  have hw := ho w
  rw [bind_apply, bind_apply]
  rcases hrun : o w with ⟨r, v⟩
  rcases hrun' : o' w with ⟨r', v'⟩
  rw [hrun, hrun'] at hw
  obtain ⟨hr, hv : v = v'⟩ := hw
  subst hv
  cases hr with
  | value a => exact hf a v
  | failure h => exact ⟨.failure h, rfl⟩

theorem matches_readFile {p q : Path} (h : p.Alike q) (hR : ∀ f, R f f)
    (hfile : ∀ o, R (.file ⟨o, p.text⟩) (.file ⟨o, q.text⟩)) :
    Matches R (readFile p : Operation σ Bytes) (readFile q) := by
  intro w
  rw [readFile, readFile, readFileOr_apply, readFileOr_apply]
  exact ⟨h.sameBut_read hR hfile w.files, rfl⟩

theorem matches_writeFile {p q : Path} (h : p.Alike q) (hR : ∀ f, R f f)
    (hfile : ∀ o, R (.file ⟨o, p.text⟩) (.file ⟨o, q.text⟩)) (content : Bytes) :
    Matches R (writeFile p content : Operation σ Unit) (writeFile q content) := by
  intro w
  rw [writeFile_apply, writeFile_apply]
  cases h with
  | @fault e hp hq =>
      rw [hp, hq]
      exact ⟨.failure (hR (.path e)), rfl⟩
  | system sys hp hq =>
      rw [hp, hq]
      dsimp only
      rcases w.files.write_cases sys content with ⟨files, hwrite⟩ | ⟨o, hwrite⟩
      · rw [hwrite, hwrite]
        exact ⟨.value (), rfl⟩
      · rw [hwrite, hwrite]
        exact ⟨.failure (hfile o), rfl⟩

end Operation

/-! ### Signing at two paths -/

namespace Config

open Operation

/-- Signing a claim at one path and writing the signature to another, without the log line that
shows the paths as they were given. -/
def signAt (c : Config σ) (p q : Path) : Operation σ SignedClaim := do
  let data ← readFile p
  let signed ← c.signBytes data
  writeFile q signed.signature
  return signed

theorem sign_of_toPath {a b : PathArg} {p q : Path} (ha : a.toPath = .ok p)
    (hb : b.toPath = .ok q) (c : Config σ) :
    c.sign a b = (do
      let signed ← c.signAt p q
      log .info (wroteLine a b)
      return signed) := by
  have hpath {a : PathArg} {p : Path} (h : a.toPath = .ok p) :
      (Operation.path a : Operation σ Path) = pure p := by
    rw [Operation.path, h]
    rfl
  simp only [sign_eq, signAt, hpath ha, hpath hb, pure_bind, bind_assoc]

theorem matches_signAt {p p' q q' : Path} (hp : p.Alike p') (hq : q.Alike q') (c : Config σ) :
    Matches (fun f g => Failure.Respelled p p' f g ∨ Failure.Respelled q q' f g)
      (c.signAt p q) (c.signAt p' q') := by
  refine (matches_readFile hp (fun f => .inl (.same f)) fun o => .inl (.file o)).bind fun data => ?_
  refine Matches.bind (.refl (fun f => .inl (.same f)) _) fun signed => ?_
  refine (matches_writeFile hq (fun f => .inl (.same f)) (fun o => .inr (.file o)) _).bind
    fun _ => ?_
  exact .refl (fun f => .inl (.same f)) _

/-- The log line that comes last makes no difference to how a run ends. -/
theorem endAlike_sign {R : Failure → Failure → Prop} {a a' b b' : PathArg} {p p' q q' : Path}
    (ha : a.toPath = .ok p) (ha' : a'.toPath = .ok p') (hb : b.toPath = .ok q)
    (hb' : b'.toPath = .ok q') {c : Config σ} (h : Matches R (c.signAt p q) (c.signAt p' q'))
    (w : World σ) : EndAlike R (c.sign a b w) (c.sign a' b' w) := by
  have hw := h w
  rw [sign_of_toPath ha hb, sign_of_toPath ha' hb', bind_apply, bind_apply]
  rcases hrun : c.signAt p q w with ⟨r, v⟩
  rcases hrun' : c.signAt p' q' w with ⟨r', v'⟩
  rw [hrun, hrun'] at hw
  obtain ⟨hr, hv : v = v'⟩ := hw
  subst hv
  cases hr with
  | value signed => exact ⟨.value signed, rfl, rfl⟩
  | failure h => exact ⟨.failure h, rfl, rfl⟩

end Config

/-! ### The forms of a path -/

namespace PathArg

/-- The forms in which a text may be given as a path, and what they mean: the text itself, the path
that has been read from it, and its bytes. -/
inductive Form (t : Text) : PathArg → Path → Prop
  | text : Form t (.text t) (Path.parse t)
  | path : Form t (.path (Path.parse t)) (Path.parse t)
  | bytes {b : Bytes} (h : t.toFileName = .ok b) :
      Form t (.bytes b) (Path.parse (Text.ofFileName b))

variable {t : Text} {a a' : PathArg} {p p' : Path}

theorem Form.toPath_eq (h : Form t a p) : a.toPath = .ok p := by
  cases h with
  | text => rfl
  | path => exact toPath_path _
  | bytes _ => rfl

/-- A form that is shown as the text: all are, but bytes only if nothing is spelled out in it. -/
def Faithful (t : Text) (a : PathArg) : Prop := (∃ b, a = .bytes b) → ¬ t.SpellsOut

theorem Form.eq_parse (h : Form t a p) (ha : Faithful t a) : p = Path.parse t := by
  cases h with
  | text | path => rfl
  | @bytes b hb => rw [(Text.encodes_iff.2 hb).ofFileName_eq (ha ⟨b, rfl⟩)]

/-- The system gets the same for all forms. -/
theorem Form.alike (h : Form t a p) (h' : Form t a' p') : p.Alike p' := by
  cases h with
  | text | path =>
      cases h' with
      | text | path => exact .refl _
      | bytes hb =>
          exact Path.alike_parse (Text.encodes_iff.2 hb) (Text.encodes_ofFileName _)
  | @bytes b hb =>
      cases h' with
      | text | path => exact Path.alike_parse (Text.encodes_ofFileName _) (Text.encodes_iff.2 hb)
      | @bytes b' hb' =>
          obtain rfl : b = b' := Except.ok.inj (hb.symm.trans hb')
          exact .refl _

/-- Reading credentials at forms of a text gives the same, up to the path that is shown. -/
theorem Form.endAlike_readCredential (h : Form t a p) (h' : Form t a' p') (w : World σ) :
    EndAlike (Failure.Respelled p p') (readCredential a w) (readCredential a' w) := by
  rw [readCredential_apply, readCredential_apply, FileStore.credentialAt, FileStore.credentialAt,
    FileStore.contentAt_of_toPath h.toPath_eq, FileStore.contentAt_of_toPath h'.toPath_eq]
  exact ⟨(h.alike h').sameBut_read .same .unreadable w.files, rfl, rfl⟩

/-- What reading and signing have to do with the form in which texts are given as paths: `t` for
credentials or a claim, `u` for its signature. -/
structure FormFree (c : Config σ) (t u : Text) (w : World σ) : Prop where
  /-- To read credentials at a text is to read them at any form that is shown as the text. -/
  reading : ∀ a p, Form t a p → Faithful t a → readCredential a w = readCredential (.text t) w
  /-- Signing a claim ends the same for texts and for any such forms of both of them. -/
  signing : ∀ a b p q, Form t a p → Faithful t a → Form u b q → Faithful u b →
    EndAlike (· = ·) (c.sign a b w) (c.sign (.text t) (.text u) w)
  /-- To give the bytes is to give the text exactly if nothing is spelled out in it. -/
  undone : ∀ b, t.toFileName = .ok b → (Text.ofFileName b = t ↔ ¬ t.SpellsOut)
  /-- Nothing is spelled out in a text that comes from bytes, whatever bytes they are. -/
  decoded : ∀ b, t = Text.ofFileName b → ¬ t.SpellsOut
  /-- Nothing is spelled out in a text without surrogates. -/
  scalar : (∀ d ∈ t, d.isSurrogate = false) → ¬ t.SpellsOut
  /-- Whatever is spelled out, the same is read at all forms, or the same failure shows the path
  that the form means. -/
  readingShown : ∀ a a' p p', Form t a p → Form t a' p' →
    EndAlike (Failure.Respelled p p') (readCredential a w) (readCredential a' w)
  /-- The same is signed and written for all forms, or the same failure shows one of the paths that
  they mean. -/
  signingShown : ∀ a a' b b' p p' q q', Form t a p → Form t a' p' → Form u b q → Form u b' q' →
    EndAlike (fun f g => Failure.Respelled p p' f g ∨ Failure.Respelled q q' f g)
      (c.sign a b w) (c.sign a' b' w)
  /-- Such a failure is of the same kind and has a cause of the same kind. -/
  kinds : ∀ p p' f g, Failure.Respelled p p' f g → f.kind = g.kind ∧ f.cause? = g.cause?

/-- **The form of a path does not matter**, for all texts, files and signers, but for what bytes
are shown as that spell a code point out with surrogates. -/
theorem formFree (c : Config σ) (t u : Text) (w : World σ) : FormFree c t u w where
  reading a p h ha := by
    have hp : a.toPath = toPath (.text t) := by rw [h.toPath_eq, h.eq_parse ha, toPath]
    rw [readCredential, readCredential, Operation.path, Operation.path, hp]
  signing a b p q h ha k hb := by
    obtain rfl := h.eq_parse ha
    obtain rfl := k.eq_parse hb
    exact Config.endAlike_sign h.toPath_eq rfl k.toPath_eq rfl (.refl (fun _ => rfl) _) w
  undone b hb := Text.ofFileName_eq_iff (Text.encodes_iff.2 hb)
  decoded b ht := ht ▸ Text.not_spellsOut_ofFileName b
  scalar ht := Text.not_spellsOut_of_forall ht
  readingShown a a' p p' h h' := h.endAlike_readCredential h' w
  signingShown a a' b b' p p' q q' h h' k k' :=
    Config.endAlike_sign h.toPath_eq h'.toPath_eq k.toPath_eq k'.toPath_eq
      (c.matches_signAt (h.alike h') (k.alike k')) w
  kinds p p' f g h := h.kind_eq

/-- Two surrogates that stand for the bytes of an e with an acute accent. -/
def spelledOut : Text := [CodePoint.ofNat 0xDCC3, CodePoint.ofNat 0xDCA9]

/-- Bytes may be shown as another text than the one that they are the bytes of. -/
theorem not_forall_sameMessage :
    ¬ ∀ (t : Text) (b : Bytes) (w : World Unit), t.toFileName = .ok b →
      (readCredential (.text t) w).1.mapError Failure.message =
        (readCredential (.bytes b) w).1.mapError Failure.message := by
  intro h
  have hsame := h spelledOut [0xC3, 0xA9] ⟨⟨[], [], []⟩, [], ()⟩ rfl
  revert hsame
  decide +kernel

end PathArg

end ClaimSeal
