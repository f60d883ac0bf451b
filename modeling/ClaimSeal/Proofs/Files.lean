import ClaimSeal.Proofs.Operation

/-!
**Where paths lead, and what file operations change.**

A path leads to a location if a file is there or may be put there.  Where it leads depends on the
directories alone, so writing files never changes it.  Writing puts the content at the
location, removing takes it away, and nothing else is touched; an operation that fails touches
nothing at all.

Other disks may also refuse to write a file, because it is not permitted or there is no room.  Those
that are steady are all that is needed to say what a run leaves.

Main definitions:

* `FileStore.LeadsTo`, `FileStore.Holds` — where a path leads, and what the file there holds;
* `Disk.Steady` — a disk that writes a file as a whole or not at all, and can undo it.

Main results:

* `FileStore.leadsTo_put_iff`, `FileStore.LeadsTo.unique` — a path leads to one location, before and
  after files are written;
* `FileStore.read_eq_ok_iff`, `FileStore.write_eq_ok_iff`, `FileStore.remove_of_locate` — the
  operations on a store;
* `FileStore.erase_put` — erasing what was put;
* `Operation.readFile_eq_ok_iff`, `Operation.writeFile_cases`, `Operation.removeFile_of_leadsTo` —
  the operations on the world;
* `Disk.steady_store` — the file operations of the store are steady.
-/

set_option autoImplicit false

namespace ClaimSeal

open Run

namespace FileStore

/-! ### Walking along names -/

/-- What is found at a location that is no directory. -/
def spotAt (s : FileStore) (l : Location) : Spot :=
  match s.content? l with
  | some content => .file l content
  | none => .free l

theorem spotAt_of_content? {s : FileStore} {l : Location} {content : Bytes}
    (h : s.content? l = some content) : s.spotAt l = .file l content := by
  rw [spotAt, h]

theorem spotAt_of_none {s : FileStore} {l : Location} (h : s.content? l = none) :
    s.spotAt l = .free l := by
  rw [spotAt, h]

theorem spotAt_ne_dir (s : FileStore) (l m : Location) : s.spotAt l ≠ .dir m := by
  intro h
  unfold spotAt at h
  split at h <;> cases h

theorem spotAt_injective {s : FileStore} {l m : Location} (h : s.spotAt l = s.spotAt m) :
    l = m := by
  unfold spotAt at h
  split at h <;> split at h <;> cases h <;> rfl

/-- A name is followed up, or down into a directory; at any other place the names have to end. -/
theorem walk_cons (s : FileStore) (origin : Location) (name : Bytes) (rest : List Bytes) :
    s.walk origin (name :: rest) =
      if name = ascii ".." then s.walk origin.dropLast rest
      else if nameLimit < name.length then .error .nameTooLong
      else if s.isDir (origin ++ [name]) then s.walk (origin ++ [name]) rest
      else if rest = [] then .ok (s.spotAt (origin ++ [name]))
      else .error
        (if (s.content? (origin ++ [name])).isSome then .notDirectory else .notFound) := by
  rw [walk, child]
  by_cases hup : name = ascii ".."
  · rw [if_pos hup, if_pos hup]
  · rw [if_neg hup, if_neg hup]
    by_cases hlong : nameLimit < name.length
    · rw [if_pos hlong, if_pos hlong]
    · rw [if_neg hlong, if_neg hlong]
      dsimp only
      by_cases hdir : s.isDir (origin ++ [name])
      · rw [if_pos hdir, if_pos hdir]
      · rw [if_neg hdir, if_neg hdir]
        cases hc : s.content? (origin ++ [name]) with
        | some content => rw [spotAt_of_content? hc]; rfl
        | none => rw [spotAt_of_none hc]; rfl

/-- Names lead to a directory or to what is found at some location. -/
theorem walk_eq_ok {s : FileStore} {origin : Location} {names : List Bytes} {spot : Spot}
    (h : s.walk origin names = .ok spot) : (∃ l, spot = .dir l) ∨ ∃ l, spot = s.spotAt l := by
  induction names generalizing origin with
  | nil =>
      cases h
      exact .inl ⟨_, rfl⟩
  | cons name rest ih =>
      rw [walk_cons] at h
      split at h
      · exact ih h
      · split at h
        · cases h
        · split at h
          · exact ih h
          · split at h
            · cases h
              exact .inr ⟨_, rfl⟩
            · cases h

/-- Stores with the same directories, whatever files they hold. -/
structure SameDirs (s s' : FileStore) : Prop where
  here : s'.here = s.here
  dirs : s'.dirs = s.dirs

theorem SameDirs.symm {s s' : FileStore} (h : SameDirs s s') : SameDirs s' s :=
  ⟨h.here.symm, h.dirs.symm⟩

theorem SameDirs.isDir_eq {s s' : FileStore} (h : SameDirs s s') (l : Location) :
    s'.isDir l = s.isDir l := by
  rw [isDir, isDir, h.here, h.dirs]

theorem sameDirs_put (s : FileStore) (l : Location) (content : Bytes) :
    SameDirs s (s.put l content) := ⟨rfl, rfl⟩

theorem SameDirs.walk {s s' : FileStore} (h : SameDirs s s') {origin l : Location}
    {names : List Bytes} (hw : s.walk origin names = .ok (s.spotAt l)) :
    s'.walk origin names = .ok (s'.spotAt l) := by
  induction names generalizing origin with
  | nil => exact absurd (Except.ok.inj hw).symm (spotAt_ne_dir s l _)
  | cons name rest ih =>
      rw [walk_cons] at hw ⊢
      rw [h.isDir_eq]
      split at hw
      · next hup =>
          rw [if_pos hup]
          exact ih hw
      · next hup =>
          rw [if_neg hup]
          split at hw
          · cases hw
          · next hlong =>
              rw [if_neg hlong]
              split at hw
              · next hdir =>
                  rw [if_pos hdir]
                  exact ih hw
              · next hdir =>
                  rw [if_neg hdir]
                  split at hw
                  · next hend =>
                      rw [if_pos hend, spotAt_injective (Except.ok.inj hw)]
                  · cases hw

/-! ### Where a path leads -/

/-- A path leads to a location where a file is or may be put. -/
def LeadsTo (s : FileStore) (p : Path) (l : Location) : Prop :=
  ∃ sys, p.toSystem = .ok sys ∧ s.locate sys = .ok (s.spotAt l)

/-- A path leads to a file with a given content. -/
def Holds (s : FileStore) (p : Path) (content : Bytes) : Prop :=
  ∃ l, s.LeadsTo p l ∧ s.content? l = some content

theorem SameDirs.locate {s s' : FileStore} (h : SameDirs s s') {p : SystemPath} {l : Location}
    (hl : s.locate p = .ok (s.spotAt l)) : s'.locate p = .ok (s'.spotAt l) := by
  rw [FileStore.locate] at hl ⊢
  rw [h.here]
  split at hl
  · cases hl
  · next hlong =>
      rw [if_neg hlong]
      exact h.walk hl

theorem SameDirs.leadsTo {s s' : FileStore} (h : SameDirs s s') {p : Path} {l : Location}
    (hl : s.LeadsTo p l) : s'.LeadsTo p l := by
  obtain ⟨sys, hsys, hl⟩ := hl
  exact ⟨sys, hsys, h.locate hl⟩

/-- Where a path leads does not depend on the files. -/
theorem leadsTo_put_iff {s : FileStore} {p : Path} {k l : Location} {content : Bytes} :
    (s.put k content).LeadsTo p l ↔ s.LeadsTo p l :=
  ⟨(sameDirs_put s k content).symm.leadsTo, (sameDirs_put s k content).leadsTo⟩

/-- A path leads to one location at most. -/
theorem LeadsTo.unique {s : FileStore} {p : Path} {l m : Location} (hl : s.LeadsTo p l)
    (hm : s.LeadsTo p m) : l = m := by
  obtain ⟨sys, hsys, hl⟩ := hl
  obtain ⟨sys', hsys', hm⟩ := hm
  rw [hsys] at hsys'
  cases hsys'
  rw [hl] at hm
  exact spotAt_injective (Except.ok.inj hm)

/-- A path leads to a file with what was put where it leads. -/
theorem LeadsTo.holds_put {s : FileStore} {p : Path} {l : Location} (h : s.LeadsTo p l)
    (content : Bytes) : (s.put l content).Holds p content :=
  ⟨l, leadsTo_put_iff.2 h, content?_put_self s l content⟩

/-- What a path leads to. -/
theorem locate_cases (s : FileStore) (p : SystemPath) :
    (∃ e, s.locate p = .error e) ∨ (∃ l, s.locate p = .ok (.dir l)) ∨
      ∃ l, s.locate p = .ok (s.spotAt l) := by
  cases h : s.locate p with
  | error e => exact .inl ⟨e, rfl⟩
  | ok spot =>
      rw [locate] at h
      split at h
      · cases h
      · rcases walk_eq_ok h with ⟨l, rfl⟩ | ⟨l, rfl⟩
        · exact .inr (.inl ⟨l, rfl⟩)
        · exact .inr (.inr ⟨l, rfl⟩)

/-! ### Operations on a store -/

theorem read_eq_ok_iff {s : FileStore} {p : SystemPath} {content : Bytes} :
    s.read p = .ok content ↔ ∃ l, s.locate p = .ok (s.spotAt l) ∧ s.content? l = some content := by
  rcases s.locate_cases p with ⟨e, h⟩ | ⟨l, h⟩ | ⟨l, h⟩
  · simp [read, h]
  · simp [read, h, (spotAt_ne_dir s _ l).symm]
  · cases hc : s.content? l with
    | none =>
        rw [read, h, spotAt_of_none hc]
        constructor
        · intro hread
          cases hread
        · rintro ⟨m, hm, hcontent⟩
          rw [← spotAt_of_none hc] at hm
          rw [← spotAt_injective (Except.ok.inj hm), hc] at hcontent
          cases hcontent
    | some c =>
        rw [read, h, spotAt_of_content? hc]
        constructor
        · intro hread
          cases hread
          exact ⟨l, by rw [spotAt_of_content? hc], hc⟩
        · rintro ⟨m, hm, hcontent⟩
          rw [← spotAt_of_content? hc] at hm
          rw [← spotAt_injective (Except.ok.inj hm), hc] at hcontent
          rw [Option.some.inj hcontent]

theorem write_of_locate {s : FileStore} {p : SystemPath} {l : Location}
    (h : s.locate p = .ok (s.spotAt l)) (content : Bytes) :
    s.write p content = .ok (s.put l content) := by
  rw [write, h]
  cases hc : s.content? l with
  | some c => rw [spotAt_of_content? hc]
  | none => rw [spotAt_of_none hc]

theorem write_eq_ok_iff {s s' : FileStore} {p : SystemPath} {content : Bytes} :
    s.write p content = .ok s' ↔ ∃ l, s.locate p = .ok (s.spotAt l) ∧ s' = s.put l content := by
  constructor
  · intro h
    rcases s.locate_cases p with ⟨e, hloc⟩ | ⟨l, hloc⟩ | ⟨l, hloc⟩
    · rw [write, hloc] at h
      cases h
    · rw [write, hloc] at h
      cases h
    · rw [write_of_locate hloc] at h
      exact ⟨l, hloc, (Except.ok.inj h).symm⟩
  · rintro ⟨l, hloc, rfl⟩
    exact write_of_locate hloc content

theorem remove_of_locate {s : FileStore} {p : SystemPath} {l : Location} {content : Bytes}
    (h : s.locate p = .ok (s.spotAt l)) (hc : s.content? l = some content) :
    s.remove p = .ok (s.erase l) := by
  rw [remove, h, spotAt_of_content? hc]

/-! ### A file that is put and erased again -/

theorem filter_putEntry (l : Location) (content : Bytes) (entries : List (Location × Bytes)) :
    ((putEntry l content entries).filter fun entry => entry.1 ≠ l) =
      entries.filter fun entry => entry.1 ≠ l := by
  induction entries with
  | nil => simp [putEntry]
  | cons e rest ih =>
      obtain ⟨k, c⟩ := e
      rw [putEntry]
      split
      · next hk => simp [hk]
      · rw [List.filter_cons, List.filter_cons, ih]

/-- Erasing what was put leaves what erasing would have left before. -/
@[simp] theorem erase_put (s : FileStore) (l : Location) (content : Bytes) :
    (s.put l content).erase l = s.erase l := by
  rw [erase, put, filter_putEntry]
  rfl

end FileStore

/-! ### Operations on the world -/

namespace Operation

variable {σ α β : Type}

theorem get_bind_apply (f : World σ → Operation σ β) (w : World σ) :
    ((get : Operation σ (World σ)) >>= f) w = f w w := by
  rw [bind_apply]
  rfl

theorem readFile_eq_ok_iff {p : Path} {w w' : World σ} {content : Bytes} :
    readFile p w = (.ok content, w') ↔ w.files.Holds p content ∧ w = w' := by
  rw [readFile, readFileOr_eq_ok_iff]
  constructor
  · rintro ⟨sys, hsys, hread, hw⟩
    obtain ⟨l, hl, hc⟩ := FileStore.read_eq_ok_iff.1 hread
    exact ⟨⟨l, ⟨sys, hsys, hl⟩, hc⟩, hw⟩
  · rintro ⟨⟨l, ⟨sys, hsys, hl⟩, hc⟩, hw⟩
    exact ⟨sys, hsys, FileStore.read_eq_ok_iff.2 ⟨l, hl, hc⟩, hw⟩

/-- What writing a file gives, and what it leaves. -/
theorem writeFile_apply (p : Path) (content : Bytes) (w : World σ) :
    writeFile p content w = match p.toSystem with
      | .error e => (.error (.path e), w)
      | .ok sys => match w.files.write sys content with
        | .error e => (.error (.file e), w)
        | .ok files => (.ok (), { w with files }) := by
  rw [writeFile, ofExcept_bind_apply]
  cases p.toSystem with
  | error e => rfl
  | ok sys =>
      dsimp only
      rw [get_bind_apply, ofExcept_bind_apply]
      cases w.files.write sys content <;> rfl

theorem writeFile_of_leadsTo {p : Path} {l : Location} {w : World σ} (h : w.files.LeadsTo p l)
    (content : Bytes) :
    writeFile p content w = (.ok (), { w with files := w.files.put l content }) := by
  obtain ⟨sys, hsys, hl⟩ := h
  rw [writeFile_apply, hsys]
  dsimp only
  rw [FileStore.write_of_locate hl]

/-- A file is written where the path leads, or nothing is changed: the path is none that file
operations take, or the file operation fails. -/
theorem writeFile_cases (p : Path) (content : Bytes) (w : World σ) :
    (∃ l, w.files.LeadsTo p l) ∨
      (∃ e, p.toSystem = .error e ∧ writeFile p content w = (.error (.path e), w)) ∨
      ∃ e, writeFile p content w = (.error (.file e), w) := by
  cases hsys : p.toSystem with
  | error e =>
      refine .inr (.inl ⟨e, rfl, ?_⟩)
      rw [writeFile_apply, hsys]
  | ok sys =>
      cases hwrite : w.files.write sys content with
      | ok files =>
          obtain ⟨l, hl, _⟩ := FileStore.write_eq_ok_iff.1 hwrite
          exact .inl ⟨l, sys, hsys, hl⟩
      | error e =>
          refine .inr (.inr ⟨e, ?_⟩)
          rw [writeFile_apply, hsys]
          dsimp only
          rw [hwrite]

theorem writeFile_eq_ok_iff {p : Path} {content : Bytes} {w w' : World σ} {u : Unit} :
    writeFile p content w = (.ok u, w') ↔
      ∃ l, w.files.LeadsTo p l ∧ w' = { w with files := w.files.put l content } := by
  constructor
  · intro h
    rcases writeFile_cases p content w with ⟨l, hl⟩ | ⟨e, _, he⟩ | ⟨e, he⟩
    · rw [writeFile_of_leadsTo hl, ok_eq_ok_iff] at h
      exact ⟨l, hl, h.2.symm⟩
    · rw [he] at h
      exact absurd h error_ne_ok
    · rw [he] at h
      exact absurd h error_ne_ok
  · rintro ⟨l, hl, rfl⟩
    exact writeFile_of_leadsTo hl content

/-- A file that is there is removed. -/
theorem removeFile_of_leadsTo {p : Path} {l : Location} {content : Bytes} {w : World σ}
    (h : w.files.LeadsTo p l) (hc : w.files.content? l = some content) :
    removeFile p w = (.ok (), { w with files := w.files.erase l }) := by
  obtain ⟨sys, hsys, hl⟩ := h
  rw [removeFile, ofExcept_bind_apply, hsys]
  dsimp only
  rw [get_bind_apply, ofExcept_bind_apply, FileStore.remove_of_locate hl hc]
  rfl

end Operation

/-! ### Steady disks -/

/-- A disk on which a file is written as a whole or not at all, and may be removed as long as the
files are as they were when it was written.  It may refuse to write any file. -/
structure Disk.Steady {σ : Type} (d : Disk σ) : Prop where
  written : ∀ {p content w w'}, d.write p content w = (.ok (), w') →
    ∃ l, w.files.LeadsTo p l ∧ w' = { w with files := w.files.put l content }
  refused : ∀ {p content w w' f}, d.write p content w = (.error f, w') →
    w' = w ∧ (f.isSystem = true ∨ ∃ e, p.toSystem = .error e ∧ f = .path e)
  removed : ∀ {p content w w' v l}, d.write p content w = (.ok (), w') → v.files = w'.files →
    v.files.LeadsTo p l → d.remove p v = (.ok (), { v with files := v.files.erase l })

/-- The file operations of the store are steady. -/
theorem Disk.steady_store {σ : Type} : (Disk.store : Disk σ).Steady where
  written := Operation.writeFile_eq_ok_iff.1
  refused := by
    intro p content w w' f h
    rcases Operation.writeFile_cases p content w with ⟨l, hl⟩ | ⟨e, hpath, he⟩ | ⟨e, he⟩
    · exact absurd ((Operation.writeFile_of_leadsTo hl content).symm.trans h).symm error_ne_ok
    · obtain ⟨rfl, rfl⟩ := error_eq_error_iff.1 (he.symm.trans h)
      exact ⟨rfl, .inr ⟨e, hpath, rfl⟩⟩
    · obtain ⟨rfl, rfl⟩ := error_eq_error_iff.1 (he.symm.trans h)
      exact ⟨rfl, .inl rfl⟩
  removed := by
    intro p content w w' v l h hfiles hl
    obtain ⟨k, hk, rfl⟩ := Operation.writeFile_eq_ok_iff.1 h
    rw [hfiles] at hl
    have hcontent : v.files.content? l = some content := by
      rw [hfiles, (FileStore.leadsTo_put_iff.1 hl).unique hk, FileStore.content?_put_self]
    rw [← hfiles] at hl
    exact Operation.removeFile_of_leadsTo hl hcontent

end ClaimSeal
