import ContentForms.Files

namespace ContentForms.Files

-- The place that the names of a path spell, whether what they go through is there or not.
def destination (files : Files) (path : Path) : Location := path.parts.foldl step (files.start path)

def fileAt (files : Files) (place : Location) : Option (List UInt8) :=
  match files.entryAt place with
  | some (.file bytes) => some bytes
  | _ => none

theorem fileAt_eq_some {files : Files} {place : Location} {bytes : List UInt8} :
    files.fileAt place = some bytes ↔ files.entryAt place = some (.file bytes) := by
  unfold fileAt
  split <;> simp_all

section Following

private theorem walk_eq_foldl {files : Files} {names : List String} {place found : Location}
    (h : files.walk place names = .ok found) : found = names.foldl step place := by
  induction names generalizing place with
  | nil =>
      cases h
      rfl
  | cons name rest ih =>
      rw [walk] at h
      split at h
      · cases h
      · cases h
      · exact ih h

private theorem walk_error {files : Files} {names : List String} {place : Location} {fault : Fault}
    (h : files.walk place names = .error fault) : fault = .notFound ∨ fault = .notDirectory := by
  induction names generalizing place with
  | nil => cases h
  | cons name rest ih =>
      rw [walk] at h
      split at h
      · cases h
        exact .inl rfl
      · cases h
        exact .inr rfl
      · exact ih h

theorem place_eq_ok {files : Files} {path : Path} {found : Location} :
    files.place path = .ok found ↔
      path.hasNull = false ∧ files.walk (files.start path) path.parts = .ok found := by
  unfold place
  cases path.hasNull <;> simp

theorem destination_of_place {files : Files} {path : Path} {found : Location}
    (h : files.place path = .ok found) : found = files.destination path :=
  walk_eq_foldl (place_eq_ok.mp h).2

theorem read_eq_ok {files : Files} {path : Path} {bytes : List UInt8} :
    files.read path = .ok bytes ↔
      ∃ found, files.place path = .ok found ∧ files.fileAt found = some bytes := by
  unfold read
  cases hp : files.place path with
  | error fault => simp [bind, Except.bind]
  | ok found =>
      simp only [bind, Except.bind, Except.ok.injEq, exists_eq_left', fileAt_eq_some]
      cases files.entryAt found with
      | none => simp
      | some entry => cases entry <;> simp

-- All that can keep a path from being read. A null byte in it is seen before anything else.
theorem read_error {files : Files} {path : Path} {fault : Fault}
    (h : files.read path = .error fault) :
    path.hasNull = true ∧ fault = .nullByte ∨
      path.hasNull = false ∧
        (fault = .notFound ∨ fault = .notDirectory ∨ fault = .isDirectory) := by
  unfold read place at h
  cases hnull : path.hasNull with
  | true =>
      simp only [hnull, if_true, bind, Except.bind, Except.error.injEq] at h
      exact .inl ⟨rfl, h.symm⟩
  | false =>
      refine .inr ⟨rfl, ?_⟩
      simp only [hnull, Bool.false_eq_true, if_false] at h
      cases hwalk : files.walk (files.start path) path.parts with
      | error met =>
          simp only [hwalk, bind, Except.bind, Except.error.injEq] at h
          exact h ▸ (walk_error hwalk).imp_right .inl
      | ok found =>
          simp only [hwalk, bind, Except.bind] at h
          split at h <;> cases h
          · exact .inl rfl
          · exact .inr (.inr rfl)

-- Every directory is still one, so every path that could be followed still can.
structure KeepsDirectories (before after : Files) : Prop where
  home : after.home = before.home
  directory : ∀ place, before.entryAt place = some .directory →
    after.entryAt place = some .directory

theorem KeepsDirectories.start_eq {before after : Files} (h : KeepsDirectories before after)
    (path : Path) : after.start path = before.start path := by
  unfold start
  rw [h.home]

theorem KeepsDirectories.destination_eq {before after : Files} (h : KeepsDirectories before after)
    (path : Path) : after.destination path = before.destination path := by
  unfold destination
  rw [h.start_eq]

-- Every place that is left on the way was a directory and still is.
theorem KeepsDirectories.walk {before after : Files} (h : KeepsDirectories before after)
    {names : List String} {place found : Location} (hw : before.walk place names = .ok found) :
    after.walk place names = .ok found := by
  induction names generalizing place with
  | nil => exact hw
  | cons name rest ih =>
      rw [Files.walk] at hw ⊢
      split at hw
      · cases hw
      · cases hw
      · rename_i hd
        rw [h.directory place hd]
        exact ih hw

theorem KeepsDirectories.place {before after : Files} (h : KeepsDirectories before after)
    {path : Path} {found : Location} (hp : before.place path = .ok found) :
    after.place path = .ok found := by
  obtain ⟨hn, hw⟩ := place_eq_ok.mp hp
  exact place_eq_ok.mpr ⟨hn, h.start_eq path ▸ h.walk hw⟩

end Following

section Directories

-- Nothing has changed but for directories where nothing was.
structure Grown (before after : Files) : Prop where
  home : after.home = before.home
  entry : ∀ place, after.entryAt place = before.entryAt place ∨
    before.entryAt place = none ∧ after.entryAt place = some .directory

theorem Grown.refl (files : Files) : Grown files files := ⟨rfl, fun _ => .inl rfl⟩

theorem Grown.trans {a b c : Files} (h₁ : Grown a b) (h₂ : Grown b c) : Grown a c := by
  refine ⟨h₂.home.trans h₁.home, fun place => ?_⟩
  rcases h₁.entry place with e₁ | ⟨n₁, d₁⟩ <;> rcases h₂.entry place with e₂ | ⟨n₂, d₂⟩
  · exact .inl (e₂.trans e₁)
  · exact .inr ⟨e₁ ▸ n₂, d₂⟩
  · exact .inr ⟨n₁, e₂.trans d₁⟩
  · rw [d₁] at n₂
    cases n₂

theorem Grown.keepsDirectories {before after : Files} (h : Grown before after) :
    KeepsDirectories before after := by
  refine ⟨h.home, fun place hd => ?_⟩
  rcases h.entry place with he | ⟨hn, -⟩
  · rw [he, hd]
  · rw [hd] at hn
    cases hn

theorem Grown.fileAt_eq {before after : Files} (h : Grown before after) (place : Location) :
    after.fileAt place = before.fileAt place := by
  unfold fileAt
  rcases h.entry place with he | ⟨hn, hd⟩
  · rw [he]
  · rw [hn, hd]

theorem Grown.read {before after : Files} (h : Grown before after) {path : Path}
    {bytes : List UInt8} (hr : before.read path = .ok bytes) : after.read path = .ok bytes := by
  obtain ⟨found, hp, hf⟩ := read_eq_ok.mp hr
  exact read_eq_ok.mpr ⟨found, h.keepsDirectories.place hp, (h.fileAt_eq found).trans hf⟩

-- Nothing was there before, and the root always is, so the place is not the root.
theorem makeDirectory_grown {files made : Files} {path : Path}
    (h : files.makeDirectory path = .ok made) : Grown files made := by
  unfold makeDirectory at h
  cases hp : files.place path with
  | error fault => simp [hp, bind, Except.bind] at h
  | ok place =>
      simp only [hp, bind, Except.bind] at h
      split at h
      · cases h
      · rename_i hn
        cases h
        have hnone : files.entryAt place = none := by simpa using hn
        have hroot : place ≠ [] := by
          rintro rfl
          simp [entryAt] at hnone
        refine ⟨rfl, fun other => ?_⟩
        rw [entryAt_put _ _ _ _ hroot]
        by_cases ho : other = place
        · exact .inr ⟨ho ▸ hnone, if_pos ho⟩
        · exact .inl (if_neg ho)

@[simp] theorem settle_files (files : Files) (path : Path) (fault : Fault) :
    (files.settle path fault).2 = files := by
  unfold settle
  split <;> rfl

-- However far it gets, and whether it succeeds or not.
theorem makeDirectoriesUpTo_grown (files : Files) (path : Path) (depth : Nat) :
    Grown files (files.makeDirectoriesUpTo path depth).2 := by
  induction depth generalizing path with
  | zero =>
      rw [makeDirectoriesUpTo]
      split
      · rename_i made hm
        exact makeDirectory_grown hm
      · rw [settle_files]
        exact .refl files
  | succ depth ih =>
      rw [makeDirectoriesUpTo]
      split
      · rename_i made hm
        exact makeDirectory_grown hm
      · have hparent := ih path.parent
        split
        · rename_i failure left hl
          rwa [hl] at hparent
        · rename_i ready hl
          rw [hl] at hparent
          split
          · rename_i made hm
            exact hparent.trans (makeDirectory_grown hm)
          · rwa [settle_files]
      · rw [settle_files]
        exact .refl files

theorem makeDirectories_grown (files : Files) (path : Path) :
    Grown files (files.makeDirectories path).2 :=
  makeDirectoriesUpTo_grown files path path.parts.length

end Directories

section Writing

variable {files done : Files} {path : Path} {bytes : List UInt8}

theorem write_eq_ok :
    files.write path bytes = .ok done ↔ ∃ place, files.place path = .ok place ∧
      files.entryAt place ≠ some .directory ∧ done = files.put place (.file bytes) := by
  unfold write
  cases hp : files.place path with
  | error fault => simp [bind, Except.bind]
  | ok place =>
      simp only [bind, Except.bind, Except.ok.injEq, exists_eq_left']
      split <;> simp_all [pure, Except.pure, eq_comm]

theorem ne_root_of_not_directory {place : Location}
    (h : files.entryAt place ≠ some .directory) : place ≠ [] := by
  rintro rfl
  exact h rfl

theorem put_keepsDirectories {place : Location} (h : files.entryAt place ≠ some .directory)
    (entry : Entry) : KeepsDirectories files (files.put place entry) := by
  refine ⟨rfl, fun other hd => ?_⟩
  have hne : other ≠ place := fun he => h (he ▸ hd)
  rw [entryAt_put _ _ _ _ (ne_root_of_not_directory h), if_neg hne, hd]

private theorem fileAt_put {place : Location} (h : files.entryAt place ≠ some .directory)
    (other : Location) :
    (files.put place (.file bytes)).fileAt other =
      if other = place then some bytes else files.fileAt other := by
  unfold fileAt
  rw [entryAt_put _ _ _ _ (ne_root_of_not_directory h)]
  by_cases ho : other = place <;> simp [ho]

theorem write_keepsDirectories (h : files.write path bytes = .ok done) :
    KeepsDirectories files done := by
  obtain ⟨place, -, hd, rfl⟩ := write_eq_ok.mp h
  exact put_keepsDirectories hd _

-- The path leads to the same place afterwards, and the file there is the only one that changed.
theorem fileAt_of_write (h : files.write path bytes = .ok done) :
    done.place path = .ok (files.destination path) ∧ ∀ other, done.fileAt other =
      if other = files.destination path then some bytes else files.fileAt other := by
  obtain ⟨place, hp, hd, rfl⟩ := write_eq_ok.mp h
  rw [← destination_of_place hp]
  exact ⟨(put_keepsDirectories hd _).place hp, fileAt_put hd⟩

theorem read_of_write (h : files.write path bytes = .ok done) : done.read path = .ok bytes := by
  obtain ⟨hp, hf⟩ := fileAt_of_write h
  exact read_eq_ok.mpr ⟨_, hp, (hf _).trans (if_pos rfl)⟩

theorem read_of_write_other (h : files.write path bytes = .ok done) {other : Path}
    {found : List UInt8} (hne : files.destination other ≠ files.destination path)
    (hr : files.read other = .ok found) : done.read other = .ok found := by
  obtain ⟨place, hp, hf⟩ := read_eq_ok.mp hr
  have hplace := destination_of_place hp
  refine read_eq_ok.mpr ⟨place, (write_keepsDirectories h).place hp, ?_⟩
  rw [(fileAt_of_write h).2, if_neg (hplace ▸ hne), hf]

end Writing

end ContentForms.Files
