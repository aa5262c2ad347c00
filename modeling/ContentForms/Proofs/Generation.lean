import ContentForms.Generation
import ContentForms.Proofs.Files

namespace ContentForms.Generation

open Files (Grown)

def told (settings : Settings) (config : Config) (outcome : Outcome) : Generation :=
  ⟨settings.contentPath, settings.generatedPath, config, Generated.render config, outcome,
    settings.version⟩

section Ending

variable {settings : Settings} {store : Store} {config : Config}

private theorem fail_files (store : Store) (events : List Event) (failure : Failure) :
    (fail store events failure).2.files = store.files := by
  unfold fail
  split <;> rfl

theorem run_of_unread {failure : Failure}
    (h : (readConfig store.files settings.contentPath).result = .error failure) (write : Bool) :
    (run settings write store).1.result = .error failure ∧
      (run settings write store).2.files = store.files := by
  simp only [run, h]
  refine ⟨?_, fail_files store _ failure⟩
  unfold fail
  split <;> rfl

-- A run that is not to write returns whenever the config can be read.
theorem run_dry (h : (readConfig store.files settings.contentPath).result = .ok config) :
    (run settings false store).1.result = .ok (told settings config .dryRun) ∧
      (run settings false store).2.files = store.files := by
  simp [run, h, conclude, told]

theorem run_of_update (h : (readConfig store.files settings.contentPath).result = .ok config)
    {outcome : Outcome} {files : Files}
    (hu : update store.files settings.generatedPath (Generated.render config) =
      (.ok outcome, files)) :
    (run settings true store).1.result = .ok (told settings config outcome) ∧
      (run settings true store).2.files = files := by
  simp [run, h, conclude, hu, told]

theorem run_of_update_error
    (h : (readConfig store.files settings.contentPath).result = .ok config)
    {failure : Files.Failure} {files : Files}
    (hu : update store.files settings.generatedPath (Generated.render config) =
      (.error failure, files)) :
    (run settings true store).1.result = .error (.file failure) ∧
      (run settings true store).2.files = files := by
  simp [run, h, conclude, hu]

end Ending

section Replacing

theorem isCurrent_eq_true {files : Files} {path : Path} {text : String} :
    isCurrent files path text = .ok true ↔ files.read path = .ok (Text.Utf8.encode text) := by
  unfold isCurrent
  split
  · rename_i bytes hr
    simp [hr]
  · simp_all
  · simp_all

theorem isCurrent_eq_error {files : Files} {path : Path} {text : String} {failure : Files.Failure} :
    isCurrent files path text = .error failure ↔
      failure.path = path ∧ failure.fault ≠ .notFound ∧ files.read path = .error failure.fault := by
  obtain ⟨fault, met⟩ := failure
  unfold isCurrent
  split
  · simp_all
  · rename_i hr
    simp only [reduceCtorEq, hr, Except.error.injEq, false_iff, not_and]
    exact fun _ hne he => hne he.symm
  · rename_i other hne hr
    simp only [hr, Except.error.injEq, Files.Failure.mk.injEq]
    constructor
    · rintro ⟨rfl, rfl⟩
      exact ⟨rfl, hne, rfl⟩
    · rintro ⟨rfl, -, rfl⟩
      exact ⟨rfl, rfl⟩

theorem update_of_unknown {files : Files} {path : Path} {text : String} {failure : Files.Failure}
    (h : isCurrent files path text = .error failure) :
    update files path text = (.error failure, files) := by
  unfold update
  rw [h]

theorem update_of_current {files : Files} {path : Path} {text : String}
    (h : isCurrent files path text = .ok true) :
    update files path text = (.ok .unchanged, files) := by
  unfold update
  rw [h]

theorem update_of_stale {files : Files} {path : Path} {text : String}
    (h : isCurrent files path text = .ok false) :
    update files path text = replace files path text := by
  unfold update
  rw [h]

-- All that replacing a file can come to. Directories that were made stay.
theorem replace_cases (files : Files) (path : Path) (text : String) :
    (∃ failure left, replace files path text = (.error failure, left) ∧ Grown files left) ∨
      ∃ ready done, replace files path text = (.ok .written, done) ∧ Grown files ready ∧
        ready.write path (Text.Utf8.encode text) = .ok done := by
  have hgrown := Files.makeDirectories_grown files path.parent
  unfold replace
  split
  · rename_i failure left hm
    rw [hm] at hgrown
    exact .inl ⟨failure, left, rfl, hgrown⟩
  · rename_i ready hm
    rw [hm] at hgrown
    split
    · rename_i fault hw
      exact .inl ⟨_, ready, rfl, hgrown⟩
    · rename_i done hw
      exact .inr ⟨ready, done, rfl, hgrown, hw⟩

-- All that an update can come to, with what the file holds then.
theorem update_cases (files : Files) (path : Path) (text : String) :
    (∃ failure left, update files path text = (.error failure, left) ∧ Grown files left) ∨
      (update files path text = (.ok .unchanged, files) ∧
        files.read path = .ok (Text.Utf8.encode text)) ∨
      ∃ ready done, update files path text = (.ok .written, done) ∧ Grown files ready ∧
        ready.write path (Text.Utf8.encode text) = .ok done := by
  cases hc : isCurrent files path text with
  | error failure => exact .inl ⟨failure, files, update_of_unknown hc, .refl files⟩
  | ok current =>
      cases current with
      | true => exact .inr (.inl ⟨update_of_current hc, isCurrent_eq_true.mp hc⟩)
      | false =>
          rw [update_of_stale hc]
          rcases replace_cases files path text with hfailed | hwritten
          · exact .inl hfailed
          · exact .inr (.inr hwritten)

-- What keeps a text from a file: the way to the file, the directories above it, or what stands in
-- its place. A file that holds the text already is not written.
inductive Blocked (files : Files) (path : Path) (text : String) : Prop
  | way (fault : Files.Fault) (unread : files.read path = .error fault) (there : fault ≠ .notFound)
  | directories (stale : files.read path ≠ .ok (Text.Utf8.encode text)) (failure : Files.Failure)
      (left : Files) (made : files.makeDirectories path.parent = (.error failure, left))
  | place (stale : files.read path ≠ .ok (Text.Utf8.encode text)) (ready : Files)
      (made : files.makeDirectories path.parent = (.ok (), ready)) (fault : Files.Fault)
      (unwritten : ready.write path (Text.Utf8.encode text) = .error fault)

private theorem blocked_of_replace {files : Files} {path : Path} {text : String}
    (hstale : files.read path ≠ .ok (Text.Utf8.encode text)) :
    (∃ failure, (replace files path text).1 = .error failure) → Blocked files path text := by
  rintro ⟨failure, h⟩
  unfold replace at h
  split at h
  · rename_i met left hmade
    exact .directories hstale met left hmade
  · rename_i ready hmade
    split at h
    · rename_i fault hwrite
      exact .place hstale ready hmade fault hwrite
    · cases h

theorem Blocked.replace_error {files : Files} {path : Path} {text : String}
    (h : Blocked files path text) (hcurrent : isCurrent files path text = .ok false) :
    ∃ failure, (replace files path text).1 = .error failure := by
  cases h with
  | way fault unread there =>
      have herror : isCurrent files path text = .error ⟨fault, path⟩ :=
        isCurrent_eq_error.mpr ⟨rfl, there, unread⟩
      cases hcurrent.symm.trans herror
  | directories _ failure left made => exact ⟨failure, by rw [replace, made]⟩
  | place _ ready made fault unwritten =>
      exact ⟨⟨fault, path⟩, by simp only [replace, made, unwritten]⟩

-- An update fails exactly where something on the file system keeps the text from the file.
theorem update_error_iff {files : Files} {path : Path} {text : String} :
    (∃ failure, (update files path text).1 = .error failure) ↔ Blocked files path text := by
  cases hc : isCurrent files path text with
  | error failure =>
      obtain ⟨rfl, hne, hread⟩ := isCurrent_eq_error.mp hc
      rw [update_of_unknown hc]
      exact iff_of_true ⟨failure, rfl⟩ (.way failure.fault hread hne)
  | ok current =>
      cases current with
      | true =>
          have hread := isCurrent_eq_true.mp hc
          rw [update_of_current hc]
          refine iff_of_false (by simp) fun h => ?_
          cases h with
          | way fault unread _ => cases hread.symm.trans unread
          | directories stale => exact stale hread
          | place stale => exact stale hread
      | false =>
          have hstale : files.read path ≠ .ok (Text.Utf8.encode text) := fun hread => by
            cases hc.symm.trans (isCurrent_eq_true.mpr hread)
          rw [update_of_stale hc]
          exact ⟨blocked_of_replace hstale, fun h => h.replace_error hc⟩

end Replacing

-- Only a run that tells of having written changes a file: the one that the generated path leads to.
theorem files_of_run (settings : Settings) (write : Bool) (store : Store) :
    Grown store.files (run settings write store).2.files ∨
      ∃ config, write = true ∧
        (run settings write store).1.result = .ok (told settings config .written) ∧
        ∃ place, (run settings write store).2.files.place settings.generatedPath = .ok place ∧
          ∀ other, (run settings write store).2.files.fileAt other =
            if other = place then some (Text.Utf8.encode (Generated.render config))
            else store.files.fileAt other := by
  cases hr : (readConfig store.files settings.contentPath).result with
  | error failure =>
      rw [(run_of_unread hr write).2]
      exact .inl (.refl _)
  | ok config =>
      cases write with
      | false =>
          rw [(run_dry hr).2]
          exact .inl (.refl _)
      | true =>
          rcases update_cases store.files settings.generatedPath (Generated.render config) with
            ⟨failure, left, hc, hg⟩ | ⟨hc, -⟩ | ⟨ready, done, hc, hg, hw⟩
          · rw [(run_of_update_error hr hc).2]
            exact .inl hg
          · rw [(run_of_update hr hc).2]
            exact .inl (.refl _)
          · obtain ⟨hres, hfiles⟩ := run_of_update hr hc
            obtain ⟨hplace, hat⟩ := Files.fileAt_of_write hw
            refine .inr ⟨config, rfl, hres, ready.destination settings.generatedPath, ?_, ?_⟩
            · rw [hfiles]
              exact hplace
            · intro other
              rw [hfiles, hat other, hg.fileAt_eq other]

end ContentForms.Generation
