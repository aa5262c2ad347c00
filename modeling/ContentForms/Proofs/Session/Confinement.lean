import ContentForms.Proofs.Session

namespace ContentForms.Workspace

structure WritesAt (workspace : Workspace) (operation : Operation) (settings : Settings)
    (place : Location) : Prop where
  settings_eq : workspace.writing? operation = some settings
  place_eq : (workspace.perform operation).2.store.files.place settings.generatedPath = .ok place
  told : ∃ config,
    (workspace.perform operation).1.result =
        .ok (operation.tell (Generation.told settings config .written)) ∧
      (workspace.perform operation).2.store.files.fileAt place =
        some (Text.Utf8.encode (Generated.render config))

structure Confined (workspace : Workspace) (operation : Operation) : Prop where
  changed : ∀ place, (workspace.perform operation).2.store.files.fileAt place ≠
      workspace.store.files.fileAt place → ∃ settings, WritesAt workspace operation settings place
  kept : ∀ place, (workspace.store.files.fileAt place).isSome →
    ((workspace.perform operation).2.store.files.fileAt place).isSome
  refused : refused (workspace.perform operation).1.result = true → ∀ place,
    (workspace.perform operation).2.store.files.fileAt place = workspace.store.files.fileAt place

theorem confined_of_fileAt_eq {workspace : Workspace} {operation : Operation}
    (h : ∀ place, (workspace.perform operation).2.store.files.fileAt place =
      workspace.store.files.fileAt place) : Confined workspace operation where
  changed place hne := absurd (h place) hne
  kept place hs := by rwa [h place]
  refused _ := h

private theorem tell_not_refused (operation : Operation) (run : Generation) :
    refused (.ok (operation.tell run)) = false := by
  cases operation <;> rfl

-- A run that has written is told as such, so an operation that refuses has changed no file.
theorem confined_of_writing {workspace : Workspace} {operation : Operation} {settings : Settings}
    (h : workspace.writing? operation = some settings) : Confined workspace operation := by
  obtain ⟨hstore, hok, -⟩ := perform_of_writing h
  rcases Generation.files_of_run settings true workspace.store with
    hg | ⟨config, -, hres, place, hplace, hat⟩
  · rw [← hstore] at hg
    exact confined_of_fileAt_eq hg.fileAt_eq
  · have htold := hok _ hres
    rw [← hstore] at hplace hat
    refine ⟨fun other hne => ?_, fun other hs => ?_, fun href => ?_⟩
    · have heq : other = place :=
        Decidable.byContradiction fun ho => hne ((hat other).trans (if_neg ho))
      subst heq
      exact ⟨settings, h, hplace, config, htold, (hat other).trans (if_pos rfl)⟩
    · rw [hat other]
      split
      · rfl
      · exact hs
    · rw [htold, tell_not_refused] at href
      cases href

theorem confined {operation : Operation} (hown : operation.ofProgram = true)
    (workspace : Workspace) : Confined workspace operation := by
  cases h : workspace.writing? operation with
  | none => exact confined_of_fileAt_eq fun place => by rw [perform_of_reading hown h]
  | some settings => exact confined_of_writing h

private theorem performAll_cons (workspace : Workspace) (operation : Operation)
    (rest : List Operation) :
    workspace.performAll (operation :: rest) = (workspace.perform operation).2.performAll rest :=
  rfl

-- A file that is changed in the course of operations was written by one of them.
theorem exists_writesAt_of_performAll {operations : List Operation}
    (hown : ∀ operation ∈ operations, operation.ofProgram = true) {workspace : Workspace}
    {place : Location} (hne : (workspace.performAll operations).store.files.fileAt place ≠
      workspace.store.files.fileAt place) :
    ∃ earlier operation later settings, operations = earlier ++ operation :: later ∧
      WritesAt (workspace.performAll earlier) operation settings place := by
  induction operations generalizing workspace with
  | nil => exact absurd rfl hne
  | cons operation rest ih =>
      rw [List.forall_mem_cons] at hown
      rw [performAll_cons] at hne
      by_cases hfirst : (workspace.perform operation).2.store.files.fileAt place =
          workspace.store.files.fileAt place
      · rw [← hfirst] at hne
        obtain ⟨earlier, next, later, settings, rfl, hw⟩ := ih hown.2 hne
        exact ⟨operation :: earlier, next, later, settings, rfl, hw⟩
      · obtain ⟨settings, hw⟩ := (confined hown.1 workspace).changed place hfirst
        exact ⟨[], operation, rest, settings, rfl, hw⟩

theorem fileAt_kept_of_performAll {operations : List Operation}
    (hown : ∀ operation ∈ operations, operation.ofProgram = true) {workspace : Workspace}
    {place : Location} (hs : (workspace.store.files.fileAt place).isSome) :
    ((workspace.performAll operations).store.files.fileAt place).isSome := by
  induction operations generalizing workspace with
  | nil => exact hs
  | cons operation rest ih =>
      rw [List.forall_mem_cons] at hown
      exact ih hown.2 ((confined hown.1 workspace).kept place hs)

-- No operation of the program changes a file but the generated one, deletes one, or changes one
-- when it fails. Directories may have been made on the way.
theorem session_confined (workspace : Workspace) {operations : List Operation}
    (hown : ∀ operation ∈ operations, operation.ofProgram = true) :
    (∀ earlier operation later, operations = earlier ++ operation :: later →
        Confined (workspace.performAll earlier) operation) ∧
      (∀ place, (workspace.performAll operations).store.files.fileAt place ≠
          workspace.store.files.fileAt place →
        ∃ earlier operation later settings, operations = earlier ++ operation :: later ∧
          WritesAt (workspace.performAll earlier) operation settings place) ∧
      ∀ place, (workspace.store.files.fileAt place).isSome →
        ((workspace.performAll operations).store.files.fileAt place).isSome := by
  refine ⟨fun earlier operation later he => ?_, fun place hne => ?_, fun place hs => ?_⟩
  · exact confined (hown operation (by simp [he])) _
  · exact exists_writesAt_of_performAll hown hne
  · exact fileAt_kept_of_performAll hown hs

def sampleOperations : List Operation :=
  [.parse ⟨0, ["absent.ts"]⟩ "info", .run [] true "info"]

-- The generated file is there in the end only, so that one of the two wrote it.
theorem session_confined_sample :
    (∀ operation ∈ sampleOperations, operation.ofProgram = true) ∧
      ∃ earlier operation later settings, sampleOperations = earlier ++ operation :: later ∧
        WritesAt (sample.performAll earlier) operation settings
          ["home", "keystatic.generated.ts"] := by
  have hown : ∀ operation ∈ sampleOperations, operation.ofProgram = true := by decide
  have hbefore : sample.store.files.fileAt ["home", "keystatic.generated.ts"] = none := by
    decide +kernel
  have hafter : ((sample.performAll sampleOperations).store.files.fileAt
      ["home", "keystatic.generated.ts"]).isSome := by decide +kernel
  refine ⟨hown, (session_confined sample hown).2.1 _ fun h => ?_⟩
  rw [h, hbefore] at hafter
  cases hafter

end ContentForms.Workspace
