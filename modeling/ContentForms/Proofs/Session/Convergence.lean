import ContentForms.Proofs.CommandLine.Prediction

namespace ContentForms

namespace Generation

-- The content config can be read, and the generated file holds what it asks for.
structure Settled (settings : Settings) (config : Config) (files : Files) : Prop where
  config_eq : (readConfig files settings.contentPath).result = .ok config
  current : files.read settings.generatedPath =
    .ok (Text.Utf8.encode (Generated.render config))

theorem readConfig_congr {files other : Files} {path : Path}
    (h : other.read path = files.read path) : readConfig other path = readConfig files path := by
  unfold readConfig
  rw [h]

-- Both depend on what is read at the two paths, and on nothing else.
theorem Settled.congr {settings : Settings} {config : Config} {files other : Files}
    (h : Settled settings config files)
    (hsource : other.read settings.contentPath = files.read settings.contentPath)
    (htarget : other.read settings.generatedPath = files.read settings.generatedPath) :
    Settled settings config other :=
  ⟨by rw [readConfig_congr hsource, h.config_eq], htarget.trans h.current⟩

private theorem exists_read_of_readConfig {files : Files} {path : Path} {config : Config}
    (h : (readConfig files path).result = .ok config) : ∃ bytes, files.read path = .ok bytes := by
  unfold readConfig at h
  split at h
  · cases h
  · cases h
  · rename_i bytes hr
    exact ⟨bytes, hr⟩

theorem Settled.run_unchanged {settings : Settings} {config : Config} {store : Store}
    (h : Settled settings config store.files) :
    (run settings true store).1.result = .ok (told settings config .unchanged) ∧
      (run settings true store).2.files = store.files :=
  run_of_update h.config_eq (update_of_current (isCurrent_eq_true.mpr h.current))

-- Writing the generated file leaves the content config readable as it was.
theorem settled_of_written {settings : Settings} {config : Config} {files ready done : Files}
    (hread : (readConfig files settings.contentPath).result = .ok config)
    (hdistinct : files.destination settings.contentPath ≠
      files.destination settings.generatedPath)
    (hgrown : Files.Grown files ready)
    (hwrite : ready.write settings.generatedPath (Text.Utf8.encode (Generated.render config)) =
      .ok done) : Settled settings config done := by
  obtain ⟨bytes, hbytes⟩ := exists_read_of_readConfig hread
  have hready : ready.destination settings.contentPath ≠
      ready.destination settings.generatedPath := by
    rwa [hgrown.keepsDirectories.destination_eq, hgrown.keepsDirectories.destination_eq]
  have hsource : done.read settings.contentPath = .ok bytes :=
    Files.read_of_write_other hwrite hready (hgrown.read hbytes)
  exact ⟨by rw [readConfig_congr (hsource.trans hbytes.symm), hread], Files.read_of_write hwrite⟩

-- The file was right already, or it has just been written while the config stayed as it was.
theorem settled_of_run {settings : Settings} {store : Store} {made : Generation}
    (hdistinct : store.files.destination settings.contentPath ≠
      store.files.destination settings.generatedPath)
    (h : (run settings true store).1.result = .ok made) :
    ∃ config outcome, made = told settings config outcome ∧
      Settled settings config (run settings true store).2.files := by
  cases hr : (readConfig store.files settings.contentPath).result with
  | error failure =>
      rw [(run_of_unread hr true).1] at h
      cases h
  | ok config =>
      rcases update_cases store.files settings.generatedPath (Generated.render config) with
        ⟨failure, left, hu, -⟩ | ⟨hu, hcurrent⟩ | ⟨ready, done, hu, hgrown, hwrite⟩
      · rw [(run_of_update_error hr hu).1] at h
        cases h
      · obtain ⟨hres, hfiles⟩ := run_of_update hr hu
        rw [hres] at h
        rw [hfiles]
        exact ⟨config, .unchanged, (Except.ok.inj h).symm, hr, hcurrent⟩
      · obtain ⟨hres, hfiles⟩ := run_of_update hr hu
        rw [hres] at h
        rw [hfiles]
        exact ⟨config, .written, (Except.ok.inj h).symm,
          settled_of_written hr hdistinct hgrown hwrite⟩

end Generation

namespace Workspace

open Generation (Settled told)

def Abides (workspace : Workspace) (settings : Settings) (operation : Operation) : Prop :=
  operation.ofProgram = true ∧ ∀ other ∈ workspace.writing? operation, other = settings

def Spares (workspace : Workspace) (settings : Settings) (operation : Operation) : Prop :=
  (workspace.perform operation).2.store.files.read settings.contentPath =
      workspace.store.files.read settings.contentPath ∧
    (workspace.perform operation).2.store.files.read settings.generatedPath =
      workspace.store.files.read settings.generatedPath

instance (workspace : Workspace) (settings : Settings) (operation : Operation) :
    Decidable (workspace.Abides settings operation) := inferInstanceAs (Decidable (_ ∧ _))

instance (workspace : Workspace) (settings : Settings) (operation : Operation) :
    Decidable (workspace.Spares settings operation) := inferInstanceAs (Decidable (_ ∧ _))

-- Nothing but runs with the given settings changes one of the two files.
def Undisturbed (settings : Settings) : Workspace → List Operation → Prop
  | _, [] => True
  | workspace, operation :: rest =>
      (workspace.Abides settings operation ∨ workspace.Spares settings operation) ∧
        Undisturbed settings (workspace.perform operation).2 rest

instance decidableUndisturbed (settings : Settings) :
    (workspace : Workspace) → (operations : List Operation) →
      Decidable (Undisturbed settings workspace operations)
  | _, [] => isTrue trivial
  | workspace, operation :: rest =>
      have := decidableUndisturbed settings (workspace.perform operation).2 rest
      inferInstanceAs (Decidable (_ ∧ _))

variable {settings : Settings} {config : Config} {workspace : Workspace} {operation : Operation}

theorem perform_of_settled (h : Settled settings config workspace.store.files)
    (hw : workspace.writing? operation = some settings) :
    (workspace.perform operation).1.result =
        .ok (operation.tell (told settings config .unchanged)) ∧
      (workspace.perform operation).2.store.files = workspace.store.files := by
  obtain ⟨hstore, hok, -⟩ := perform_of_writing hw
  obtain ⟨hres, hfiles⟩ := h.run_unchanged
  exact ⟨hok _ hres, by rw [hstore, hfiles]⟩

theorem files_of_abides (h : Settled settings config workspace.store.files)
    (ha : workspace.Abides settings operation) :
    (workspace.perform operation).2.store.files = workspace.store.files := by
  cases hw : workspace.writing? operation with
  | none => exact perform_of_reading ha.1 hw
  | some other =>
      obtain rfl : other = settings := ha.2 other hw
      exact (perform_of_settled h hw).2

theorem check_of_settled (h : Settled settings config workspace.store.files)
    (hc : workspace.checking? operation = some settings) :
    (workspace.perform operation).1.result = .ok (.reply (CommandLine.upToDate settings)) := by
  cases operation with
  | command arguments =>
      obtain ⟨level, project, hread, hload⟩ := generating?_eq_some.mp hc
      have hcheck := CommandLine.check_of_read hread hload h.config_eq
      rw [Generation.isCurrent_eq_true.mpr h.current] at hcheck
      change Except.map Answer.reply (CommandLine.run arguments workspace).1.result = _
      rw [hcheck]
      rfl
  | _ => cases hc

-- By induction on what came before: every operation leaves the two files as they are.
theorem settled_of_undisturbed (h : Settled settings config workspace.store.files)
    {operations : List Operation} (hu : Undisturbed settings workspace operations)
    {earlier later : List Operation} (he : operations = earlier ++ operation :: later) :
    Settled settings config (workspace.performAll earlier).store.files := by
  induction earlier generalizing workspace operations with
  | nil => exact h
  | cons first rest ih =>
      subst he
      obtain ⟨hfirst, hrest⟩ := hu
      refine ih ?_ hrest rfl
      rcases hfirst with ha | hs
      · rw [files_of_abides h ha]
        exact h
      · exact h.congr hs.1 hs.2

end Workspace

-- Unless the content config and the generated file are one file, a writing run leaves the generated
-- file as the config asks for. From then on every writing run with the same settings finds nothing
-- to do, and every check passes, as long as nothing else changes the two files.
theorem generation_converges {settings : Settings} {store : Store} {made : Generation}
    (hdistinct : store.files.destination settings.contentPath ≠
      store.files.destination settings.generatedPath)
    (hrun : (Generation.run settings true store).1.result = .ok made) :
    let after := (Generation.run settings true store).2
    (∃ config, (Generation.readConfig after.files settings.contentPath).result = .ok config ∧
        made.output = Generated.render config) ∧
      after.files.read settings.generatedPath = .ok (Text.Utf8.encode made.output) ∧
      ∀ (workspace : Workspace) (operations : List Operation),
        workspace.store.files = after.files →
        Workspace.Undisturbed settings workspace operations →
        ∀ earlier operation later, operations = earlier ++ operation :: later →
          let now := workspace.performAll earlier
          (now.writing? operation = some settings →
              (now.perform operation).1.result =
                .ok (operation.tell { made with outcome := .unchanged })) ∧
            (now.checking? operation = some settings →
              (now.perform operation).1.result = .ok (.reply (CommandLine.upToDate settings))) ∧
            (now.Abides settings operation →
              (now.perform operation).2.store.files = now.store.files) := by
  intro after
  obtain ⟨config, outcome, rfl, hsettled⟩ := Generation.settled_of_run hdistinct hrun
  refine ⟨⟨config, hsettled.config_eq, rfl⟩, hsettled.current, ?_⟩
  intro workspace operations hfiles hu earlier operation later he now
  have hstart : Generation.Settled settings config workspace.store.files := hfiles ▸ hsettled
  have hnow := Workspace.settled_of_undisturbed hstart hu he
  exact ⟨fun hw => (Workspace.perform_of_settled hnow hw).1, Workspace.check_of_settled hnow,
    Workspace.files_of_abides hnow⟩

namespace Workspace

def generatedSample : Workspace :=
  sample.withFiles (Generation.update sample.store.files ({} : Settings).generatedPath
    (Generated.render sampleConfig)).2

def generateRequest : Service.Request := ⟨"POST", "/generate", [], []⟩

-- Another file is edited, and the service is set up and asked to generate again.
def sampleSession : List Operation :=
  [.edit ⟨0, ["notes.md"]⟩ [35], .start (some []), .request generateRequest,
    .command ["generate", "--check"]]

theorem sample_run :
    (Generation.run {} true sample.store).1.result =
        .ok (Generation.told {} sampleConfig .written) ∧
      (Generation.run {} true sample.store).2.files = generatedSample.store.files := by
  have hout : (Generation.update sample.store.files ({} : Settings).generatedPath
      (Generated.render sampleConfig)).1 = .ok .written := by decide +kernel
  exact Generation.run_of_update sample_config (Prod.ext hout rfl)

end Workspace

theorem generation_converges_sample :
    Workspace.Undisturbed {} Workspace.generatedSample Workspace.sampleSession ∧
      ((Workspace.generatedSample.performAll (Workspace.sampleSession.take 2)).perform
          (.request Workspace.generateRequest)).1.result =
        .ok (.response (Service.json 200
          (Generation.told {} Workspace.sampleConfig .unchanged).toJson)) := by
  have hu : Workspace.Undisturbed {} Workspace.generatedSample Workspace.sampleSession := by
    decide +kernel
  have hw : (Workspace.generatedSample.performAll (Workspace.sampleSession.take 2)).writing?
      (.request Workspace.generateRequest) = some {} := by decide +kernel
  have hconverges := (generation_converges (by decide) Workspace.sample_run.1).2.2
    Workspace.generatedSample Workspace.sampleSession Workspace.sample_run.2.symm hu
    (Workspace.sampleSession.take 2) (.request Workspace.generateRequest) _ rfl
  exact ⟨hu, hconverges.1 hw⟩

end ContentForms
