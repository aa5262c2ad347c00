import ContentForms.Proofs.Extraction.Refusal
import ContentForms.Proofs.Generation.Input
import ContentForms.Proofs.Session

namespace ContentForms

open Text.Utf8 (encode)

-- Settings fail by their values, or by a file of bindings that is no text.
theorem Settings.load_error {files : Files} {environment : OrderedMap String String}
    {direct : List (String × Json)} {failure : Failure}
    (h : load files environment direct = .error failure) :
    (∃ faults, failure = .settings faults) ∨ ∃ fault, failure = .encoding fault := by
  unfold load at h
  cases hfile : fileBindings files environment with
  | error met =>
      simp only [hfile, bind, Except.bind, Except.error.injEq] at h
      subst h
      unfold fileBindings at hfile
      split at hfile
      · cases hfile
      · split at hfile <;> cases hfile
        exact .inr ⟨_, rfl⟩
  | ok bindings =>
      simp only [hfile, bind, Except.bind] at h
      split at h <;> cases h
      exact .inl ⟨_, rfl⟩

namespace Generation

-- All that can keep a config from being read, each with its cause.
theorem readConfig_error {files : Files} {path : Path} {failure : Failure}
    (h : (readConfig files path).result = .error failure) :
    (failure = .configNotFound path ∧ ¬ ∃ text, files.read path = .ok (encode text)) ∨
      (failure = .file ⟨.nullByte, path⟩ ∧ path.hasNull = true) ∨
      (failure = .schema .emptyName ∧ ∃ text, files.read path = .ok (encode text) ∧
        (Conversion.read text).result = .error .emptyName) := by
  cases hread : files.read path with
  | error fault =>
      rcases Files.read_error hread with ⟨hnull, rfl⟩ | ⟨hnull, -⟩
      · simp only [readConfig, hread] at h
        cases h
        exact .inr (.inl ⟨rfl, hnull⟩)
      · rw [readConfig_of_unreadable hnull hread] at h
        cases h
        exact .inl ⟨rfl, by simp⟩
  | ok bytes =>
      by_cases hbytes : IllFormed bytes
      · rw [readConfig_of_illFormed hread hbytes] at h
        cases h
        refine .inl ⟨rfl, ?_⟩
        rintro ⟨text, htext⟩
        exact hbytes text (Except.ok.inj htext).symm
      · obtain ⟨text, rfl⟩ : ∃ text, encode text = bytes := by simpa [IllFormed] using hbytes
        rw [result_of_text hread, Traced.mapError] at h
        cases hconfig : (Conversion.read text).result with
        | ok config => simp [hconfig] at h
        | error e =>
            obtain rfl := Extraction.config_failsOnlyBy (TypeScript.parse text) e hconfig
            simp only [hconfig] at h
            cases h
            exact .inr (.inr ⟨rfl, text, rfl, hconfig⟩)

-- A writing run gets as far as making the directory of the generated file and writing the file.
def Replaces (settings : Settings) (files : Files) (config : Config) : Prop :=
  (readConfig files settings.contentPath).result = .ok config ∧
    isCurrent files settings.generatedPath (Generated.render config) = .ok false

-- A run that gets there and returns has written.
theorem Replaces.outcome_eq {settings : Settings} {store : Store} {config : Config}
    (h : Replaces settings store.files config) {made : Generation}
    (hm : (run settings true store).1.result = .ok made) : made.outcome = .written := by
  rcases replace_cases store.files settings.generatedPath (Generated.render config) with
    ⟨failure, left, hend, -⟩ | ⟨ready, done, hend, -, -⟩
  · rw [(run_of_update_error h.1 ((update_of_stale h.2).trans hend)).1] at hm
    cases hm
  · rw [(run_of_update h.1 ((update_of_stale h.2).trans hend)).1] at hm
    cases hm
    rfl

end Generation

namespace CommandLine

open Generation (Replaces told)

def EndsReplacing (settings : Settings) (config : Config) (files : Files) (written : Executed) :
    Prop :=
  let ending := Generation.replace files settings.generatedPath (Generated.render config)
  written.2.store.files = ending.2 ∧
    ((ending.1 = .ok .written ∧ written.1.result =
        .ok { status := 0, output := summary (told settings config .written) }) ∨
      ∃ failure, ending.1 = .error failure ∧ written.1.result = .error (.file failure))

def upToDate (settings : Settings) : Reply :=
  { status := 0, output := settings.generatedPath.toString ++ " is up to date\n" }

def outOfDate (path : Path) : Reply :=
  { status := 1, errors := path.toString ++ " is out of date\n" }

def notFound (path : Path) : Reply :=
  { status := 1, errors := "error: " ++ (Failure.configNotFound path).message ++ "\n" }

-- The two messages that come with status 1 do not end alike.
private theorem outOfDate_ne_notFound (path other : Path) : outOfDate path ≠ notFound other := by
  intro h
  have herrors : path.toString ++ " is out of date\n" =
      "error: " ++ ("Content config " ++ other.toString ++ " not found") ++ "\n" :=
    congrArg Reply.errors h
  have hstale : " is out of date\n".toList = " is out of dat".toList ++ ['e', '\n'] := by
    decide +kernel
  have hmissing : " not found".toList = " not foun".toList ++ ['d'] := by decide +kernel
  have hnewline : "\n".toList = ['\n'] := by decide +kernel
  have hlists := congrArg String.toList herrors
  simp only [String.toList_append, hstale, hmissing, hnewline, List.append_assoc] at hlists
  simp only [← List.append_assoc, List.cons_append, List.nil_append] at hlists
  cases (List.append_inj' hlists rfl).2

theorem tolerant_error (failure : Failure) :
    (∃ path, tolerant (.error failure) = .ok (notFound path)) ∨
      tolerant (.error failure) = .error failure := by
  cases failure with
  | configNotFound path => exact .inl ⟨path, rfl⟩
  | file _ => exact .inr rfl
  | schema _ => exact .inr rfl
  | settings _ => exact .inr rfl
  | encoding _ => exact .inr rfl

-- All that can end a check which neither passes nor tells of a file out of date, each with what
-- brings it about. A missing generated file is not among them: it is out of date.
inductive Stops (workspace : Workspace) (project : Project) : Except Failure Reply → Prop
  | settings (faults : List Settings.Fault)
      (load : workspace.settings project.direct = .error (.settings faults)) :
      Stops workspace project (.error (.settings faults))
  | encoding (fault : Text.Utf8.Fault)
      (load : workspace.settings project.direct = .error (.encoding fault)) :
      Stops workspace project (.error (.encoding fault))
  | notFound (settings : Settings) (load : workspace.settings project.direct = .ok settings)
      (unread : ¬ ∃ text, workspace.store.files.read settings.contentPath = .ok (encode text)) :
      Stops workspace project (.ok (notFound settings.contentPath))
  | nameless (settings : Settings) (text : String)
      (load : workspace.settings project.direct = .ok settings)
      (source : workspace.store.files.read settings.contentPath = .ok (encode text))
      (refused : (Conversion.read text).result = .error .emptyName) :
      Stops workspace project (.error (.schema .emptyName))
  | nullByte (settings : Settings) (path : Path)
      (load : workspace.settings project.direct = .ok settings)
      (asked : path = settings.contentPath ∨ path = settings.generatedPath)
      (hasNull : path.hasNull = true) :
      Stops workspace project (.error (.file ⟨.nullByte, path⟩))
  | target (settings : Settings) (fault : Files.Fault)
      (load : workspace.settings project.direct = .ok settings)
      (known : fault = .isDirectory ∨ fault = .notDirectory)
      (unread : workspace.store.files.read settings.generatedPath = .error fault) :
      Stops workspace project (.error (.file ⟨fault, settings.generatedPath⟩))

section Stopping

variable {workspace : Workspace} {project : Project} {settings : Settings}

private theorem stops_of_unloaded {failure : Failure}
    (h : workspace.settings project.direct = .error failure) :
    Stops workspace project (.error failure) := by
  rcases Settings.load_error h with ⟨faults, rfl⟩ | ⟨fault, rfl⟩
  · exact .settings faults h
  · exact .encoding fault h

private theorem stops_of_unread {failure : Failure}
    (hload : workspace.settings project.direct = .ok settings)
    (h : (Generation.readConfig workspace.store.files settings.contentPath).result =
      .error failure) : Stops workspace project (tolerant (.error failure)) := by
  rcases Generation.readConfig_error h with ⟨rfl, hunread⟩ | ⟨rfl, hnull⟩ | ⟨rfl, text, ht, hr⟩
  · exact .notFound settings hload hunread
  · exact .nullByte settings _ hload (.inl rfl) hnull
  · exact .nameless settings text hload ht hr

private theorem stops_of_unknown {text : String} {failure : Files.Failure}
    (hload : workspace.settings project.direct = .ok settings)
    (h : Generation.isCurrent workspace.store.files settings.generatedPath text =
      .error failure) : Stops workspace project (.error (.file failure)) := by
  obtain ⟨fault, path⟩ := failure
  obtain ⟨rfl, hfound, hread⟩ := Generation.isCurrent_eq_error.mp h
  rcases Files.read_error hread with ⟨hnull, rfl⟩ | ⟨-, hfault⟩
  · exact .nullByte settings _ hload (.inr rfl) hnull
  · have hknown : fault = .isDirectory ∨ fault = .notDirectory := by
      rcases hfault with hf | hf | hf
      · exact absurd hf hfound
      · exact .inr hf
      · exact .inl hf
    exact .target settings fault hload hknown hread

end Stopping

section Endings

variable {asked given : List String} {level other : Option String} {project : Project}
  {workspace : Workspace} {settings : Settings} {config : Config}

-- The end of a check, from what looking at the generated file gives.
theorem check_of_read
    (hc : Invocation.read asked = .ok ⟨level, .generate project false true⟩)
    (hload : workspace.settings project.direct = .ok settings)
    (hread : (Generation.readConfig workspace.store.files settings.contentPath).result =
      .ok config) :
    (run asked workspace).1.result =
      match Generation.isCurrent workspace.store.files settings.generatedPath
        (Generated.render config) with
      | .error failure => .error (.file failure)
      | .ok true => .ok (upToDate settings)
      | .ok false => .ok (outOfDate settings.generatedPath) := by
  obtain ⟨hdry, hfiles⟩ := Generation.run_dry hread
  rw [(run_checking hc hload).2, hdry, hfiles]
  simp only [Except.bind, generated, checked, told]
  cases Generation.isCurrent workspace.store.files settings.generatedPath
    (Generated.render config) with
  | error failure => rfl
  | ok current => cases current <;> rfl

theorem check_of_unread {failure : Failure}
    (hc : Invocation.read asked = .ok ⟨level, .generate project false true⟩)
    (hload : workspace.settings project.direct = .ok settings)
    (hread : (Generation.readConfig workspace.store.files settings.contentPath).result =
      .error failure) : (run asked workspace).1.result = tolerant (.error failure) := by
  rw [(run_checking hc hload).2, (Generation.run_of_unread hread _).1]
  rfl

inductive Endings (workspace : Workspace) (project : Project) (settings : Settings)
    (check written : Executed) : Prop
  -- Both stop for the same cause before anything is written.
  | stopped (failure : Failure) (none : ∀ config, ¬ Replaces settings workspace.store.files config)
      (run : (Generation.run settings true workspace.store).1.result = .error failure)
      (stops : Stops workspace project (tolerant (.error failure)))
      (check_eq : check.1.result = tolerant (.error failure))
      (written_eq : written.1.result = tolerant (.error failure))
      (files_eq : written.2.store.files = workspace.store.files)
  | settled (config : Config) (none : ∀ config, ¬ Replaces settings workspace.store.files config)
      (run : (Generation.run settings true workspace.store).1.result =
        .ok (told settings config .unchanged))
      (check_eq : check.1.result = .ok (upToDate settings))
      (written_eq : written.1.result =
        .ok { status := 0, output := summary (told settings config .unchanged) })
      (files_eq : written.2.store.files = workspace.store.files)
  | replaced (config : Config) (replaces : Replaces settings workspace.store.files config)
      (check_eq : check.1.result = .ok (outOfDate settings.generatedPath))
      (written_eq : EndsReplacing settings config workspace.store.files written)

theorem endsReplacing
    (hw : Invocation.read given = .ok ⟨other, .generate project false false⟩)
    (hload : workspace.settings project.direct = .ok settings)
    (hr : Replaces settings workspace.store.files config) :
    EndsReplacing settings config workspace.store.files (run given workspace) := by
  obtain ⟨hstore, hwritten⟩ := run_writing hw hload
  rcases Generation.replace_cases workspace.store.files settings.generatedPath
    (Generated.render config) with ⟨failure, left, hend, -⟩ | ⟨ready, done, hend, -, -⟩
  · obtain ⟨hrun, hfiles⟩ :=
      Generation.run_of_update_error hr.1 ((Generation.update_of_stale hr.2).trans hend)
    refine ⟨by rw [hstore, hfiles, hend], .inr ⟨failure, by rw [hend], ?_⟩⟩
    rw [hwritten, hrun]
    rfl
  · obtain ⟨hrun, hfiles⟩ :=
      Generation.run_of_update hr.1 ((Generation.update_of_stale hr.2).trans hend)
    refine ⟨by rw [hstore, hfiles, hend], .inl ⟨by rw [hend], ?_⟩⟩
    rw [hwritten, hrun]
    rfl

-- Both commands ask whether the config can be read, and then whether the file is current.
theorem endings (hc : Invocation.read asked = .ok ⟨level, .generate project false true⟩)
    (hw : Invocation.read given = .ok ⟨other, .generate project false false⟩)
    (hload : workspace.settings project.direct = .ok settings) :
    Endings workspace project settings (run asked workspace) (run given workspace) := by
  obtain ⟨hstore, hwritten⟩ := run_writing hw hload
  cases hread : (Generation.readConfig workspace.store.files settings.contentPath).result with
  | error failure =>
      obtain ⟨hrun, hfiles⟩ := Generation.run_of_unread hread true
      refine .stopped failure (fun config hr => ?_) hrun (stops_of_unread hload hread)
        (check_of_unread hc hload hread) ?_ (by rw [hstore, hfiles])
      · rw [hr.1] at hread
        cases hread
      · rw [hwritten, hrun]
        rfl
  | ok config =>
      have hcheck := check_of_read hc hload hread
      -- Only this config can be read, so the comparison with its module decides.
      have hnone : ∀ {answer}, Generation.isCurrent workspace.store.files settings.generatedPath
          (Generated.render config) = answer → answer ≠ .ok false →
          ∀ found, ¬ Replaces settings workspace.store.files found := by
        intro answer ha hne found hr
        obtain rfl : config = found := Except.ok.inj (hread.symm.trans hr.1)
        exact hne (ha.symm.trans hr.2)
      cases hcurrent : Generation.isCurrent workspace.store.files settings.generatedPath
          (Generated.render config) with
      | error failure =>
          obtain ⟨hrun, hfiles⟩ :=
            Generation.run_of_update_error hread (Generation.update_of_unknown hcurrent)
          rw [hcurrent] at hcheck
          refine .stopped (.file failure) (hnone hcurrent (by simp)) hrun
            (stops_of_unknown hload hcurrent) hcheck ?_ (by rw [hstore, hfiles])
          rw [hwritten, hrun]
          rfl
      | ok current =>
          rw [hcurrent] at hcheck
          cases current with
          | true =>
              obtain ⟨hrun, hfiles⟩ :=
                Generation.run_of_update hread (Generation.update_of_current hcurrent)
              refine .settled config (hnone hcurrent (by simp)) hrun hcheck ?_
                (by rw [hstore, hfiles])
              rw [hwritten, hrun]
              rfl
          | false =>
              have hreplaces : Replaces settings workspace.store.files config :=
                ⟨hread, hcurrent⟩
              exact .replaced config hreplaces hcheck (endsReplacing hw hload hreplaces)

end Endings

def Passes (check : Executed) : Prop := ∃ reply, check.1.result = .ok reply ∧ reply.status = 0

def TellsStale (workspace : Workspace) (project : Project) (check : Executed) : Prop :=
  ∃ settings, workspace.settings project.direct = .ok settings ∧
    check.1.result = .ok (outOfDate settings.generatedPath)

-- What a check says of the command to write, started from the same workspace.
structure Predicts (workspace : Workspace) (project : Project) (check written : Executed) :
    Prop where
  passes : Passes check ↔ ∃ settings run, workspace.settings project.direct = .ok settings ∧
    (Generation.run settings true workspace.store).1.result = .ok run ∧
      run.outcome = .unchanged ∧ written.1.result = .ok { status := 0, output := summary run }
  stale : TellsStale workspace project check ↔ ∃ settings config,
    workspace.settings project.direct = .ok settings ∧
      Replaces settings workspace.store.files config ∧
      EndsReplacing settings config workspace.store.files written
  otherwise : ¬ Passes check → ¬ TellsStale workspace project check →
    check.1.result = written.1.result ∧ Stops workspace project check.1.result
  -- Where the check does not ask for it, writing does not even make a directory.
  untouched : ¬ TellsStale workspace project check →
    written.2.store.files = workspace.store.files
  files_eq : check.2.store.files = workspace.store.files

section Predicting

variable {workspace : Workspace} {project : Project} {settings : Settings}
  {check written : Executed}

theorem not_passes_of_tolerant {failure : Failure}
    (h : check.1.result = tolerant (.error failure)) : ¬ Passes check := by
  rintro ⟨reply, hreply, hstatus⟩
  rcases tolerant_error failure with ⟨path, hp⟩ | he
  · obtain rfl : notFound path = reply := Except.ok.inj ((hp.symm.trans h.symm).trans hreply)
    cases hstatus
  · cases (he.symm.trans h.symm).trans hreply

theorem not_tellsStale_of_tolerant {failure : Failure}
    (h : check.1.result = tolerant (.error failure)) : ¬ TellsStale workspace project check := by
  rintro ⟨settings, -, hstale⟩
  rcases tolerant_error failure with ⟨path, hp⟩ | he
  · exact outOfDate_ne_notFound _ path
      (Except.ok.inj (hstale.symm.trans (h.trans hp)))
  · cases (he.symm.trans h.symm).trans hstale

theorem Endings.predicts (h : Endings workspace project settings check written)
    (hload : workspace.settings project.direct = .ok settings)
    (hfiles : check.2.store.files = workspace.store.files) :
    Predicts workspace project check written := by
  have hsame : ∀ {found}, workspace.settings project.direct = .ok found → found = settings :=
    fun hf => Except.ok.inj (hf.symm.trans hload)
  cases h with
  | stopped failure none run stops check_eq written_eq files_eq =>
      have hpass := not_passes_of_tolerant check_eq
      have hstale : ¬ TellsStale workspace project check := not_tellsStale_of_tolerant check_eq
      refine ⟨iff_of_false hpass ?_, iff_of_false hstale ?_, fun _ _ => ⟨?_, ?_⟩,
        fun _ => files_eq, hfiles⟩
      · rintro ⟨found, made, hf, hmade, -⟩
        rw [hsame hf, run] at hmade
        cases hmade
      · rintro ⟨found, config, hf, hr, -⟩
        exact none config (hsame hf ▸ hr)
      · rw [check_eq, written_eq]
      · rw [check_eq]
        exact stops
  | settled config none run check_eq written_eq files_eq =>
      have hpass : Passes check := ⟨_, check_eq, rfl⟩
      refine ⟨iff_of_true hpass ⟨settings, _, hload, run, rfl, written_eq⟩,
        iff_of_false ?_ ?_, fun hn => absurd hpass hn, fun _ => files_eq, hfiles⟩
      · rintro ⟨found, -, hstale⟩
        cases check_eq.symm.trans hstale
      · rintro ⟨found, other, hf, hr, -⟩
        exact none other (hsame hf ▸ hr)
  | replaced config replaces check_eq written_eq =>
      have hstale : TellsStale workspace project check := ⟨settings, hload, check_eq⟩
      refine ⟨iff_of_false ?_ ?_,
        iff_of_true hstale ⟨settings, config, hload, replaces, written_eq⟩,
        fun _ hn => absurd hstale hn, fun hn => absurd hstale hn, hfiles⟩
      · rintro ⟨reply, hreply, hstatus⟩
        obtain rfl : outOfDate settings.generatedPath = reply :=
          Except.ok.inj (check_eq.symm.trans hreply)
        cases hstatus
      · rintro ⟨found, made, hf, hmade, hout, -⟩
        rw [hsame hf] at hmade
        cases (replaces.outcome_eq hmade).symm.trans hout

end Predicting

-- The two commands ask the same questions of the same files, the check after a run that writes
-- nothing.
theorem check_predicts_generate {asked given : List String} {level other : Option String}
    {project : Project} (hc : Invocation.read asked = .ok ⟨level, .generate project false true⟩)
    (hw : Invocation.read given = .ok ⟨other, .generate project false false⟩)
    (workspace : Workspace) :
    Predicts workspace project (run asked workspace) (run given workspace) := by
  cases hload : workspace.settings project.direct with
  | error failure =>
      obtain ⟨hstore, hcheck⟩ := run_generate_unloaded hc hload
      obtain ⟨hleft, hwritten⟩ := run_generate_unloaded hw hload
      refine ⟨iff_of_false ?_ ?_, iff_of_false ?_ ?_, fun _ _ => ⟨?_, ?_⟩,
        fun _ => by rw [hleft], by rw [hstore]⟩
      · rintro ⟨reply, hreply, -⟩
        cases hcheck.symm.trans hreply
      · rintro ⟨settings, -, hs, -⟩
        cases hload.symm.trans hs
      · rintro ⟨settings, hs, -⟩
        cases hload.symm.trans hs
      · rintro ⟨settings, -, hs, -⟩
        cases hload.symm.trans hs
      · rw [hcheck, hwritten]
      · rw [hcheck]
        exact stops_of_unloaded hload
  | ok settings =>
      refine (endings hc hw hload).predicts hload ?_
      rw [(run_checking hc hload).1]
      exact Generation.run_dry_files settings workspace.store

-- The sample project has no generated file, so that a check of it does not pass. One of a project
-- without a content config stops.
theorem check_predicts_sample :
    Invocation.read ["generate", "--check"] = .ok ⟨none, .generate {} false true⟩ ∧
      Invocation.read ["generate"] = .ok ⟨none, .generate {} false false⟩ ∧
      TellsStale Workspace.sample {} (run ["generate", "--check"] Workspace.sample) ∧
      ¬ Passes (run ["generate", "--check"] Workspace.sample) ∧
      Stops (.new ["home"]) {} (run ["generate", "--check"] (.new ["home"])).1.result := by
  have hc : Invocation.read ["generate", "--check"] = .ok ⟨none, .generate {} false true⟩ := by
    decide +kernel
  have hw : Invocation.read ["generate"] = .ok ⟨none, .generate {} false false⟩ := by
    decide +kernel
  have hload : Workspace.sample.settings (Project.direct {}) = .ok {} := Workspace.sample_settings
  have hr : Replaces {} Workspace.sample.store.files Workspace.sampleConfig :=
    ⟨Workspace.sample_config, Workspace.sample_not_current⟩
  have hp := check_predicts_generate hc hw Workspace.sample
  refine ⟨hc, hw, hp.stale.mpr ⟨{}, _, hload, hr, endsReplacing hw hload hr⟩, fun hpass => ?_, ?_⟩
  · obtain ⟨found, made, hf, hmade, hout, -⟩ := hp.passes.mp hpass
    obtain rfl : found = {} := Except.ok.inj (hf.symm.trans hload)
    cases (hr.outcome_eq hmade).symm.trans hout
  · have hempty : (Workspace.new ["home"]).settings (Project.direct {}) = .ok {} := by
      decide +kernel
    have hunread : (Generation.readConfig (Workspace.new ["home"]).store.files
        ({} : Settings).contentPath).result =
          .error (.configNotFound ({} : Settings).contentPath) := by
      decide +kernel
    have hcheck := check_of_unread hc hempty hunread
    exact ((check_predicts_generate hc hw (.new ["home"])).otherwise
      (not_passes_of_tolerant hcheck) (not_tellsStale_of_tolerant hcheck)).2

end CommandLine

end ContentForms
