import ContentForms.Proofs.Metrics
import ContentForms.Proofs.Session

namespace ContentForms

namespace Generation

abbrev Ending := Except Failure Generation

def counted (metrics : Metrics) : Ending → Metrics
  | .ok made => metrics.returned made.config made.outcome
  | .error (.configNotFound _) => metrics.failed .configNotFound
  | .error _ => metrics

theorem metrics_of_run (settings : Settings) (write : Bool) (store : Store) :
    (run settings write store).2.metrics =
      counted store.metrics (run settings write store).1.result := by
  cases hread : (readConfig store.files settings.contentPath).result with
  | error failure =>
      simp only [run, hread]
      cases failure <;> rfl
  | ok config =>
      rcases hend : conclude store.files settings.generatedPath (Generated.render config) write with
        ⟨failure | outcome, files⟩ <;>
        simp only [run, hread, hend, counted]

def returned (endings : List Ending) : List Generation := endings.filterMap Except.toOption

def reason? : Ending → Option FailureReason
  | .error (.configNotFound _) => some .configNotFound
  | _ => none

def reasons (endings : List Ending) : List FailureReason := endings.filterMap reason?

private theorem returned_concat (endings : List Ending) (ending : Ending) :
    returned (endings ++ [ending]) = returned endings ++ (Except.toOption ending).toList := by
  rw [returned, List.filterMap_append]
  cases ending <;> rfl

private theorem reasons_concat (endings : List Ending) (ending : Ending) :
    reasons (endings ++ [ending]) = reasons endings ++ (reason? ending).toList := by
  rw [reasons, List.filterMap_append]
  cases h : reason? ending <;> simp [h, reasons]

structure Accounted (metrics : Metrics) (endings : List Ending) : Prop where
  runs_eq : metrics.runs = (returned endings).length
  fields : Tally.Counts metrics.fields
    ((returned endings).flatMap fun made => Metrics.fieldTypes made.config)
  writes : Tally.Counts metrics.writes ((returned endings).map outcome)
  failures : Tally.Counts metrics.failures (reasons endings)

private theorem accounted_empty : Accounted {} [] :=
  ⟨rfl, Tally.counts_empty, Tally.counts_empty, Tally.counts_empty⟩

-- What one more run adds, by how it ended. Failures other than a missing config add nothing.
theorem Accounted.counted {metrics : Metrics} {endings : List Ending}
    (h : Accounted metrics endings) (ending : Ending) :
    Accounted (counted metrics ending) (endings ++ [ending]) := by
  have hreturned := returned_concat endings ending
  have hreasons := reasons_concat endings ending
  cases ending with
  | ok made =>
      simp only [Except.toOption, Option.toList_some] at hreturned
      simp only [reason?, Option.toList_none, List.append_nil] at hreasons
      constructor
      · rw [hreturned, List.length_append, ← h.runs_eq]
        rfl
      · rw [hreturned, List.flatMap_append, List.flatMap_singleton]
        exact h.fields.foldl _
      · rw [hreturned, List.map_append, List.map_singleton]
        exact h.writes.increment made.outcome
      · rw [hreasons]
        exact h.failures
  | error failure =>
      simp only [Except.toOption, Option.toList_none, List.append_nil] at hreturned
      obtain ⟨hruns, hfields, hwrites, hfailures⟩ := h
      rw [← hreturned] at hruns hfields hwrites
      cases failure with
      | configNotFound path =>
          refine ⟨hruns, hfields, hwrites, ?_⟩
          rw [hreasons]
          exact hfailures.increment .configNotFound
      | _ =>
          refine ⟨hruns, hfields, hwrites, ?_⟩
          simp only [reason?, Option.toList_none, List.append_nil] at hreasons
          rw [hreasons]
          exact hfailures

structure Balanced (metrics : Metrics) (endings : List Ending) : Prop where
  runs_eq : metrics.runs = (returned endings).length
  writes_sum : metrics.writes.values.sum = (returned endings).length
  writes_count : ∀ outcome, Tally.count metrics.writes outcome =
    (returned endings).countP fun made => made.outcome = outcome
  fields_count : ∀ type, Tally.count metrics.fields type =
    ((returned endings).map fun made => made.config.fieldsOfType type).sum
  fields_sum : metrics.fields.values.sum =
    ((returned endings).map fun made => made.config.fieldCount).sum
  failures_count : Tally.count metrics.failures .configNotFound =
    endings.countP fun ending => reason? ending = some .configNotFound
  writes_children : Tally.Shows metrics.writes Outcome.name
    ((returned endings).map fun made => made.outcome.name)
  fields_children : Tally.Shows metrics.fields FieldType.name
    ((returned endings).flatMap fun made => (Metrics.fieldTypes made.config).map FieldType.name)
  failures_children : Tally.Shows metrics.failures FailureReason.name
    ((reasons endings).map FailureReason.name)

theorem Accounted.balanced {metrics : Metrics} {endings : List Ending}
    (h : Accounted metrics endings) : Balanced metrics endings where
  runs_eq := h.runs_eq
  writes_sum := by rw [h.writes.sum_values, List.length_map]
  writes_count outcome := by
    rw [h.writes.count_eq, List.count_eq_countP, List.countP_map]
    rfl
  fields_count type := by
    rw [h.fields.count_eq, List.count_flatMap]
    congr 1
    exact List.map_congr_left fun made _ => Metrics.count_fieldTypes made.config type
  fields_sum := by
    rw [h.fields.sum_values, List.length_flatMap]
    congr 1
    exact List.map_congr_left fun made _ => Metrics.length_fieldTypes made.config
  failures_count := by
    rw [h.failures.count_eq, reasons, List.count_filterMap]
    exact List.countP_congr fun ending _ => by simp
  writes_children := by
    have hshows := h.writes.shows Outcome.name_injective
    rwa [List.map_map] at hshows
  fields_children := by
    have hshows := h.fields.shows FieldType.name_injective
    rwa [List.map_flatMap] at hshows
  failures_children := h.failures.shows FailureReason.name_injective

end Generation

structure Metrics.AtMost (before after : Metrics) : Prop where
  runs_le : before.runs ≤ after.runs
  fields_le : ∀ type, Tally.count before.fields type ≤ Tally.count after.fields type
  writes_le : ∀ outcome, Tally.count before.writes outcome ≤ Tally.count after.writes outcome
  failures_le : ∀ reason, Tally.count before.failures reason ≤ Tally.count after.failures reason

theorem Generation.Accounted.atMost {before after : Metrics} {endings more : List Ending}
    (hb : Accounted before endings) (ha : Accounted after (endings ++ more)) :
    before.AtMost after := by
  obtain ⟨hruns, hfields, hwrites, hfailures⟩ := ha
  have hreturned : returned (endings ++ more) = returned endings ++ returned more :=
    List.filterMap_append
  have hreasons : reasons (endings ++ more) = reasons endings ++ reasons more :=
    List.filterMap_append
  rw [hreturned] at hruns hfields hwrites
  rw [List.flatMap_append] at hfields
  rw [List.map_append] at hwrites
  rw [hreasons] at hfailures
  refine ⟨?_, hb.fields.le hfields, hb.writes.le hwrites, hb.failures.le hfailures⟩
  rw [hb.runs_eq, hruns, List.length_append]
  omega

namespace Workspace

open Generation (Ending Accounted counted returned reasons)

def ending? (workspace : Workspace) (operation : Operation) : Option Ending :=
  (workspace.running? operation).map fun run =>
    (Generation.run run.1 run.2 workspace.store).1.result

def endings : Workspace → List Operation → List Ending
  | _, [] => []
  | workspace, operation :: rest =>
      (workspace.ending? operation).toList ++ (workspace.perform operation).2.endings rest

section Step

variable {workspace : Workspace} {operation : Operation}

-- What does not run counts nothing. Changes from outside do not touch the counts either.
theorem perform_of_idle (h : workspace.running? operation = none) :
    (workspace.perform operation).2.store.metrics = workspace.store.metrics := by
  cases hown : operation.ofProgram with
  | true => rw [store_of_idle hown h]
  | false =>
      cases operation with
      | edit path bytes => rfl
      | makeDirectory path => rfl
      | delete path => rfl
      | setVariable name value => rfl
      | _ => cases hown

theorem accounted_perform {endings : List Ending} (h : Accounted workspace.store.metrics endings)
    (operation : Operation) :
    Accounted (workspace.perform operation).2.store.metrics
      (endings ++ (workspace.ending? operation).toList) := by
  cases hr : workspace.running? operation with
  | none =>
      rw [perform_of_idle hr]
      simpa [ending?, hr] using h
  | some found =>
      obtain ⟨settings, write⟩ := found
      rw [perform_of_running hr, Generation.metrics_of_run]
      simpa [ending?, hr] using h.counted (Generation.run settings write workspace.store).1.result

end Step

theorem accounted_performAll {workspace : Workspace} {earlier : List Ending}
    (h : Accounted workspace.store.metrics earlier) (operations : List Operation) :
    Accounted (workspace.performAll operations).store.metrics
      (earlier ++ workspace.endings operations) := by
  induction operations generalizing workspace earlier with
  | nil =>
      rw [endings, List.append_nil]
      exact h
  | cons operation rest ih =>
      rw [endings, ← List.append_assoc]
      exact ih (accounted_perform h operation)

private theorem endings_append (workspace : Workspace) (earlier later : List Operation) :
    workspace.endings (earlier ++ later) =
      workspace.endings earlier ++ (workspace.performAll earlier).endings later := by
  induction earlier generalizing workspace with
  | nil => rfl
  | cons operation rest ih =>
      rw [List.cons_append, endings, endings, ih, List.append_assoc]
      rfl

-- Parsing, in the session or by a command, and requests to anything but generating.
def LooksOnly : Operation → Prop
  | .parse _ _ => True
  | .command arguments =>
      ∃ level path, CommandLine.Invocation.read arguments = .ok ⟨level, .parse path⟩
  | .request request =>
      Service.Route.ofPath? (Service.settledPath request) ≠ some .generate
  | _ => False

theorem running?_of_looksOnly {operation : Operation} (h : LooksOnly operation)
    (workspace : Workspace) : workspace.running? operation = none := by
  cases operation with
  | parse path level => rfl
  | command arguments =>
      obtain ⟨level, path, hread⟩ := h
      simp only [running?, commanded?, hread]
  | request request =>
      have hasks : asksToGenerate request = false := by
        simp only [asksToGenerate, Bool.and_eq_false_iff, decide_eq_false_iff_not]
        exact .inl h
      simp [running?, hasks]
  | _ => exact h.elim

structure CountsOnce (workspace : Workspace) (operation : Operation) : Prop where
  -- It makes a run, and leaves what the run leaves.
  running : ∀ settings write, workspace.running? operation = some (settings, write) →
    (workspace.perform operation).2.store = (Generation.run settings write workspace.store).2
  -- A run that fails for another reason than a config that is not there is not counted.
  failing : ∀ failure, workspace.ending? operation = some (.error failure) →
    (∀ path, failure ≠ .configNotFound path) →
    (workspace.perform operation).2.store.metrics = workspace.store.metrics
  idle : workspace.running? operation = none →
    (workspace.perform operation).2.store.metrics = workspace.store.metrics
  looking : LooksOnly operation →
    (workspace.perform operation).2.store.metrics = workspace.store.metrics

theorem countsOnce (workspace : Workspace) (operation : Operation) :
    CountsOnce workspace operation where
  running _ _ h := perform_of_running h
  failing failure h hother := by
    obtain ⟨⟨settings, write⟩, hrun, hresult⟩ := Option.map_eq_some_iff.mp h
    rw [perform_of_running hrun, Generation.metrics_of_run, hresult]
    cases failure with
    | configNotFound path => exact absurd rfl (hother path)
    | _ => rfl
  idle h := perform_of_idle h
  looking h := perform_of_idle (running?_of_looksOnly h workspace)

-- A run that returned is counted once as a run, once by its outcome and once for each of its
-- fields; one that did not find its config is counted as failed. Nothing else is counted, by
-- whichever way it was asked for.
theorem session_accounted {workspace : Workspace} (hzero : workspace.store.metrics = {})
    (operations : List Operation) :
    Generation.Balanced (workspace.performAll operations).store.metrics
        (workspace.endings operations) ∧
      (∀ earlier operation later, operations = earlier ++ operation :: later →
        CountsOnce (workspace.performAll earlier) operation) ∧
      ∀ earlier later, operations = earlier ++ later →
        (workspace.performAll earlier).store.metrics.AtMost
          (workspace.performAll operations).store.metrics := by
  have hstart : Accounted workspace.store.metrics [] := by
    rw [hzero]
    exact Generation.accounted_empty
  have hpoint : ∀ reached, Accounted (workspace.performAll reached).store.metrics
      (workspace.endings reached) := accounted_performAll hstart
  refine ⟨(hpoint operations).balanced, fun earlier operation _ _ => countsOnce _ operation, ?_⟩
  rintro earlier later rfl
  have hall := hpoint (earlier ++ later)
  rw [endings_append] at hall
  exact (hpoint earlier).atMost hall

-- The sample project is generated, checked, and asked for again once its config is gone.
def accountedSession : List Operation :=
  [.run [] true "info", .command ["generate", "--check"], .delete ⟨0, ["src"]⟩,
    .run [] true "info"]

theorem session_accounted_sample :
    let metrics := (sample.performAll accountedSession).store.metrics
    sample.store.metrics = {} ∧ metrics.runs = 2 ∧ Tally.count metrics.writes .written = 1 ∧
      Tally.count metrics.fields .text = 2 ∧ Tally.count metrics.failures .configNotFound = 1 := by
  have hzero : sample.store.metrics = {} := rfl
  obtain ⟨hruns, -, hwrites, hfields, -, hfailures, -⟩ :=
    (session_accounted hzero accountedSession).1
  refine ⟨hzero, ?_⟩
  rw [hruns, hwrites, hfields, hfailures]
  decide +kernel

end Workspace

end ContentForms
