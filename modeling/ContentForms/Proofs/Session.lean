import ContentForms.Proofs.Generation
import ContentForms.Session
import Mathlib.Data.List.Basic

namespace ContentForms

def Operation.ofProgram : Operation → Bool
  | .edit .. | .makeDirectory _ | .delete _ | .setVariable .. => false
  | _ => true

def Operation.tell (operation : Operation) (run : Generation) : Answer :=
  match operation with
  | .command _ => .reply { status := 0, output := CommandLine.summary run }
  | .request _ => .response (Service.json 200 run.toJson)
  | _ => .generation run

-- A failure, a status other than zero, a response with an error status, or none at all.
def Answer.refuses : Answer → Bool
  | .reply told => told.status != 0
  | .response told => 400 ≤ told.status
  | .unserved => true
  | _ => false

def refused : Except Failure Answer → Bool
  | .error _ => true
  | .ok answer => answer.refuses

namespace Workspace

def generating? (workspace : Workspace) (toOutput check : Bool) (arguments : List String) :
    Option Settings :=
  match CommandLine.Invocation.read arguments with
  | .ok ⟨_, .generate project printed checked⟩ =>
      if printed = toOutput ∧ checked = check then (workspace.settings project.direct).toOption
      else none
  | _ => none

def asksToGenerate (request : Service.Request) : Bool :=
  Service.Route.ofPath? (Service.settledPath request) = some .generate &&
    request.method = Service.Route.generate.method

theorem asksToGenerate_sent (request : Service.Request) :
    asksToGenerate request.sent = asksToGenerate request := by
  unfold Service.Request.sent
  split <;> rfl

-- The settings of the writing run that an operation makes, if it makes one.
def writing? (workspace : Workspace) : Operation → Option Settings
  | .run direct true _ => (workspace.settings direct).toOption
  | .command arguments => workspace.generating? false false arguments
  | .request request => if asksToGenerate request then workspace.service else none
  | _ => none

def commanded? (workspace : Workspace) (arguments : List String) : Option (Settings × Bool) :=
  match CommandLine.Invocation.read arguments with
  | .ok ⟨_, .generate project toOutput check⟩ =>
      (workspace.settings project.direct).toOption.map (·, !(toOutput || check))
  | _ => none

def running? (workspace : Workspace) : Operation → Option (Settings × Bool)
  | .run direct write _ => (workspace.settings direct).toOption.map (·, write)
  | .command arguments => workspace.commanded? arguments
  | .request request => if asksToGenerate request then workspace.service.map (·, true) else none
  | _ => none

def checking? (workspace : Workspace) : Operation → Option Settings
  | .command arguments => workspace.generating? false true arguments
  | _ => none

end Workspace

namespace Service

private theorem excess?_of_generate {settings : Settings} {request : Request}
    (h : Route.ofPath? (settledPath request) = some .generate) :
    excess? settings request = none := by
  have hne : settledPath request ≠ Route.convert.path := by
    intro he
    simp [he, Route.ofPath?, Route.all, Route.path] at h
  unfold excess?
  rw [if_neg hne]

theorem respond_of_asksToGenerate {request : Request}
    (h : Workspace.asksToGenerate request = true) (settings : Settings) (workspace : Workspace) :
    respond settings request workspace = answerGenerate settings workspace := by
  simp only [Workspace.asksToGenerate, Bool.and_eq_true, decide_eq_true_eq] at h
  obtain ⟨hpath, hmethod⟩ := h
  have hdispatch : dispatch settings request workspace = answerGenerate settings workspace := by
    unfold dispatch
    rw [hpath]
    simp only [if_pos hmethod, answer]
  have hne : request.method ≠ "HEAD" := by simp [hmethod, Route.method]
  unfold respond withoutBody
  rw [if_neg hne, excess?_of_generate hpath]
  exact hdispatch

-- Only the answer to a request to generate leaves another workspace.
theorem respond_workspace {request : Request} (h : Workspace.asksToGenerate request = false)
    (settings : Settings) (workspace : Workspace) :
    (respond settings request workspace).workspace = workspace := by
  have hbody : ∀ handled : Handled,
      (withoutBody request handled).workspace = handled.workspace := by
    intro handled
    unfold withoutBody
    split <;> rfl
  unfold respond
  rw [hbody]
  split
  · rfl
  · unfold dispatch
    split
    · rfl
    · rename_i route hr
      split
      · rename_i hm
        cases route with
        | health => rfl
        | convert =>
            simp only [answer, answerConvert]
            split <;> rfl
        | generate => simp [Workspace.asksToGenerate, hr, hm] at h
        | metrics => rfl
      · rfl

end Service

namespace Generation

theorem run_dry_files (settings : Settings) (store : Store) :
    (run settings false store).2.files = store.files := by
  cases h : (readConfig store.files settings.contentPath).result with
  | error failure => exact (run_of_unread h false).2
  | ok config => exact (run_dry h).2

end Generation

namespace CommandLine

-- What a command to generate comes to, if its settings can be loaded.
theorem run_generate {arguments : List String} {level : Option String} {project : Project}
    {toOutput check : Bool} {workspace : Workspace} {settings : Settings}
    (hread : Invocation.read arguments = .ok ⟨level, .generate project toOutput check⟩)
    (hload : workspace.settings project.direct = .ok settings) :
    let ran := Generation.run settings (!(toOutput || check)) workspace.store
    (run arguments workspace).2.store = ran.2 ∧
      (run arguments workspace).1.result =
        tolerant (ran.1.result.bind (generated ran.2.files toOutput check)) := by
  have hquiet : ∀ name, (workspace.withLevel name).settings project.direct = .ok settings :=
    fun _ => hload
  simp only [run, hread, execute, generate, hquiet]
  exact ⟨rfl, rfl⟩

theorem run_writing {arguments : List String} {level : Option String} {project : Project}
    {workspace : Workspace} {settings : Settings}
    (hread : Invocation.read arguments = .ok ⟨level, .generate project false false⟩)
    (hload : workspace.settings project.direct = .ok settings) :
    let ran := Generation.run settings true workspace.store
    (run arguments workspace).2.store = ran.2 ∧
      (run arguments workspace).1.result =
        tolerant (ran.1.result.bind (generated ran.2.files false false)) :=
  run_generate hread hload

theorem run_checking {arguments : List String} {level : Option String} {project : Project}
    {workspace : Workspace} {settings : Settings}
    (hread : Invocation.read arguments = .ok ⟨level, .generate project false true⟩)
    (hload : workspace.settings project.direct = .ok settings) :
    let ran := Generation.run settings false workspace.store
    (run arguments workspace).2.store = ran.2 ∧
      (run arguments workspace).1.result =
        tolerant (ran.1.result.bind (generated ran.2.files false true)) :=
  run_generate hread hload

theorem run_generate_unloaded {arguments : List String} {level : Option String}
    {project : Project} {toOutput check : Bool} {workspace : Workspace} {failure : Failure}
    (hread : Invocation.read arguments = .ok ⟨level, .generate project toOutput check⟩)
    (hload : workspace.settings project.direct = .error failure) :
    (run arguments workspace).2.store = workspace.store ∧
      (run arguments workspace).1.result = .error failure := by
  have hquiet : ∀ name, (workspace.withLevel name).settings project.direct = .error failure :=
    fun _ => hload
  simp only [run, hread, execute, generate, hquiet]
  exact ⟨rfl, rfl⟩

-- What a command to parse comes to.
theorem run_parse {arguments : List String} {level : Option String} {path : String}
    {workspace : Workspace} (hread : Invocation.read arguments = .ok ⟨level, .parse path⟩) :
    let reading := Generation.readConfig workspace.store.files (.ofString path)
    (run arguments workspace).1.result = tolerant (reading.result.map fun config =>
      { status := 0, output := config.toJson.indented ++ "\n" }) := by
  simp only [run, hread, execute]
  rfl

private theorem tolerant_error_refuses (failure : Failure) :
    refused ((tolerant (.error failure)).map .reply) = true := by
  unfold tolerant
  split <;> simp_all [refused, Answer.refuses, Except.map]

end CommandLine

namespace Workspace

theorem toOption_eq_some {result : Except ε α} {a : α} :
    result.toOption = some a ↔ result = .ok a := by
  cases result <;> simp [Except.toOption]

theorem generating?_eq_some {workspace : Workspace} {toOutput check : Bool}
    {arguments : List String} {settings : Settings} :
    workspace.generating? toOutput check arguments = some settings ↔ ∃ level project,
      CommandLine.Invocation.read arguments = .ok ⟨level, .generate project toOutput check⟩ ∧
        workspace.settings project.direct = .ok settings := by
  unfold generating?
  split
  · rename_i level project printed checked hread
    simp only [hread, Except.ok.injEq, CommandLine.Invocation.mk.injEq,
      CommandLine.Command.generate.injEq]
    constructor
    · intro h
      split at h
      · rename_i hflags
        exact ⟨level, project, ⟨rfl, rfl, hflags⟩, toOption_eq_some.mp h⟩
      · cases h
    · rintro ⟨_, _, ⟨rfl, rfl, hflags⟩, hload⟩
      rw [if_pos hflags, toOption_eq_some]
      exact hload
  · rename_i hother
    simp only [reduceCtorEq, false_iff, not_exists, not_and]
    intro level project hread
    exact absurd hread (hother level project toOutput check)

section Performing

-- What operations come to, in terms of the run that they make.
variable {workspace : Workspace} {settings : Settings}

theorem perform_run {direct : List (String × Json)}
    (hload : workspace.settings direct = .ok settings) (write : Bool) (level : String) :
    let ran := Generation.run settings write workspace.store
    (workspace.perform (.run direct write level)).2.store = ran.2 ∧
      (workspace.perform (.run direct write level)).1.result = ran.1.result.map .generation := by
  have hquiet : (workspace.withLevel level).settings direct = .ok settings := hload
  simp only [perform, hquiet]
  exact ⟨rfl, rfl⟩

theorem perform_generate {arguments : List String} {toOutput check : Bool}
    (h : workspace.generating? toOutput check arguments = some settings) :
    let ran := Generation.run settings (!(toOutput || check)) workspace.store
    (workspace.perform (.command arguments)).2.store = ran.2 ∧
      (workspace.perform (.command arguments)).1.result =
        (CommandLine.tolerant (ran.1.result.bind
          (CommandLine.generated ran.2.files toOutput check))).map .reply := by
  obtain ⟨level, project, hread, hload⟩ := generating?_eq_some.mp h
  obtain ⟨hstore, hresult⟩ := CommandLine.run_generate hread hload
  refine ⟨hstore, ?_⟩
  rw [← hresult]
  rfl

theorem perform_request {request : Service.Request} (h : workspace.service = some settings) :
    let handled := Service.respond settings request.sent workspace
    workspace.perform (.request request) =
      (⟨handled.events, .ok (.response handled.response)⟩, handled.workspace) := by
  simp only [perform, h]

theorem perform_asksToGenerate {request : Service.Request} (h : workspace.service = some settings)
    (hasks : asksToGenerate request = true) :
    let handled := Service.answerGenerate settings workspace
    workspace.perform (.request request) =
      (⟨handled.events, .ok (.response handled.response)⟩, handled.workspace) := by
  rw [← asksToGenerate_sent] at hasks
  rw [perform_request h, Service.respond_of_asksToGenerate hasks]

end Performing

-- A writing operation leaves what its run leaves, and answers as the run ends.
theorem perform_of_writing {workspace : Workspace} {operation : Operation} {settings : Settings}
    (h : workspace.writing? operation = some settings) :
    let ran := Generation.run settings true workspace.store
    (workspace.perform operation).2.store = ran.2 ∧
      (∀ run, ran.1.result = .ok run →
        (workspace.perform operation).1.result = .ok (operation.tell run)) ∧
      ∀ failure, ran.1.result = .error failure →
        refused (workspace.perform operation).1.result = true := by
  intro ran
  cases operation with
  | run direct write level =>
      cases write with
      | false => cases h
      | true =>
          obtain ⟨hstore, hres⟩ := perform_run (toOption_eq_some.mp h) true level
          refine ⟨hstore, fun run hr => ?_, fun failure hf => ?_⟩
          · rw [hres, hr]
            rfl
          · rw [hres, hf]
            rfl
  | command arguments =>
      obtain ⟨hstore, hres⟩ := perform_generate h
      refine ⟨hstore, fun run hr => ?_, fun failure hf => ?_⟩
      · rw [hres]
        change (CommandLine.tolerant (ran.1.result.bind _)).map Answer.reply = _
        rw [hr]
        rfl
      · rw [hres]
        change refused ((CommandLine.tolerant (ran.1.result.bind _)).map Answer.reply) = _
        rw [hf]
        exact CommandLine.tolerant_error_refuses failure
  | request request =>
      simp only [writing?] at h
      split at h
      · rename_i hasks
        rw [perform_asksToGenerate h hasks]
        simp only [Service.answerGenerate, Workspace.run]
        refine ⟨rfl, fun run hr => ?_, fun failure hf => ?_⟩
        · have hran : (Generation.run settings true workspace.store).1.result = .ok run := hr
          rw [hran]
          rfl
        · have hran : (Generation.run settings true workspace.store).1.result = .error failure := hf
          rw [hran]
          cases failure <;> rfl
      · cases h
  | _ => cases h

-- Every operation that makes a run leaves what the run leaves.
theorem perform_of_running {workspace : Workspace} {operation : Operation} {settings : Settings}
    {write : Bool} (h : workspace.running? operation = some (settings, write)) :
    (workspace.perform operation).2.store =
      (Generation.run settings write workspace.store).2 := by
  cases operation with
  | run direct flag level =>
      obtain ⟨loaded, hload, he⟩ := Option.map_eq_some_iff.mp h
      cases he
      exact (perform_run (toOption_eq_some.mp hload) write level).1
  | command arguments =>
      simp only [running?, commanded?] at h
      split at h
      · rename_i level project toOutput check hread
        obtain ⟨loaded, hload, he⟩ := Option.map_eq_some_iff.mp h
        cases he
        exact (CommandLine.run_generate hread (toOption_eq_some.mp hload)).1
      · cases h
  | request request =>
      simp only [running?] at h
      split at h
      · rename_i hasks
        obtain ⟨served, hservice, he⟩ := Option.map_eq_some_iff.mp h
        cases he
        rw [perform_asksToGenerate hservice hasks]
        rfl
      · cases h
  | _ => cases h

theorem writing?_of_running {workspace : Workspace} {operation : Operation} {settings : Settings}
    (h : workspace.running? operation = some (settings, true)) :
    workspace.writing? operation = some settings := by
  cases operation with
  | run direct write level =>
      obtain ⟨loaded, hload, he⟩ := Option.map_eq_some_iff.mp h
      cases he
      exact hload
  | command arguments =>
      simp only [running?, commanded?] at h
      split at h
      · rename_i level project toOutput check hread
        obtain ⟨loaded, hload, he⟩ := Option.map_eq_some_iff.mp h
        obtain ⟨rfl, hflags⟩ := Prod.mk.inj he
        obtain ⟨rfl, rfl⟩ : toOutput = false ∧ check = false := by simpa using hflags
        exact generating?_eq_some.mpr ⟨level, project, hread, toOption_eq_some.mp hload⟩
      · cases h
  | request request =>
      simp only [running?] at h
      split at h
      · rename_i hasks
        obtain ⟨served, hservice, he⟩ := Option.map_eq_some_iff.mp h
        cases he
        simp only [writing?, hasks, if_true, hservice]
      · cases h
  | _ => cases h

-- An operation of the program that makes no run changes neither files nor counts.
theorem store_of_idle {workspace : Workspace} {operation : Operation}
    (hown : operation.ofProgram = true) (h : workspace.running? operation = none) :
    (workspace.perform operation).2.store = workspace.store := by
  cases operation with
  | parse path level => rfl
  | isCurrent path text => rfl
  | run direct write level =>
      simp only [perform]
      split
      · rfl
      · rename_i settings hload
        have hsettings : workspace.settings direct = .ok settings := hload
        simp [running?, hsettings, Except.toOption] at h
  | command arguments =>
      change (CommandLine.run arguments workspace).2.store = _
      cases hread : CommandLine.Invocation.read arguments with
      | error exit => simp only [CommandLine.run, hread]
      | ok invocation =>
          obtain ⟨level, command⟩ := invocation
          cases command with
          | parse path =>
              simp only [CommandLine.run, hread, CommandLine.execute]
              rfl
          | serve project host port =>
              simp only [CommandLine.run, hread, CommandLine.execute, CommandLine.serve]
              split <;> rfl
          | generate project toOutput check =>
              cases hload : workspace.settings project.direct with
              | error failure => exact (CommandLine.run_generate_unloaded hread hload).1
              | ok settings => simp [running?, commanded?, hread, hload, Except.toOption] at h
  | start direct =>
      cases direct with
      | some given =>
          simp only [perform, startWith]
          split <;> rfl
      | none =>
          simp only [perform, startShared]
          split
          · rfl
          · split <;> rfl
  | request request =>
      simp only [perform]
      split
      · rfl
      · rename_i settings hservice
        cases hasks : asksToGenerate request with
        | false => rw [Service.respond_workspace ((asksToGenerate_sent request).trans hasks)]
        | true => simp [running?, hasks, hservice] at h
  | _ => cases hown

-- An operation of the program that does not write leaves the files alone.
theorem perform_of_reading {workspace : Workspace} {operation : Operation}
    (hown : operation.ofProgram = true) (h : workspace.writing? operation = none) :
    (workspace.perform operation).2.store.files = workspace.store.files := by
  cases hr : workspace.running? operation with
  | none => rw [store_of_idle hown hr]
  | some found =>
      obtain ⟨settings, write⟩ := found
      rw [perform_of_running hr]
      cases write with
      | false => exact Generation.run_dry_files settings workspace.store
      | true => exact absurd (h.symm.trans (writing?_of_running hr)) (by simp)

section Sample

def sampleText : String :=
  "export const collections = \x7b blog: f(\x7b schema: z.object(\x7b title: z.string() \x7d) " ++
    "\x7d) \x7d;"

def sampleConfig : Config :=
  ⟨⟨[("blog", ⟨.content, ⟨[("title", ⟨.text, false⟩)], by decide⟩, by decide⟩)], by decide⟩⟩

-- A project with a content config, and no generated file yet.
def sample : Workspace :=
  let directories := ((Files.new ["home"]).put ["home", "src"] .directory).put
    ["home", "src", "content"] .directory
  let files := directories.put ["home", "src", "content", "config.ts"]
    (.file (Text.Utf8.encode sampleText))
  { Workspace.new ["home"] with store := ⟨files, {}⟩ }

theorem sample_settings : sample.settings [] = .ok {} := by decide +kernel

theorem sample_config :
    (Generation.readConfig sample.store.files ({} : Settings).contentPath).result =
      .ok sampleConfig := by decide +kernel

theorem sample_not_current :
    Generation.isCurrent sample.store.files ({} : Settings).generatedPath
      (Generated.render sampleConfig) = .ok false := by decide +kernel

end Sample

end Workspace

end ContentForms
