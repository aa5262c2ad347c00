import ContentForms.CommandLine.Execution
import ContentForms.Service.Basic

namespace ContentForms

inductive Operation where
  -- Writes a file, with the directories above it.
  | edit (path : Path) (bytes : List UInt8)
  | makeDirectory (path : Path)
  | delete (path : Path)
  -- Sets a variable of the environment, or takes it away.
  | setVariable (name : String) (value : Option String)
  | parse (path : Path) (level : String)
  | isCurrent (path : Path) (text : String)
  | run (direct : List (String × Json)) (write : Bool) (level : String)
  | command (arguments : List String)
  -- Sets up the service, with settings of its own or with the shared ones.
  | start (direct : Option (List (String × Json)))
  -- Asks the service, as clients do.
  | request (request : Service.Request)

-- What an operation that does not fail gives.
inductive Answer where
  | done
  | config (config : Config)
  | current (value : Bool)
  | generation (run : Generation)
  | reply (reply : CommandLine.Reply)
  | started (settings : Settings)
  | response (response : Service.Response)
  -- There is no service to ask.
  | unserved

namespace Workspace

def withFiles (workspace : Workspace) (files : Files) : Workspace :=
  { workspace with store := { workspace.store with files := files } }

-- What became of the files, and whether it went well.
def edited (workspace : Workspace) (change : Except Files.Failure Unit × Files) :
    Traced Failure Answer × Workspace :=
  (match change.1 with
    | .ok () => Traced.pure .done
    | .error failure => Traced.fail (.file failure), workspace.withFiles change.2)

def editFile (files : Files) (path : Path) (bytes : List UInt8) :
    Except Files.Failure Unit × Files :=
  match files.makeDirectories path.parent with
  | (.error failure, left) => (.error failure, left)
  | (.ok (), ready) =>
      match ready.write path bytes with
      | .error fault => (.error ⟨fault, path⟩, ready)
      | .ok done => (.ok (), done)

def setVariable (workspace : Workspace) (name : String) (value : Option String) : Workspace :=
  { workspace with
    environment := match value with
      | some text => workspace.environment.insert name text
      | none => workspace.environment.erase name }

def answerWith (answer : α → Answer) (trace : Traced Failure α) : Traced Failure Answer :=
  ⟨trace.events, trace.result.map answer⟩

def startWith (workspace : Workspace) (direct : List (String × Json)) :
    Except Failure Settings × Workspace :=
  match workspace.settings direct with
  | .error failure => (.error failure, workspace)
  | .ok settings => (.ok settings, workspace.start settings)

def perform (workspace : Workspace) : Operation → Traced Failure Answer × Workspace
  | .edit path bytes => workspace.edited (editFile workspace.store.files path bytes)
  | .makeDirectory path => workspace.edited (workspace.store.files.makeDirectories path)
  | .delete path => workspace.edited (.ok (), workspace.store.files.delete path)
  | .setVariable name value => (Traced.pure .done, workspace.setVariable name value)
  | .parse path level =>
      (answerWith .config (Generation.readConfig workspace.store.files path),
        workspace.withLevel level)
  | .isCurrent path text =>
      (match Generation.isCurrent workspace.store.files path text with
        | .ok value => Traced.pure (.current value)
        | .error failure => Traced.fail (.file failure), workspace)
  | .run direct write level =>
      let workspace := workspace.withLevel level
      match workspace.settings direct with
      | .error failure => (Traced.fail failure, workspace)
      | .ok settings =>
          let (trace, after) := workspace.run settings write
          (answerWith .generation trace, after)
  | .command arguments =>
      let (trace, after) := CommandLine.run arguments workspace
      (answerWith .reply trace, after)
  | .start direct =>
      let (result, after) := match direct with
        | some given => workspace.startWith given
        | none => workspace.startShared
      (Traced.ofExcept (result.map .started), after)
  | .request request =>
      match workspace.service with
      | none => (Traced.pure .unserved, workspace)
      | some settings =>
          let handled := Service.respond settings request.sent workspace
          (⟨handled.events, .ok (.response handled.response)⟩, handled.workspace)

def performAll (workspace : Workspace) (operations : List Operation) : Workspace :=
  operations.foldl (fun state operation => (state.perform operation).2) workspace

end Workspace

end ContentForms
