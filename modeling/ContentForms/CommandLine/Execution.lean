import ContentForms.CommandLine.Invocation
import ContentForms.Json.Printer
import ContentForms.Json.Report
import ContentForms.Workspace

namespace ContentForms.CommandLine

structure Served where
  host : String
  port : Int
  settings : Settings

-- What a command leaves behind besides its changes: what is printed, and the status.
structure Reply where
  status : Nat
  output : String := ""
  errors : String := ""
  served : Option Served := none

abbrev Executed := Traced Failure Reply × Workspace

def Project.direct (project : Project) : List (String × Json) :=
  let given (name : Settings.Name) (path : Option String) : List (String × Json) :=
    (path.map fun text => (name.keyword, Json.string text)).toList
  given .projectRoot project.root ++ given .contentConfig project.contentConfig
    ++ given .generatedConfig project.output

def summary (run : Generation) : String :=
  run.outcome.name ++ ": " ++ run.target.toString ++ " (" ++ toString run.config.collections.size
    ++ " collections, " ++ toString run.config.fieldCount ++ " fields)\n"

def checked (files : Files) (run : Generation) : Except Failure Reply :=
  match Generation.isCurrent files run.target run.output with
  | .error failure => .error (.file failure)
  | .ok true => .ok { status := 0, output := run.target.toString ++ " is up to date\n" }
  | .ok false => .ok { status := 1, errors := run.target.toString ++ " is out of date\n" }

-- The answer to a run that returned. Printing the module goes before checking it.
def generated (files : Files) (toOutput check : Bool) (run : Generation) : Except Failure Reply :=
  if toOutput then .ok { status := 0, output := run.output }
  else if check then checked files run
  else .ok { status := 0, output := summary run }

-- A config that is not found is told and ends the command with status 1.
def tolerant (result : Except Failure Reply) : Except Failure Reply :=
  match result with
  | .error (.configNotFound path) =>
      .ok { status := 1, errors := "error: " ++ (Failure.configNotFound path).message ++ "\n" }
  | _ => result

def generate (project : Project) (toOutput check : Bool) (workspace : Workspace) : Executed :=
  match workspace.settings project.direct with
  | .error failure => (Traced.fail failure, workspace)
  | .ok settings =>
      let (trace, after) := workspace.run settings !(toOutput || check)
      let result := trace.result.bind (generated after.store.files toOutput check)
      (⟨trace.events, tolerant result⟩, after)

def parse (path : String) (workspace : Workspace) : Executed :=
  let trace := Generation.readConfig workspace.store.files (Path.ofString path)
  let result := trace.result.map fun config =>
    ({ status := 0, output := config.toJson.indented ++ "\n" } : Reply)
  (⟨trace.events, tolerant result⟩, workspace)

-- The level on the command line goes before that of the settings, unless it is empty.
def serve (project : Project) (host : String) (port : Int) (logLevel : Option String)
    (workspace : Workspace) : Executed :=
  match workspace.settings project.direct with
  | .error failure => (Traced.fail failure, workspace)
  | .ok settings =>
      let level := (logLevel.filter (!·.isEmpty)).getD settings.logLevel
      let settings := { settings with logLevel := level }
      (Traced.pure { status := 0, served := some ⟨host, port, settings⟩ },
        workspace.withLevel level)

def execute (invocation : Invocation) (workspace : Workspace) : Executed :=
  let quiet := workspace.withLevel ((invocation.logLevel.filter (!·.isEmpty)).getD "warning")
  match invocation.command with
  | .generate project toOutput check => generate project toOutput check quiet
  | .parse path => parse path quiet
  | .serve project host port => serve project host port invocation.logLevel workspace

def run (arguments : List String) (workspace : Workspace) : Executed :=
  match Invocation.read arguments with
  | .error exit =>
      (Traced.pure { status := exit.status, output := exit.output, errors := exit.errors },
        workspace)
  | .ok invocation => execute invocation workspace

end ContentForms.CommandLine
