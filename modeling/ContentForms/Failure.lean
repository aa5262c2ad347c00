import ContentForms.Schema
import ContentForms.Settings.Basic

namespace ContentForms

inductive Failure where
  -- The content config cannot be read as text.
  | configNotFound (path : Path)
  | file (failure : Files.Failure)
  | schema (error : SchemaError)
  | settings (faults : List Settings.Fault)
  -- The file of settings is not text.
  | encoding (fault : Text.Utf8.Fault)
  deriving DecidableEq

def Failure.message : Failure → String
  | configNotFound path => "Content config " ++ path.toString ++ " not found"
  | file failure => failure.message
  | schema error => error.message
  | settings faults =>
      Text.joined ", " (faults.map fun fault => fault.name ++ ": " ++ fault.cause.name)
  | encoding fault => fault.message

namespace Settings

def envFilePath : Path := ⟨0, [".env"]⟩

-- What the file of bindings says. A directory of that name, or no file, says nothing.
def fileBindings (files : Files) (environment : OrderedMap String String) :
    Except Failure (OrderedMap String (Option String)) :=
  match files.read envFilePath with
  | .error _ => .ok .empty
  | .ok bytes =>
      match Text.Utf8.decode bytes with
      | .error fault => .error (.encoding fault)
      | .ok text =>
          .ok (OrderedMap.ofList ((EnvFile.resolved environment text).entries.map fun entry =>
            (lowered entry.1, entry.2)))

def load (files : Files) (environment : OrderedMap String String) (direct : List (String × Json)) :
    Except Failure Settings := do
  let file ← fileBindings files environment
  match ofSources ⟨direct, environment, file⟩ with
  | .ok settings => return settings
  | .error faults => .error (.settings faults)

end Settings

end ContentForms
