import ContentForms.Generation

namespace ContentForms

structure Workspace where
  store : Store
  environment : OrderedMap String String
  -- From which level on events are shown.
  level : Level
  -- The settings that were loaded once for all.
  shared : Option Settings
  -- The settings of the service, if there is one.
  service : Option Settings

namespace Workspace

-- An empty directory, an empty environment, and nothing counted.
def new (home : Location) : Workspace :=
  ⟨⟨Files.new home, {}⟩, .empty, .info, none, none⟩

def withLevel (workspace : Workspace) (name : String) : Workspace :=
  { workspace with level := Level.ofName name }

def settings (workspace : Workspace) (direct : List (String × Json)) : Except Failure Settings :=
  Settings.load workspace.store.files workspace.environment direct

-- One run. Its events are shown from the level in force on.
def run (workspace : Workspace) (settings : Settings) (write : Bool) :
    Traced Failure Generation × Workspace :=
  let (trace, store) := Generation.run settings write workspace.store
  (trace, { workspace with store := store })

-- Sets up the service with the given settings, and the log with their level.
def start (workspace : Workspace) (settings : Settings) : Workspace :=
  { workspace.withLevel settings.logLevel with service := some settings }

-- Sets up the service with the settings in force when that was first done.
def startShared (workspace : Workspace) : Except Failure Settings × Workspace :=
  match workspace.shared with
  | some settings => (.ok settings, workspace.start settings)
  | none =>
      match workspace.settings [] with
      | .error failure => (.error failure, workspace)
      | .ok settings =>
          (.ok settings, { workspace.start settings with shared := some settings })

def shown (workspace : Workspace) (events : List Event) : List Event :=
  events.filter (Event.shownAt workspace.level)

end Workspace

end ContentForms
