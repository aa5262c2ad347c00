import ContentForms.CommandLine.Execution

namespace ContentForms.Program

def entryOnDisk (path : Path) : IO (Option Entry) := do
  let place := (← IO.currentDir) / path.toString
  if ← place.isDir then return some .directory
  if ← place.pathExists then return some (.file (← IO.FS.readBinFile place).toList)
  return none

-- Takes in all that a path goes through, as far as it exists.
def takeIn (files : Files) (path : Path) : IO Files := do
  let mut files := files
  for depth in List.range (path.parts.length + 1) do
    let part : Path := ⟨path.slashes, path.parts.take depth⟩
    if let some entry ← entryOnDisk part then
      files := files.put (part.parts.foldl Files.step (files.start path)) entry
  return files

def takeInVariables (names : List String) : IO (OrderedMap String String) := do
  let mut found := OrderedMap.empty
  for name in names do
    if let some value ← IO.getEnv name then
      found := found.insert name value
  return found

-- The variables that settings come from, and those that their file refers to.
def variableNames (files : Files) : List String :=
  let text := match files.read Settings.envFilePath with
    | .ok bytes => Text.Utf8.decodeLossy bytes
    | .error _ => ""
  Settings.Name.all.map Settings.Name.keyword ++ Settings.Name.all.map Settings.Name.variableName
    ++ EnvFile.references text

def pathsOf (workspace : Workspace) : CommandLine.Command → List Path
  | .generate project _ _ =>
      match workspace.settings project.direct with
      | .ok settings => [settings.contentPath, settings.generatedPath]
      | .error _ => []
  | .parse path => [Path.ofString path]
  | .serve .. => []

def takeInAll (arguments : List String) : IO Workspace := do
  let home := (Path.ofString (← IO.currentDir).toString).parts
  let files ← takeIn (Files.new home) Settings.envFilePath
  let environment ← takeInVariables (variableNames files)
  let workspace := Workspace.new home
  let workspace :=
    { workspace with
      environment := environment
      store := { workspace.store with files := files } }
  match CommandLine.Invocation.read arguments with
  | .error _ => return workspace
  | .ok invocation =>
      let mut files := files
      for path in pathsOf workspace invocation.command do
        files ← takeIn files path
      return { workspace with store := { workspace.store with files := files } }

-- Writes the entries that were not there before, directories before what is in them.
def writeOut (before after : Files) : IO Unit := do
  for (place, entry) in after.entries.entries do
    if before.entryAt place != some entry then
      let path := "/" ++ Text.joined "/" place
      match entry with
      | .directory => IO.FS.createDirAll path
      | .file bytes => IO.FS.writeBinFile path ⟨bytes.toArray⟩

def run (arguments : List String) : IO UInt32 := do
  let before ← takeInAll arguments
  let (trace, after) := CommandLine.run arguments before
  for event in after.shown trace.events do
    IO.eprintln event.toJson.compact
  writeOut before.store.files after.store.files
  match trace.result with
  | .error failure =>
      IO.eprintln failure.message
      return 1
  | .ok reply =>
      IO.print reply.output
      IO.eprint reply.errors
      return UInt32.ofNat reply.status

end ContentForms.Program

def main (arguments : List String) : IO UInt32 := ContentForms.Program.run arguments
