import ContentForms.Conversion
import ContentForms.Failure
import ContentForms.Metrics

namespace ContentForms

structure Store where
  files : Files
  metrics : Metrics

structure Generation where
  source : Path
  target : Path
  config : Config
  output : String
  outcome : Outcome
  version : String

namespace Generation

-- The config that the file at a path declares. It has to be there and to be text.
def readConfig (files : Files) (path : Path) : Traced Failure Config :=
  match files.read path with
  | .error .nullByte => Traced.fail (.file ⟨.nullByte, path⟩)
  | .error _ => Traced.fail (.configNotFound path)
  | .ok bytes =>
      match Text.Utf8.decode bytes with
      | .error _ => Traced.fail (.configNotFound path)
      | .ok _ => do
          Traced.report (.reading path.toString bytes.length)
          (Conversion.readBytes bytes).mapError .schema

-- Whether a file holds exactly a text. A file that is not there does not.
def isCurrent (files : Files) (path : Path) (text : String) : Except Files.Failure Bool :=
  match files.read path with
  | .ok bytes => .ok (bytes == Text.Utf8.encode text)
  | .error .notFound => .ok false
  | .error fault => .error ⟨fault, path⟩

def replace (files : Files) (path : Path) (text : String) : Except Files.Failure Outcome × Files :=
  match files.makeDirectories path.parent with
  | (.error failure, left) => (.error failure, left)
  | (.ok (), ready) =>
      match ready.write path (Text.Utf8.encode text) with
      | .error fault => (.error ⟨fault, path⟩, ready)
      | .ok done => (.ok .written, done)

-- Writes a text to a file that does not hold it yet.
def update (files : Files) (path : Path) (text : String) : Except Files.Failure Outcome × Files :=
  match isCurrent files path text with
  | .error failure => (.error failure, files)
  | .ok true => (.ok .unchanged, files)
  | .ok false => replace files path text

-- The file is only looked at if it is to be written.
def conclude (files : Files) (path : Path) (text : String) (write : Bool) :
    Except Files.Failure Outcome × Files :=
  if write then update files path text else (.ok .dryRun, files)

-- A config that is not there is reported and counted; other failures are neither.
def fail (store : Store) (events : List Event) (failure : Failure) :
    Traced Failure Generation × Store :=
  match failure with
  | .configNotFound path =>
      (⟨events ++ [.configNotFound path.toString], .error failure⟩,
        { store with metrics := store.metrics.failed .configNotFound })
  | _ => (⟨events, .error failure⟩, store)

-- Nothing is counted before the file is right.
def run (settings : Settings) (write : Bool) (store : Store) :
    Traced Failure Generation × Store :=
  let source := settings.contentPath
  let target := settings.generatedPath
  let reading := readConfig store.files source
  let events := .started source.toString :: reading.events
  match reading.result with
  | .error failure => fail store events failure
  | .ok config =>
      let output := Generated.render config
      match conclude store.files target output write with
      | (.error failure, files) =>
          (⟨events, .error (.file failure)⟩, { store with files := files })
      | (.ok outcome, files) =>
          (⟨events ++ [.ended target.toString config.collections.size config.fieldCount outcome],
              .ok ⟨source, target, config, output, outcome, settings.version⟩⟩,
            ⟨files, store.metrics.returned config outcome⟩)

end Generation

end ContentForms
