import ContentForms.Files
import ContentForms.Settings.EnvFile
import ContentForms.Settings.Value
import ContentForms.Text.Utf8

namespace ContentForms

structure Settings where
  projectRoot : Path := ⟨0, []⟩
  contentConfig : Path := ⟨0, ["src", "content", "config.ts"]⟩
  generatedConfig : Path := ⟨0, ["keystatic.generated.ts"]⟩
  logLevel : String := "info"
  metricsEnabled : Bool := true
  maxRequestSize : Int := 262144
  version : String := "0.1.0"
  deriving DecidableEq, Inhabited

namespace Settings

def contentPath (settings : Settings) : Path := settings.projectRoot.join settings.contentConfig

def generatedPath (settings : Settings) : Path := settings.projectRoot.join settings.generatedConfig

-- The single settings, in the order in which faults are told.
inductive Name where
  | projectRoot | contentConfig | generatedConfig | logLevel | metricsEnabled | maxRequestSize
  | version
  deriving DecidableEq, Repr

namespace Name

def all : List Name :=
  [projectRoot, contentConfig, generatedConfig, logLevel, metricsEnabled, maxRequestSize, version]

def variableName : Name → String
  | projectRoot => "PROJECT_ROOT"
  | contentConfig => "CONTENT_CONFIG"
  | generatedConfig => "GENERATED_CONFIG"
  | logLevel => "LOG_LEVEL"
  | metricsEnabled => "METRICS_ENABLED"
  | maxRequestSize => "MAX_REQUEST_SIZE_BYTES"
  | version => "CC2KS_VERSION"

def keyword : Name → String
  | projectRoot => "project_root"
  | contentConfig => "content_config"
  | generatedConfig => "generated_config"
  | logLevel => "log_level"
  | metricsEnabled => "metrics_enabled"
  | maxRequestSize => "max_request_size_bytes"
  | version => "version"

end Name

-- Lower case, as far as it can make a name of a setting. The sign of the unit Kelvin is a letter.
def lowered (name : String) : String :=
  String.ofList (name.toList.map fun c => if c.toNat = 0x212A then 'k' else c.toLower)

structure Given where
  name : String
  value : Json

structure Fault where
  name : String
  cause : Cause
  deriving DecidableEq, Repr

structure Sources where
  direct : List (String × Json)
  environment : OrderedMap String String
  -- The bindings of the file, under lower case names.
  file : OrderedMap String (Option String)

-- Under the name of its variable, its keyword, or either in another case.
def directly? (direct : List (String × Json)) (name : Name) : Option Given :=
  let found := (direct.find? fun entry => entry.1 == name.variableName).or <|
    (direct.find? fun entry => entry.1 == name.keyword).or <|
    direct.find? fun entry =>
      lowered entry.1 == lowered name.variableName || lowered entry.1 == name.keyword
  found.map fun entry => ⟨entry.1, entry.2⟩

def inEnvironment? (environment : OrderedMap String String) (name : Name) : Option Given :=
  let found := environment.entries.filter fun entry => lowered entry.1 == lowered name.variableName
  found.getLast?.map fun entry => ⟨name.variableName, .string entry.2⟩

-- The keyword counts too, if its value is not empty.
def inFile? (file : OrderedMap String (Option String)) (name : Name) : Option Given :=
  match file.get? (lowered name.variableName) with
  | some (some value) => some ⟨name.variableName, .string value⟩
  | _ =>
      match file.get? name.keyword with
      | some (some value) => if value.isEmpty then none else some ⟨name.keyword, .string value⟩
      | _ => none

def Sources.get? (sources : Sources) (name : Name) : Option Given :=
  (directly? sources.direct name).or <|
    (inEnvironment? sources.environment name).or <| inFile? sources.file name

-- Taken from what is given directly, else from the environment, else from the file of bindings.
def Sources.read (sources : Sources) (name : Name) (otherwise : α)
    (reader : Json → Except Cause α) : Except Fault α :=
  match sources.get? name with
  | none => .ok otherwise
  | some given =>
      match reader given.value with
      | .ok value => .ok value
      | .error cause => .error ⟨given.name, cause⟩

def faultOf : Except Fault α → List Fault
  | .ok _ => []
  | .error fault => [fault]

-- The settings that sources give, or all the faults of their values.
def ofSources (sources : Sources) : Except (List Fault) Settings :=
  let dflt : Settings := {}
  let projectRoot := sources.read .projectRoot dflt.projectRoot readPath
  let contentConfig := sources.read .contentConfig dflt.contentConfig readPath
  let generatedConfig := sources.read .generatedConfig dflt.generatedConfig readPath
  let logLevel := sources.read .logLevel dflt.logLevel readText
  let metricsEnabled := sources.read .metricsEnabled dflt.metricsEnabled readBool
  let maxRequestSize := sources.read .maxRequestSize dflt.maxRequestSize readInt
  let version := sources.read .version dflt.version readText
  match projectRoot, contentConfig, generatedConfig, logLevel, metricsEnabled, maxRequestSize,
    version with
  | .ok projectRoot, .ok contentConfig, .ok generatedConfig, .ok logLevel, .ok metricsEnabled,
    .ok maxRequestSize, .ok version =>
      .ok ⟨projectRoot, contentConfig, generatedConfig, logLevel, metricsEnabled, maxRequestSize,
        version⟩
  | _, _, _, _, _, _, _ =>
      .error (faultOf projectRoot ++ faultOf contentConfig ++ faultOf generatedConfig
        ++ faultOf logLevel ++ faultOf metricsEnabled ++ faultOf maxRequestSize ++ faultOf version)

end Settings

end ContentForms
