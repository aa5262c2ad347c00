import ContentForms.CommandLine.Grammar
import ContentForms.Text.Basic

namespace ContentForms.CommandLine

structure Project where
  root : Option String := none
  contentConfig : Option String := none
  output : Option String := none
  deriving DecidableEq, Repr

inductive Command where
  | generate (project : Project) (toOutput check : Bool)
  | parse (path : String)
  | serve (project : Project) (host : String) (port : Int)
  deriving DecidableEq, Repr

structure Invocation where
  logLevel : Option String
  command : Command
  deriving DecidableEq, Repr

-- An end without a command: what is printed, and the status.
structure Exit where
  status : Nat
  output : String
  errors : String
  deriving DecidableEq, Repr

def helpOption : OptionRule := ⟨["-h", "--help"], .help⟩

def textOption (name : String) : OptionRule := ⟨[name], .value "str" fun _ => true⟩

def flagOption (name : String) : OptionRule := ⟨[name], .flag⟩

def lines (texts : List String) : String := String.join (texts.map (· ++ "\n"))

def mainUsage : String :=
  lines ["usage: cc2ks [-h] [--log-level LOG_LEVEL] \x7bgenerate,parse,serve\x7d ..."]

def mainGrammar : Grammar where
  program := "cc2ks"
  usage := mainUsage
  help := mainUsage ++ lines
    ["",
      "Generate Keystatic collections from Astro content collections.",
      "",
      "positional arguments:",
      "  \x7bgenerate,parse,serve\x7d",
      "    generate            Write keystatic.generated.ts",
      "    parse               Print the parsed collections as JSON",
      "    serve               Run the HTTP API",
      "",
      "options:",
      "  -h, --help            show this help message and exit",
      "  --log-level LOG_LEVEL",
      "                        Override LOG_LEVEL (default: warning)"]
  options := [helpOption, textOption "--log-level"]
  operand := .command "command" ["generate", "parse", "serve"]

def generateUsage : String :=
  lines
    ["usage: cc2ks generate [-h] [--root ROOT] [--content-config CONTENT_CONFIG]",
      "                      [--output OUTPUT] [--stdout] [--check]"]

def generateGrammar : Grammar where
  program := "cc2ks generate"
  usage := generateUsage
  help := generateUsage ++ lines
    ["",
      "options:",
      "  -h, --help            show this help message and exit",
      "  --root ROOT           Project root directory",
      "  --content-config CONTENT_CONFIG",
      "                        Content config path relative to the root (default:",
      "                        src/content/config.ts)",
      "  --output OUTPUT       Generated config path relative to the root (default:",
      "                        keystatic.generated.ts)",
      "  --stdout              Print the generated config instead of writing it.",
      "  --check               Exit with status 1 when the generated file is missing",
      "                        or stale."]
  options :=
    [helpOption, textOption "--root", textOption "--content-config", textOption "--output",
      flagOption "--stdout", flagOption "--check"]
  operand := .none

def parseUsage : String := lines ["usage: cc2ks parse [-h] path"]

def parseGrammar : Grammar where
  program := "cc2ks parse"
  usage := parseUsage
  help := parseUsage ++ lines
    ["",
      "positional arguments:",
      "  path        Content config to parse",
      "",
      "options:",
      "  -h, --help  show this help message and exit"]
  options := [helpOption]
  operand := .one "path"

def serveUsage : String :=
  lines ["usage: cc2ks serve [-h] [--root ROOT] [--host HOST] [--port PORT]"]

def serveGrammar : Grammar where
  program := "cc2ks serve"
  usage := serveUsage
  help := serveUsage ++ lines
    ["",
      "options:",
      "  -h, --help   show this help message and exit",
      "  --root ROOT  Project root directory",
      "  --host HOST",
      "  --port PORT"]
  options :=
    [helpOption, textOption "--root", textOption "--host",
      ⟨["--port"], .value "int" fun text => (Text.integer? text).isSome⟩]
  operand := .none

-- Help is asked for; a fault is answered with the usage.
def Stop.exit (grammar : Grammar) : Stop → Exit
  | help => ⟨0, grammar.help, ""⟩
  | fault message => ⟨2, "", grammar.usage ++ grammar.program ++ ": error: " ++ message ++ "\n"⟩

def Grammar.readOrExit (grammar : Grammar) (arguments : List String) : Except Exit Findings :=
  match grammar.read arguments with
  | .ok findings => .ok findings
  | .error stop => .error (stop.exit grammar)

def Command.read (name : String) (arguments : List String) : Except Exit (Command × List String) :=
  match name with
  | "generate" => do
      let found ← generateGrammar.readOrExit arguments
      let project : Project :=
        ⟨found.last? "--root", found.last? "--content-config", found.last? "--output"⟩
      return (.generate project (found.has "--stdout") (found.has "--check"), found.extras)
  | "parse" => do
      let found ← parseGrammar.readOrExit arguments
      return (.parse ((found.operand.getD []).headD ""), found.extras)
  | _ => do
      let found ← serveGrammar.readOrExit arguments
      let port := ((found.last? "--port").bind Text.integer?).getD 8080
      let host := (found.last? "--host").getD "127.0.0.1"
      return (.serve { root := found.last? "--root" } host port, found.extras)

-- What a command line asks for. Arguments that nothing knows are refused in the end.
def Invocation.read (arguments : List String) : Except Exit Invocation := do
  let found ← mainGrammar.readOrExit arguments
  let words := found.operand.getD []
  let (asked, extras) ← Command.read (words.headD "") (words.drop 1)
  match found.extras ++ extras with
  | [] => return ⟨found.last? "--log-level", asked⟩
  | unknown =>
      .error (Stop.exit mainGrammar
        (.fault ("unrecognized arguments: " ++ Text.joined " " unknown)))

end ContentForms.CommandLine
