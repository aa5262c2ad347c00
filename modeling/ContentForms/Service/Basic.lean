import ContentForms.Json.Printer
import ContentForms.Json.Report
import ContentForms.Service.Body
import ContentForms.Text.Basic
import ContentForms.Workspace

namespace ContentForms

def Conversion.toJson (conversion : Conversion) : Json :=
  .object [("config", conversion.config.toJson), ("output", .string conversion.output)]

-- No time is measured, so none is told.
def Generation.toJson (run : Generation) : Json :=
  .object
    [("source_path", .string run.source.toString), ("output_path", .string run.target.toString),
      ("collections", .array (run.config.collections.keys.map .string)),
      ("field_count", .ofNat run.config.fieldCount), ("outcome", .string run.outcome.name),
      ("latency_ms", .int 0), ("version", .string run.version)]

namespace Service

inductive Route where
  | health | convert | generate | metrics
  deriving DecidableEq, Repr

namespace Route

def all : List Route := [health, convert, generate, metrics]

def path : Route → String
  | health => "/healthz"
  | convert => "/convert"
  | generate => "/generate"
  | metrics => "/metrics"

def method : Route → String
  | health | metrics => "GET"
  | convert | generate => "POST"

def ofPath? (path : String) : Option Route := all.find? fun route => route.path == path

end Route

-- An answer, with the events on the way to it and the state after it.
structure Handled where
  events : List Event := []
  response : Response
  workspace : Workspace

def json (status : Nat) (value : Json) : Response := ⟨status, "application/json", value.compact⟩

def detail (status : Nat) (message : String) : Response :=
  json status (.object [("detail", .string message)])

def internalError : Response := Response.text 500 "Internal Server Error"

def answerConvert (request : Request) (workspace : Workspace) : Handled :=
  match source request with
  | .error fault =>
      { response := json 422 (.object [("detail", .array [fault.toJson])]), workspace }
  | .ok text =>
      let trace := Conversion.ofSource text
      let response := match trace.result with
        | .ok conversion => json 200 conversion.toJson
        | .error _ => internalError
      { events := trace.events, response, workspace }

def answerGenerate (settings : Settings) (workspace : Workspace) : Handled :=
  let (trace, after) := workspace.run settings true
  let response := match trace.result with
    | .ok run => json 200 run.toJson
    | .error (.configNotFound path) => detail 404 (Failure.configNotFound path).message
    | .error _ => internalError
  { events := trace.events, response, workspace := after }

def answerMetrics (settings : Settings) (workspace : Workspace) : Handled :=
  let response :=
    if settings.metricsEnabled then
      ⟨200, "text/plain; version=1.0.0; charset=utf-8",
        String.join (workspace.store.metrics.lines.map (· ++ "\n"))⟩
    else detail 404 "metrics disabled"
  { response, workspace }

def answer (settings : Settings) (route : Route) (request : Request) (workspace : Workspace) :
    Handled :=
  match route with
  | .health => { response := Response.text 200 "ok\n", workspace }
  | .convert => answerConvert request workspace
  | .generate => answerGenerate settings workspace
  | .metrics => answerMetrics settings workspace

-- Two things are assumed here of what stands between a client and the service. The address that a
-- request is matched by has the path that was sent, whatever the host header says. And a path that
-- leads nowhere, but leads somewhere without the slashes at its end, is answered by a redirection
-- that the client follows with the same method, headers and body.
def settledPath (request : Request) : String :=
  let path := request.path
  let bare := String.ofList (Text.dropRightWhile (· == '/') path.toList)
  if (Route.ofPath? bare).isSome then bare else path

def excess? (settings : Settings) (request : Request) : Option Int :=
  if settledPath request = Route.convert.path then
    match request.toldLength?.bind Text.integer? with
    | some size => if size > settings.maxRequestSize then some size else none
    | none => none
  else none

def dispatch (settings : Settings) (request : Request) (workspace : Workspace) : Handled :=
  match Route.ofPath? (settledPath request) with
  | none => { response := detail 404 "Not Found", workspace }
  | some route =>
      if request.method = route.method then answer settings route request workspace
      else { response := detail 405 "Method Not Allowed", workspace }

-- The answer to a request for headers only has no body.
def withoutBody (request : Request) (handled : Handled) : Handled :=
  if request.method = "HEAD" then
    { handled with response := { handled.response with body := "" } }
  else handled

-- Answers a request. A request that tells too great a length goes no further.
def respond (settings : Settings) (request : Request) (workspace : Workspace) : Handled :=
  withoutBody request <|
    match excess? settings request with
    | some size =>
        { events := [.requestRejected Route.convert.path size settings.maxRequestSize],
          response := Response.text 413 "request too large", workspace }
    | none => dispatch settings request workspace

end Service

end ContentForms
