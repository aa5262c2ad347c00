import ContentForms.Schema
import ContentForms.Text.Capital

namespace ContentForms

-- How a run that did not fail has ended: the file was written, was right already, or was not to
-- be written.
inductive Outcome where
  | written | unchanged | dryRun
  deriving DecidableEq, Inhabited, Repr

def Outcome.name : Outcome → String
  | written => "written"
  | unchanged => "unchanged"
  | dryRun => "dry_run"

-- How serious an event is; also the threshold from which events are shown.
inductive Level where
  | all | debug | info | warning | error | critical
  deriving DecidableEq, Inhabited, Repr

namespace Level

def rank : Level → Nat
  | all => 0
  | debug => 10
  | info => 20
  | warning => 30
  | error => 40
  | critical => 50

def name : Level → String
  | all => "notset"
  | debug => "debug"
  | info => "info"
  | warning => "warning"
  | error => "error"
  | critical => "critical"

-- Two levels have a second name.
def named : List (String × Level) :=
  [("NOTSET", all), ("DEBUG", debug), ("INFO", info), ("WARNING", warning), ("WARN", warning),
    ("ERROR", error), ("CRITICAL", critical), ("FATAL", critical)]

-- The level that a setting names, in any case of letters; anything else means `info`.
def ofName (given : String) : Level :=
  (lookupEntry (String.ofList (given.toList.flatMap Text.capital)) named).getD info

end Level

inductive Event where
  -- The source has faults: how many, and the line of the first.
  | syntaxErrors (count firstLine : Nat)
  | noCollections
  -- An entry of the declaration that is not a call.
  | skipped (collection : String)
  -- A schema that is not a call with an object.
  | schemaSkipped
  | collection (name : String) (kind : CollectionKind) (fields : Nat)
  | reading (path : String) (size : Nat)
  | started (source : String)
  | configNotFound (path : String)
  | ended (output : String) (collections fields : Nat) (outcome : Outcome)
  | requestRejected (path : String) (size limit : Int)
  deriving DecidableEq, Repr

namespace Event

def level : Event → Level
  | syntaxErrors .. => .warning
  | started .. | ended .. => .info
  | configNotFound .. => .error
  | requestRejected .. => .warning
  | _ => .debug

def name : Event → String
  | syntaxErrors .. => "parser.syntax_errors"
  | noCollections => "parser.no_collections"
  | skipped .. => "parser.skipped"
  | schemaSkipped => "parser.schema_skipped"
  | collection .. => "parser.collection"
  | reading .. => "parser.start"
  | started .. => "pipeline.start"
  | configNotFound .. => "pipeline.config_not_found"
  | ended .. => "pipeline.end"
  | requestRejected .. => "request_rejected"

def shownAt (threshold : Level) (event : Event) : Bool := threshold.rank ≤ event.level.rank

end Event

-- A result, or a failure, together with the events on the way to it. A computation that fails keeps
-- what it reported before.
structure Traced (ε α : Type) where
  events : List Event
  result : Except ε α

namespace Traced

def pure (a : α) : Traced ε α := ⟨[], .ok a⟩

def fail (e : ε) : Traced ε α := ⟨[], .error e⟩

def report (event : Event) : Traced ε Unit := ⟨[event], .ok ()⟩

def ofExcept (result : Except ε α) : Traced ε α := ⟨[], result⟩

def bind (t : Traced ε α) (f : α → Traced ε β) : Traced ε β :=
  match t.result with
  | .error e => ⟨t.events, .error e⟩
  | .ok a => ⟨t.events ++ (f a).events, (f a).result⟩

instance : Monad (Traced ε) where
  pure := pure
  bind := bind

def mapError (f : ε → δ) (t : Traced ε α) : Traced δ α :=
  ⟨t.events, match t.result with
    | .ok a => .ok a
    | .error e => .error (f e)⟩

end Traced

end ContentForms
