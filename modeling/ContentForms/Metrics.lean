import ContentForms.Log
import ContentForms.Schema

namespace ContentForms

-- How often each label was counted, in the order of their first time.
abbrev Tally (α : Type) := OrderedMap α Nat

namespace Tally

def count [DecidableEq α] (tally : Tally α) (label : α) : Nat :=
  (OrderedMap.get? tally label).getD 0

def increment [DecidableEq α] (tally : Tally α) (label : α) : Tally α :=
  OrderedMap.insert tally label (count tally label + 1)

theorem count_increment [DecidableEq α] (tally : Tally α) (label other : α) :
    count (increment tally label) other =
      if other = label then count tally label + 1 else count tally other := by
  by_cases h : other = label <;> simp [count, increment, OrderedMap.get?_insert, h]

theorem keys_increment [DecidableEq α] (tally : Tally α) (label : α) :
    (increment tally label).keys =
      if label ∈ tally.keys then tally.keys else tally.keys ++ [label] :=
  OrderedMap.keys_insert tally label _

end Tally

inductive FailureReason where
  | configNotFound
  deriving DecidableEq, Repr

def FailureReason.name : FailureReason → String
  | configNotFound => "config_not_found"

structure Metrics where
  -- Runs that returned.
  runs : Nat := 0
  fields : Tally FieldType := .empty
  writes : Tally Outcome := .empty
  failures : Tally FailureReason := .empty

namespace Metrics

def fieldTypes (config : Config) : List FieldType :=
  config.collections.values.flatMap fun collection => collection.fields.values.map Field.type

def returned (metrics : Metrics) (config : Config) (outcome : Outcome) : Metrics :=
  { metrics with
    runs := metrics.runs + 1
    fields := (fieldTypes config).foldl Tally.increment metrics.fields
    writes := Tally.increment metrics.writes outcome }

def failed (metrics : Metrics) (reason : FailureReason) : Metrics :=
  { metrics with failures := Tally.increment metrics.failures reason }

-- Counts are written with one decimal.
def sample (name labels : String) (count : Nat) : String :=
  name ++ labels ++ " " ++ toString count ++ ".0"

def samples (name label : String) (text : α → String) (tally : Tally α) : List String :=
  tally.entries.map fun (value, count) =>
    sample name ("\x7b" ++ label ++ "=\"" ++ text value ++ "\"\x7d") count

def heading (name kind help : String) : List String :=
  ["# HELP " ++ name ++ " " ++ help, "# TYPE " ++ name ++ " " ++ kind]

-- The lines of the report that do not depend on how long runs took.
def lines (metrics : Metrics) : List String :=
  heading "cc2ks_generation_latency_seconds" "histogram" "Latency of parse and transform runs"
    ++ [sample "cc2ks_generation_latency_seconds_count" "" metrics.runs]
    ++ heading "cc2ks_fields_emitted_total" "counter"
      "Number of emitted fields grouped by resolved type"
    ++ samples "cc2ks_fields_emitted_total" "type" FieldType.name metrics.fields
    ++ heading "cc2ks_writes_total" "counter" "Generated config write outcomes"
    ++ samples "cc2ks_writes_total" "outcome" Outcome.name metrics.writes
    ++ heading "cc2ks_failures_total" "counter" "Number of failed generation runs"
    ++ samples "cc2ks_failures_total" "reason" FailureReason.name metrics.failures

end Metrics

end ContentForms
