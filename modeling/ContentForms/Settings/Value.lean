import ContentForms.Json.Value
import ContentForms.Path
import ContentForms.Text.Basic

namespace ContentForms.Settings

inductive Cause where
  | pathType | stringType | boolType | boolParsing | intType | intParsing | intParsingSize
  | intFromFloat
  deriving DecidableEq, Repr

def Cause.name : Cause → String
  | pathType => "path_type"
  | stringType => "string_type"
  | boolType => "bool_type"
  | boolParsing => "bool_parsing"
  | intType => "int_type"
  | intParsing => "int_parsing"
  | intParsingSize => "int_parsing_size"
  | intFromFloat => "int_from_float"

def readPath : Json → Except Cause Path
  | .string text => .ok (Path.ofString text)
  | _ => .error .pathType

def readText : Json → Except Cause String
  | .string text => .ok text
  | _ => .error .stringType

def isWord (n : Int) : Bool := -9223372036854775808 ≤ n && n ≤ 9223372036854775807

def boolOfInt (n : Int) : Except Cause Bool :=
  if n = 0 then .ok false
  else if n = 1 then .ok true
  else if isWord n then .error .boolParsing
  else .error .boolType

def boolOfText (text : String) : Except Cause Bool :=
  let lowered := String.ofList (text.toList.map Char.toLower)
  if ["1", "true", "t", "yes", "y", "on"].contains lowered then .ok true
  else if ["0", "false", "f", "no", "n", "off"].contains lowered then .ok false
  else .error .boolParsing

def readBool : Json → Except Cause Bool
  | .bool value => .ok value
  | .int value => boolOfInt value
  | .real value =>
      match value.toInt? with
      | some n => boolOfInt n
      | none => .error .boolType
  | .string text => boolOfText text
  | _ => .error .boolType

-- Digits, with single breaks between them.
def digitsValue? : List Char → Nat → Bool → Option Nat
  | [], value, afterDigit => if afterDigit then some value else none
  | c :: rest, value, afterDigit =>
      if c.isDigit then digitsValue? rest (value * 10 + (c.toNat - '0'.toNat)) true
      else if c = '_' ∧ afterDigit then digitsValue? rest value false
      else none

-- A fraction may stand only if it is zero.
def dropZeroFraction (cs : List Char) : List Char :=
  let whole := cs.takeWhile (· != '.')
  match cs.drop whole.length with
  | '.' :: '0' :: rest => if rest.all (· == '0') then whole else cs
  | _ => cs

def intOfText (text : String) : Except Cause Int :=
  let trimmed := Text.trimWith Text.isSpacing text.toList
  let number (cs : List Char) : Except Cause Nat :=
    match digitsValue? (dropZeroFraction cs) 0 false with
    | some n => .ok n
    | none => .error .intParsing
  if 4300 < trimmed.length then .error .intParsingSize
  else match trimmed with
  | '-' :: rest => do return -(Int.ofNat (← number rest))
  | '+' :: rest => do return Int.ofNat (← number rest)
  | _ => do return Int.ofNat (← number trimmed)

def readInt : Json → Except Cause Int
  | .int value => .ok value
  | .bool value => .ok (if value then 1 else 0)
  | .real value =>
      match value.toInt? with
      | some n => if isWord n then .ok n else .error .intParsingSize
      | none => .error .intFromFloat
  | .string text => intOfText text
  | _ => .error .intType

end ContentForms.Settings
