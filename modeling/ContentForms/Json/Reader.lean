import ContentForms.Json.Value
import ContentForms.OrderedMap

namespace ContentForms.Json

inductive Cause where
  | value | name | colon | comma | extra
  | unterminated | control | escape | unicodeEscape
  deriving DecidableEq, Repr

def Cause.message : Cause → String
  | value => "Expecting value"
  | name => "Expecting property name enclosed in double quotes"
  | colon => "Expecting ':' delimiter"
  | comma => "Expecting ',' delimiter"
  | extra => "Extra data"
  | unterminated => "Unterminated string starting at"
  | control => "Invalid control character at"
  | escape => "Invalid \\escape"
  | unicodeEscape => "Invalid \\uXXXX escape"

-- A fault, with the number of characters from its place to the end of the text.
structure Fault where
  cause : Cause
  left : Nat
  deriving DecidableEq, Repr

namespace Reader

abbrev Result (α : Type) := Except Fault (α × List Char)

def isBlank (c : Char) : Bool := c == ' ' || c == '\t' || c == '\n' || c == '\r'

def skipBlanks (cs : List Char) : List Char := cs.dropWhile isBlank

def hexValue? (c : Char) : Option Nat :=
  if '0' ≤ c ∧ c ≤ '9' then some (c.toNat - '0'.toNat)
  else if 'a' ≤ c ∧ c ≤ 'f' then some (c.toNat - 'a'.toNat + 10)
  else if 'A' ≤ c ∧ c ≤ 'F' then some (c.toNat - 'A'.toNat + 10)
  else none

def unit? : List Char → Option (Nat × List Char)
  | a :: b :: c :: d :: rest => do
      let a ← hexValue? a
      let b ← hexValue? b
      let c ← hexValue? c
      let d ← hexValue? d
      return (((a * 16 + b) * 16 + c) * 16 + d, rest)
  | _ => none

def isHighUnit (unit : Nat) : Bool := 0xD800 ≤ unit && unit < 0xDC00

def isLowUnit (unit : Nat) : Bool := 0xDC00 ≤ unit && unit < 0xE000

-- A unit that is half of a pair and stands alone is no character.
def charOfUnit (unit : Nat) : Char :=
  if isHighUnit unit || isLowUnit unit then Char.ofNat 0xFFFD else Char.ofNat unit

def simpleEscape? (c : Char) : Option Char :=
  match c with
  | '"' => some '"'
  | '\\' => some '\\'
  | '/' => some '/'
  | 'b' => some (Char.ofNat 8)
  | 'f' => some (Char.ofNat 12)
  | 'n' => some '\n'
  | 'r' => some '\r'
  | 't' => some '\t'
  | _ => none

-- The character that a code after `\u` stands for, with the second code of a pair.
def unicodeEscape? (cs : List Char) : Option (Char × List Char) :=
  match unit? cs with
  | none => none
  | some (unit, rest) =>
      match isHighUnit unit, rest with
      | true, '\\' :: 'u' :: after =>
          match unit? after with
          | some (second, rest') =>
              if isLowUnit second then
                some (Char.ofNat (0x10000 + (unit - 0xD800) * 0x400 + (second - 0xDC00)), rest')
              else some (charOfUnit unit, rest)
          | none => none
      | _, _ => some (charOfUnit unit, rest)

-- The rest of a string; `start` is what was left at its opening quote.
def stringRest (start : Nat) : Nat → List Char → List Char → Result String
  | 0, _, _ => .error ⟨.unterminated, start⟩
  | _ + 1, _, [] => .error ⟨.unterminated, start⟩
  | fuel + 1, done, c :: rest =>
      if c = '"' then .ok (String.ofList done.reverse, rest)
      else if c = '\\' then
        match rest with
        | [] => .error ⟨.unterminated, start⟩
        | 'u' :: after =>
            match unicodeEscape? after with
            | some (decoded, rest') => stringRest start fuel (decoded :: done) rest'
            | none => .error ⟨.unicodeEscape, rest.length⟩
        | e :: after =>
            match simpleEscape? e with
            | some decoded => stringRest start fuel (decoded :: done) after
            | none => .error ⟨.escape, (c :: rest).length⟩
      else if c.toNat < 0x20 then .error ⟨.control, (c :: rest).length⟩
      else stringRest start fuel (c :: done) rest

def string (cs : List Char) : Result String := stringRest (cs.length + 1) (cs.length + 1) [] cs

def natOfDigits (digits : List Char) : Nat :=
  digits.foldl (fun n c => n * 10 + (c.toNat - '0'.toNat)) 0

def fraction (cs : List Char) : List Char × List Char :=
  match cs with
  | '.' :: rest =>
      let digits := rest.takeWhile Char.isDigit
      if digits.isEmpty then ([], cs) else (digits, rest.dropWhile Char.isDigit)
  | _ => ([], cs)

def exponent? (cs : List Char) : Option (Int × List Char) :=
  match cs with
  | mark :: rest =>
      if mark = 'e' ∨ mark = 'E' then
        let (negative, rest) := match rest with
          | '-' :: after => (true, after)
          | '+' :: after => (false, after)
          | after => (false, after)
        let digits := rest.takeWhile Char.isDigit
        if digits.isEmpty then none
        else
          let n : Int := natOfDigits digits
          some (if negative then -n else n, rest.dropWhile Char.isDigit)
      else none
  | [] => none

def number? (cs : List Char) : Option (Json × List Char) :=
  let (negative, body) := match cs with
    | '-' :: rest => (true, rest)
    | rest => (false, rest)
  let whole := match body with
    | '0' :: _ => ['0']
    | _ => body.takeWhile Char.isDigit
  if whole.isEmpty then none
  else
    let (part, rest) := fraction (body.drop whole.length)
    match part.isEmpty, exponent? rest with
    | true, none =>
        let n : Int := natOfDigits whole
        some (.int (if negative then -n else n), rest)
    | _, found =>
        let (shift, rest) := found.getD (0, rest)
        (Double.ofDecimal? negative (natOfDigits (whole ++ part)) (shift - part.length)).map
          fun value => (.real value, rest)

mutual

-- One value. Every step leaves less text, so as many steps as there are characters suffice.
def value : Nat → List Char → Result Json
  | 0, cs => .error ⟨.value, cs.length⟩
  | fuel + 1, cs =>
      match cs with
      | '"' :: rest => (string rest).map fun (text, after) => (.string text, after)
      | '{' :: rest =>
          match skipBlanks rest with
          | '}' :: after => .ok (.object [], after)
          | after => members fuel [] after
      | '[' :: rest =>
          match skipBlanks rest with
          | ']' :: after => .ok (.array [], after)
          | after => items fuel [] after
      | 'n' :: 'u' :: 'l' :: 'l' :: rest => .ok (.null, rest)
      | 't' :: 'r' :: 'u' :: 'e' :: rest => .ok (.bool true, rest)
      | 'f' :: 'a' :: 'l' :: 's' :: 'e' :: rest => .ok (.bool false, rest)
      | _ =>
          match number? cs with
          | some found => .ok found
          | none => .error ⟨.value, cs.length⟩

-- Of members with one name the last counts, in the place of the first.
def members : Nat → List (String × Json) → List Char → Result Json
  | 0, _, cs => .error ⟨.name, cs.length⟩
  | fuel + 1, done, cs =>
      match cs with
      | '"' :: rest =>
          match string rest with
          | .error fault => .error fault
          | .ok (name, after) =>
              match skipBlanks after with
              | ':' :: after =>
                  match value fuel (skipBlanks after) with
                  | .error fault => .error fault
                  | .ok (found, after) =>
                      let done := putEntry name found done
                      match skipBlanks after with
                      | '}' :: after => .ok (.object done, after)
                      | ',' :: after => members fuel done (skipBlanks after)
                      | after => .error ⟨.comma, after.length⟩
              | after => .error ⟨.colon, after.length⟩
      | _ => .error ⟨.name, cs.length⟩

-- The items of an array from the next one on; those before come in reverse.
def items : Nat → List Json → List Char → Result Json
  | 0, _, cs => .error ⟨.value, cs.length⟩
  | fuel + 1, done, cs =>
      match value fuel cs with
      | .error fault => .error fault
      | .ok (item, after) =>
          match skipBlanks after with
          | ']' :: after => .ok (.array (item :: done).reverse, after)
          | ',' :: after => items fuel (item :: done) (skipBlanks after)
          | after => .error ⟨.comma, after.length⟩

end

end Reader

-- Reads a text that holds one value and nothing else but blanks.
def read (text : List Char) : Except Fault Json :=
  match Reader.value (text.length + 1) (Reader.skipBlanks text) with
  | .error fault => .error fault
  | .ok (found, rest) =>
      match Reader.skipBlanks rest with
      | [] => .ok found
      | rest => .error ⟨.extra, rest.length⟩

end ContentForms.Json
