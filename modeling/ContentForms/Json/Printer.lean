import ContentForms.Json.Value
import ContentForms.Text.Basic
import ContentForms.Text.Quoted

namespace ContentForms.Json

open Text (joined hexDigits)

def unitEscape (unit : Nat) : List Char := '\\' :: 'u' :: hexDigits 4 unit

def codeEscape (code : Nat) : List Char :=
  if code < 0x10000 then unitEscape code
  else
    unitEscape (0xD800 + (code - 0x10000) / 0x400) ++ unitEscape (0xDC00 + (code - 0x10000) % 0x400)

-- The escapes that both forms share.
def shortEscape? (c : Char) : Option (List Char) :=
  if c = '"' ∨ c = '\\' then some ['\\', c]
  else if c = '\n' then some ['\\', 'n']
  else if c = '\r' then some ['\\', 'r']
  else if c = '\t' then some ['\\', 't']
  else if c.toNat = 8 then some ['\\', 'b']
  else if c.toNat = 12 then some ['\\', 'f']
  else none

def plainChar (c : Char) : List Char :=
  (shortEscape? c).getD (if c.toNat < 0x20 then unitEscape c.toNat else [c])

def asciiChar (c : Char) : List Char :=
  (shortEscape? c).getD (if 0x20 ≤ c.toNat ∧ c.toNat < 0x7F then [c] else codeEscape c.toNat)

def quotedWith (writeChar : Char → List Char) (text : String) : String :=
  String.ofList ('"' :: text.toList.flatMap writeChar ++ ['"'])

def plainString : String → String := quotedWith plainChar

def asciiString : String → String := quotedWith asciiChar

def scalarText : Json → String
  | null => "null"
  | bool true => "true"
  | bool false => "false"
  | int n => toString n
  | real value => value.toText
  | _ => ""

mutual

-- No blanks, and all characters that a string can hold as they are.
def compact : Json → String
  | string text => plainString text
  | array items => "[" ++ joined "," (compactItems items) ++ "]"
  | object members => "\x7b" ++ joined "," (compactMembers members) ++ "\x7d"
  | scalar => scalarText scalar

def compactItems : List Json → List String
  | [] => []
  | item :: rest => compact item :: compactItems rest

def compactMembers : List (String × Json) → List String
  | [] => []
  | (name, value) :: rest => (plainString name ++ ":" ++ compact value) :: compactMembers rest

end

-- A line break and the blanks of a depth of nesting.
def newline (depth : Nat) : String := String.ofList ('\n' :: List.replicate (2 * depth) ' ')

mutual

-- One item a line. Everything beyond ASCII is written by its code, in two units where one is not
-- enough.
def indentedAt (depth : Nat) : Json → String
  | string text => asciiString text
  | array [] => "[]"
  | array (item :: rest) =>
      "[" ++ newline (depth + 1) ++
        joined ("," ++ newline (depth + 1)) (indentedItems (depth + 1) (item :: rest)) ++
        newline depth ++ "]"
  | object [] => "\x7b\x7d"
  | object (member :: rest) =>
      "\x7b" ++ newline (depth + 1) ++
        joined ("," ++ newline (depth + 1)) (indentedMembers (depth + 1) (member :: rest)) ++
        newline depth ++ "\x7d"
  | scalar => scalarText scalar

def indentedItems (depth : Nat) : List Json → List String
  | [] => []
  | item :: rest => indentedAt depth item :: indentedItems depth rest

def indentedMembers (depth : Nat) : List (String × Json) → List String
  | [] => []
  | (name, value) :: rest =>
      (asciiString name ++ ": " ++ indentedAt depth value) :: indentedMembers depth rest

end

def indented (value : Json) : String := indentedAt 0 value

end ContentForms.Json
