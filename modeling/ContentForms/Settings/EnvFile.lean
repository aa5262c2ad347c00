import ContentForms.OrderedMap
import ContentForms.Text.Basic

namespace ContentForms.EnvFile

open Text (isBlank isInlineBlank dropRightWhile)

-- A name, and its value if it has one.
abbrev Binding := String × Option String

-- All ends of lines become line feeds.
def plainLines : List Char → List Char
  | [] => []
  | '\r' :: '\n' :: rest => '\n' :: plainLines rest
  | '\r' :: rest => '\n' :: plainLines rest
  | c :: rest => c :: plainLines rest

def skipBlanks (cs : List Char) : List Char := cs.dropWhile isInlineBlank

-- `export` before a name says nothing.
def skipExport (cs : List Char) : List Char :=
  match cs with
  | 'e' :: 'x' :: 'p' :: 'o' :: 'r' :: 't' :: c :: rest =>
      if isInlineBlank c then skipBlanks rest else cs
  | _ => cs

def skipLine (cs : List Char) : List Char := (cs.dropWhile (· != '\n')).drop 1

-- Up to a character, which is dropped; none if it does not come.
def upTo? (stop : Char) (cs : List Char) : Option (List Char × List Char) :=
  match cs.dropWhile (· != stop) with
  | [] => none
  | _ :: rest => some (cs.takeWhile (· != stop), rest)

-- A name, in quotes or not. At a comment there is no name, and that is no fault.
def readName (cs : List Char) : Option (Option String × List Char) :=
  match cs with
  | '#' :: _ => some (none, cs)
  | '\'' :: rest =>
      match upTo? '\'' rest with
      | some (name, after) => if name.isEmpty then none else some (some (String.ofList name), after)
      | none => none
  | _ =>
      let name := cs.takeWhile fun c => c != '=' && c != '#' && !isBlank c
      if name.isEmpty then none
      else some (some (String.ofList name), cs.drop name.length)

-- How many characters there are before the first quote that has no backslash before it.
def plainQuote? (quote previous : Char) : List Char → Option Nat
  | [] => none
  | c :: rest =>
      if c = quote ∧ previous ≠ '\\' then some 0 else (plainQuote? quote c rest).map (· + 1)

def lastQuote? (quote : Char) : List Char → Option Nat
  | [] => none
  | c :: rest =>
      match lastQuote? quote rest with
      | some count => some (count + 1)
      | none => if c = quote then some 0 else none

-- A quote after a backslash closes the value only if nothing else does.
def closing? (quote : Char) (cs : List Char) : Option Nat :=
  match plainQuote? quote quote cs with
  | some count => some count
  | none => lastQuote? quote cs

-- A backslash and a character that the table knows stand for one character.
def decodeEscapes (table : List (Char × Char)) : List Char → List Char
  | [] => []
  | [c] => [c]
  | '\\' :: c :: rest =>
      match table.lookup c with
      | some decoded => decoded :: decodeEscapes table rest
      | none => '\\' :: decodeEscapes table (c :: rest)
  | c :: d :: rest => c :: decodeEscapes table (d :: rest)

def singleEscapes : List (Char × Char) := [('\\', '\\'), ('\'', '\'')]

def doubleEscapes : List (Char × Char) :=
  [('\\', '\\'), ('\'', '\''), ('"', '"'), ('a', '\x07'), ('b', '\x08'), ('f', '\x0c'),
    ('n', '\n'), ('r', '\r'), ('t', '\t'), ('v', '\x0b')]

def readQuoted (quote : Char) (escapes : List (Char × Char)) (cs : List Char) :
    Option (String × List Char) :=
  (closing? quote cs).map fun count =>
    (String.ofList (decodeEscapes escapes (cs.take count)), cs.drop (count + 1))

-- A comment begins with a mark after a blank.
def cutComment : List Char → List Char
  | [] => []
  | c :: rest =>
      if isBlank c ∧ (rest.dropWhile isBlank).head? = some '#' then [] else c :: cutComment rest

def readPlain (cs : List Char) : String × List Char :=
  let line := cs.takeWhile (· != '\n')
  (String.ofList (dropRightWhile isBlank (cutComment line)), cs.drop line.length)

def readValue (cs : List Char) : Option (String × List Char) :=
  match cs with
  | '\'' :: rest => readQuoted '\'' singleEscapes rest
  | '"' :: rest => readQuoted '"' doubleEscapes rest
  | _ => some (readPlain cs)

-- Past a comment, which begins with a mark after any blanks.
def skipComment (cs : List Char) : List Char :=
  match skipBlanks cs with
  | '#' :: rest => rest.dropWhile (· != '\n')
  | _ => cs

-- A binding counts only if its line ends after it.
def finish (name : Option String) (value : Option String) (cs : List Char) :
    Option Binding × List Char :=
  let after := skipComment cs
  match skipBlanks after with
  | [] => (name.map (·, value), [])
  | '\n' :: rest => (name.map (·, value), rest)
  | _ => (none, skipLine after)

-- The binding at the front of a text, if there is one, and what follows it.
def readBinding (cs : List Char) : Option Binding × List Char :=
  let cs := skipExport cs
  match readName cs with
  | none => (none, skipLine cs)
  | some (name, after) =>
      match skipBlanks after with
      | '=' :: rest =>
          match readValue (skipBlanks rest) with
          | none => (none, skipLine (skipBlanks rest))
          | some (value, left) => finish name (some value) left
      | rest => finish name none rest

-- Each round takes at least one character.
def readBindings : Nat → List Char → List Binding
  | 0, _ => []
  | rounds + 1, cs =>
      match cs.dropWhile isBlank with
      | [] => []
      | c :: rest =>
          let (binding, after) := readBinding (c :: rest)
          binding.toList ++ readBindings rounds after

-- Values may stand in quotes, with escapes, over several lines; after plain ones a comment may
-- follow. A name alone has no value. Lines that are none of this are passed over.
def bindings (text : String) : List Binding :=
  let cs := plainLines text.toList
  readBindings cs.length cs

-- A piece of a value: a text, or a name whose value stands there, with a default or not.
inductive Piece where
  | plain (c : Char)
  | reference (name fallback : String)

def readReference (cs : List Char) : Option (Piece × List Char) :=
  let name := cs.takeWhile fun c => c != '\x7d' && c != ':'
  match cs.drop name.length with
  | '\x7d' :: rest => some (.reference (String.ofList name) "", rest)
  | ':' :: '-' :: rest =>
      (upTo? '\x7d' rest).map fun (fallback, after) =>
        (.reference (String.ofList name) (String.ofList fallback), after)
  | _ => none

def pieces : Nat → List Char → List Piece
  | 0, _ => []
  | _ + 1, [] => []
  | rounds + 1, '$' :: '\x7b' :: rest =>
      match readReference rest with
      | some (piece, after) => piece :: pieces rounds after
      | none => .plain '$' :: pieces rounds ('\x7b' :: rest)
  | rounds + 1, c :: rest => .plain c :: pieces rounds rest

-- A name that is there without a value stands for nothing.
def Piece.resolve (known : OrderedMap String (Option String))
    (environment : OrderedMap String String) : Piece → String
  | plain c => String.singleton c
  | reference name fallback =>
      match known.get? name with
      | some value => value.getD ""
      | none => (environment.get? name).getD fallback

def expand (known : OrderedMap String (Option String)) (environment : OrderedMap String String)
    (value : String) : String :=
  let cs := value.toList
  String.join ((pieces cs.length cs).map (Piece.resolve known environment))

def references (text : String) : List String :=
  (bindings text).flatMap fun binding =>
    let cs := (binding.2.getD "").toList
    (pieces cs.length cs).filterMap fun piece =>
      match piece with
      | .plain _ => none
      | .reference name _ => some name

-- The values of a file's names. Each takes in those before it, and the environment.
def resolved (environment : OrderedMap String String) (text : String) :
    OrderedMap String (Option String) :=
  (bindings text).foldl (fun known binding =>
    known.insert binding.1 (binding.2.map (expand known environment))) .empty

end ContentForms.EnvFile
