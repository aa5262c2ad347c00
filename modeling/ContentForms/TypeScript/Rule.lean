import ContentForms.TypeScript.Token

namespace ContentForms.TypeScript

open Syntax

-- The rules of the grammar that others refer to before they are defined.
inductive Rule where
  | statement
  -- An expression without a comma; `true` if an arrow function may say what it returns.
  | expression (returns : Bool)
  | unary
  -- A value with its accesses and calls.
  | postfixed
  | type
  -- A target of a declaration: a name, or a pattern of names.
  | binding
  -- A target of an assignment: also an access.
  | target
  deriving DecidableEq

-- A rule is written with the readers of the rules it mentions. Those that may come back to it are
-- taken from a table, so that the recursion is closed in one place.
abbrev Table := Rule → Reader Siblings

-- The first of two readers that finds something.
def either (first second : Reader α) : Reader α := fun cursor =>
  match first cursor with
  | some found => some found
  | none => second cursor

def firstOf : List (Reader Siblings) → Reader Siblings
  | [] => fail
  | [reader] => reader
  | reader :: rest => either reader (firstOf rest)

def sequence : List (Reader Siblings) → Reader Siblings
  | [] => pure []
  | [reader] => reader
  | reader :: rest => do
      let found ← reader
      return found ++ (← sequence rest)

def optionally (reader : Reader Siblings) : Reader Siblings := either reader (pure [])

-- As often as the reader finds something, at most so many times.
def manyTimes (reader : Reader Siblings) : Nat → Reader Siblings
  | 0 => pure []
  | count + 1 => fun cursor =>
      match reader cursor with
      | none => some ([], cursor)
      | some (found, next) => ((found ++ ·) <$> manyTimes reader count) next

-- Every round takes at least one character.
def many (reader : Reader Siblings) : Reader Siblings := fun cursor =>
  manyTimes reader cursor.left cursor

-- Items with a separator between them, at least one.
def separatedBy (separator item : Reader Siblings) : Reader Siblings :=
  sequence [item, many (sequence [separator, item])]

-- Items with commas between them, any of which may be missing.
def looseList (item : Reader Siblings) : Reader Siblings :=
  sequence [optionally item, many (sequence [mark ",", optionally item])]

-- Succeeds without moving exactly if the reader would find nothing.
def notAhead (reader : Reader Siblings) : Reader Siblings := fun cursor =>
  match reader cursor with
  | some _ => none
  | none => some ([], cursor)

-- Succeeds without moving if the reader would find something.
def ahead (reader : Reader Siblings) : Reader Siblings := fun cursor =>
  match reader cursor with
  | some _ => some ([], cursor)
  | none => none

-- Succeeds without moving if no line ends before the next token.
def sameLine : Reader Siblings := fun cursor =>
  if lineEndsBefore cursor then none else some ([], cursor)

-- Gives the last node of a run a part in its parent.
def withRole (role : String) : Siblings → Siblings
  | [] => []
  | [node] => [{ node with role := some role }]
  | node :: rest => node :: withRole role rest

def part (role : String) (reader : Reader Siblings) : Reader Siblings := do
  return withRole role (← reader)

-- A node whose children the reader finds. Comments before its first token stay outside.
def node (kind : String) (children : List (Reader Siblings)) : Reader Siblings := do
  let comments ← trivia
  let start ← get
  let found ← sequence children
  let stop ← get
  return comments ++ [start.nodeTo stop kind true found]

-- A node that starts with nodes already found, which begin at `start`.
def nodeFrom (start : Cursor) (kind : String) (before : Siblings)
    (children : List (Reader Siblings)) : Reader Siblings := do
  let found ← sequence children
  let stop ← get
  return [start.nodeTo stop kind true (before ++ found)]

-- Lets a node grow to the right as long as a step finds more.
def extendBy (step : Siblings → Reader Siblings) : Nat → Siblings → Reader Siblings
  | 0, base => pure base
  | count + 1, base => fun cursor =>
      match step base cursor with
      | none => some (base, cursor)
      | some (next, after) => extendBy step count next after

-- A node that may be the beginning of larger ones. A step gets the start and what is found so far.
def growing (first : Reader Siblings) (step : Cursor → Siblings → Reader Siblings) :
    Reader Siblings := do
  let comments ← trivia
  let start ← get
  let base ← first
  let here ← get
  return comments ++ (← extendBy (step start) here.left base)

-- A word of the language that is a node of its own.
def wordNode (kind text : String) : Reader Siblings :=
  token kind true fun cs =>
    if startsWith cs text.toList ∧ wordLength cs = text.length then text.length else 0

def wordIsAhead (words : List String) : Reader Siblings := do
  let next ← upcoming
  guardThat (words.contains (wordAt next))
  return []

-- The end of a statement: a semicolon, the end of the line, of the block or of the text.
def semicolon : Reader Siblings :=
  either (mark ";") fun cursor =>
    let (_, next) := triviaFrom (cursor.left + 1) cursor
    match next.rest with
    | [] => some ([], cursor)
    | c :: _ => if c = '\x7d' ∨ next.row ≠ cursor.row then some ([], cursor) else none

end ContentForms.TypeScript
