import ContentForms.TypeScript.Statement

namespace ContentForms.TypeScript

open Syntax

-- The reader of each rule, which may go into others at most so many times.
def rules : Nat → Rule → Cursor → Option (Siblings × Cursor)
  | 0, _, _ => none
  | depth + 1, rule, cursor =>
      let table : Table := rules depth
      match rule with
      | .statement => anyStatement table cursor
      | .expression returns => anyExpression table returns cursor
      | .unary => unary table cursor
      | .postfixed => postfixed table cursor
      | .type => typeExpression table cursor
      | .binding => binding table cursor
      | .target => target table cursor

-- The line that names the program to run a source with.
def hashBang : Reader Siblings :=
  token "hash_bang_line" true fun cs =>
    match cs with
    | '#' :: '!' :: rest => (rest.takeWhile (· != '\n')).length + 2
    | _ => 0

def program (table : Table) : Reader Siblings :=
  sequence [optionally hashBang, many (either (table .statement) stray), trivia]

-- The tree of a source. It always exists: what cannot be read is in it as an error.
def parse (source : String) : Node :=
  let start := Cursor.ofChars source.toList
  -- Two rules cannot follow each other more than a few times without a character read.
  let table : Table := rules (8 * start.left + 64)
  match program table start with
  | some (found, stop) => start.nodeTo stop "program" true found
  | none => start.nodeTo start "program" true []

end ContentForms.TypeScript
