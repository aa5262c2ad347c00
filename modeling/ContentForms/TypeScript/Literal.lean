import ContentForms.TypeScript.Rule

namespace ContentForms.TypeScript

open Syntax

def stringIn (quote : Char) : Reader Siblings :=
  node "string"
    [exactly (String.singleton quote), fun cursor => stringPieces quote (cursor.left + 1) cursor]

def stringLiteral : Reader Siblings := either (stringIn '\'') (stringIn '"')

-- A place in a template where an expression, or a type, stands.
def substitution (kind : String) (inner : Reader Siblings) : Reader Siblings :=
  node kind [exactly "$\x7b", inner, exactly "\x7d"]

def templateTextLength : List Char → Nat
  | [] => 0
  | '$' :: '\x7b' :: _ => 0
  | c :: rest =>
      if c = '\x60' ∨ c = '\\' ∨ c.toNat = 0 then 0 else templateTextLength rest + 1

def templatePieces (hole : Reader Siblings) : Nat → Reader Siblings
  | 0 => fail
  | steps + 1 => do
      let here ← get
      match here.rest with
      | '\x60' :: _ => take "\x60" false 1
      | '\\' :: _ =>
          let escape ← take "escape_sequence" true (escapeLength here.rest)
          return escape ++ (← templatePieces hole steps)
      | '$' :: '\x7b' :: _ =>
          let found ← hole
          return found ++ (← templatePieces hole steps)
      | _ =>
          let length := templateTextLength here.rest
          guardThat (length != 0)
          let fragment ← take "string_fragment" true length
          return fragment ++ (← templatePieces hole steps)

def templateOf (kind : String) (hole : Reader Siblings) : Reader Siblings :=
  node kind [exactly "\x60", fun cursor => templatePieces hole (cursor.left + 1) cursor]

-- A slash, a pattern, a slash and flags, with nothing between them.
def regex : Reader Siblings :=
  node "regex"
    [exactly "/",
      do
        let here ← get
        match patternLength? false here.rest with
        | none => fail
        | some length =>
            guardThat (length != 0)
            let pattern ← take "regex_pattern" true length
            let slash ← take "/" false 1
            let after ← get
            let flags := countWhile (fun c => 'a' ≤ c && c ≤ 'z') after.rest
            if flags = 0 then return withRole "pattern" pattern ++ slash
            else
              let found ← take "regex_flags" true flags
              return withRole "pattern" pattern ++ slash ++ withRole "flags" found]

-- `[x]` in the place of a name.
def computedName (table : Table) : Reader Siblings :=
  node "computed_property_name" [mark "[", table (.expression true), mark "]"]

-- The name of a property: any word, a string, a number, or a computed one.
def propertyName (table : Table) : Reader Siblings :=
  firstOf [anyWordAs "property_identifier", stringLiteral, number, privateName, computedName table]

end ContentForms.TypeScript
