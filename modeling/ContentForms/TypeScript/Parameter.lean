import ContentForms.TypeScript.Literal

namespace ContentForms.TypeScript

open Syntax

def expression (table : Table) : Reader Siblings := table (.expression true)

def spreadElement (table : Table) : Reader Siblings :=
  node "spread_element" [mark "...", expression table]

def arguments (table : Table) : Reader Siblings :=
  node "arguments"
    [mark "(", looseList (either (spreadElement table) (expression table)), mark ")"]

def expressions (table : Table) : Reader Siblings :=
  growing (expression table) fun start base =>
    nodeFrom start "sequence_expression" base
      [mark ",", separatedBy (mark ",") (expression table)]

def parenthesized (table : Table) : Reader Siblings :=
  node "parenthesized_expression" [mark "(", expressions table, mark ")"]

-- `@name`, `@name.part` or `@name(x)`.
def decorator (table : Table) : Reader Siblings :=
  node "decorator"
    [mark "@",
      growing (either (parenthesized table) identifier) fun start base =>
        firstOf
          [nodeFrom start "member_expression" (withRole "object" base)
            [mark ".", part "property" (anyWordAs "property_identifier")],
            nodeFrom start "call_expression" (withRole "function" base)
              [part "arguments" (arguments table)]]]

def decorators (table : Table) : Reader Siblings := many (part "decorator" (decorator table))

def annotatedType (table : Table) : Reader Siblings :=
  node "type_annotation" [mark ":", table .type]

def initializer (table : Table) : Reader Siblings :=
  sequence [mark "=", part "value" (expression table)]

-- A mark after which a word cannot have been a modifier.
def endsName : Reader Siblings := do
  let next ← upcoming
  match next with
  | [] => return []
  | c :: _ =>
      guardThat (['(', ')', '<', '=', ';', ':', '?', '!', ',', '\x7d'].contains c)
      return []

def modifier (text : String) : Reader Siblings :=
  let found := match text with
    | "public" | "private" | "protected" => node "accessibility_modifier" [word text]
    | "override" => wordNode "override_modifier" text
    | _ => word text
  sequence [found, notAhead endsName]

def modifiers (words : List String) : Reader Siblings := many (firstOf (words.map modifier))

-- The members of an object pattern, whose targets are read by the given reader.
def objectPattern (table : Table) (inner : Reader Siblings) : Reader Siblings :=
  let withDefault := growing inner fun start base =>
    nodeFrom start "assignment_pattern" (withRole "left" base)
      [mark "=", part "right" (expression table)]
  node "object_pattern"
    [mark "\x7b",
      looseList (firstOf
        [node "rest_pattern" [mark "...", inner],
          node "pair_pattern"
            [part "key" (propertyName table), mark ":", part "value" withDefault],
          node "object_assignment_pattern"
            [part "left" (anyWordAs "shorthand_property_identifier_pattern"), mark "=",
              part "right" (expression table)],
          anyWordAs "shorthand_property_identifier_pattern"]),
      mark "\x7d"]

def arrayPattern (table : Table) (inner : Reader Siblings) : Reader Siblings :=
  let withDefault := growing inner fun start base =>
    nodeFrom start "assignment_pattern" (withRole "left" base)
      [mark "=", part "right" (expression table)]
  node "array_pattern"
    [mark "[", looseList (either (node "rest_pattern" [mark "...", inner]) withDefault), mark "]"]

def destructuring (table : Table) (inner : Rule) : Reader Siblings :=
  either (objectPattern table (table inner)) (arrayPattern table (table inner))

def binding (table : Table) : Reader Siblings :=
  either (anyWordAs "identifier") (destructuring table .binding)

def parameter (table : Table) : Reader Siblings := do
  let comments ← trivia
  let start ← get
  let name ← sequence
    [decorators table,
      modifiers ["public", "private", "protected", "override", "readonly"],
      part "pattern" (firstOf
        [node "rest_pattern" [mark "...", table .binding], wordNode "this" "this",
          table .binding])]
  let rest := sequence
    [optionally (part "type" (annotatedType table)), optionally (initializer table)]
  let found ← either
    (nodeFrom start "optional_parameter" name [mark "?", rest])
    (nodeFrom start "required_parameter" name [rest])
  return comments ++ found

def formalParameters (table : Table) : Reader Siblings :=
  node "formal_parameters"
    [mark "(",
      optionally (sequence [separatedBy (mark ",") (parameter table), optionally (mark ",")]),
      mark ")"]

def typeParameter (table : Table) : Reader Siblings :=
  node "type_parameter"
    [many (sequence [firstOf [word "const", word "in", word "out"], ahead (anyWordAs "word")]),
      part "name" (anyWordAs "type_identifier"),
      optionally (part "constraint"
        (node "constraint" [either (word "extends") (mark ":"), table .type])),
      optionally (part "value" (node "default_type" [mark "=", table .type]))]

def typeParameters (table : Table) : Reader Siblings :=
  node "type_parameters"
    [exactly "<", separatedBy (mark ",") (typeParameter table), optionally (mark ","), exactly ">"]

-- `x is T`
def typePredicate (table : Table) : Reader Siblings :=
  node "type_predicate"
    [part "name" (either (wordNode "this" "this") identifier), sameLine, word "is",
      part "type" (table .type)]

-- `asserts x`, `asserts x is T`
def assertion (table : Table) : Reader Siblings :=
  node "asserts"
    [word "asserts", firstOf [typePredicate table, wordNode "this" "this", identifier]]

def annotatedReturn (table : Table) : Reader Siblings :=
  firstOf
    [node "asserts_annotation" [mark ":", assertion table],
      node "type_predicate_annotation" [mark ":", typePredicate table],
      annotatedType table]

-- Type parameters, parameters and the returned type of a function.
def callSignature (table : Table) : Reader Siblings :=
  sequence
    [optionally (part "type_parameters" (typeParameters table)),
      part "parameters" (formalParameters table),
      optionally (part "return_type" (annotatedReturn table))]

end ContentForms.TypeScript
