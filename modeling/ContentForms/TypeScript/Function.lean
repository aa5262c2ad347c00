import ContentForms.TypeScript.TypeExpression

namespace ContentForms.TypeScript

open Syntax

-- How far a stray statement goes: past its semicolon, or to the end of its line.
def strayLength : List Char → Nat
  | [] => 0
  | c :: rest => if c = ';' then 1 else if isLineEnd c then 0 else strayLength rest + 1

-- Whether a token can begin here.
def beginsToken (cs : List Char) : Bool :=
  wordLength cs != 0 ||
    match cs with
    | [] => false
    | c :: _ => c.isDigit || (separators.contains c && c != '\\')

-- A stray statement, as an error. A character that can begin no token is an error of its own in it.
def stray : Reader Siblings := do
  let comments ← trivia
  let start ← get
  guardThat (!start.rest.isEmpty)
  let stop := start.skip (max 1 (strayLength start.rest))
  set stop
  let inner := if beginsToken start.rest then [] else [start.nodeTo (start.skip 1) "ERROR" true []]
  return comments ++ [start.nodeTo stop "ERROR" true inner]

def statementBlock (table : Table) : Reader Siblings :=
  node "statement_block"
    [mark "\x7b",
      many (either (table .statement) (sequence [notAhead (mark "\x7d"), stray])),
      mark "\x7d"]

def body (table : Table) : Reader Siblings := part "body" (statementBlock table)

-- `async` in front of something on the same line.
def asyncWord : Reader Siblings := sequence [word "async", sameLine]

def functionRest (table : Table) : Reader Siblings := sequence [callSignature table, body table]

def functionExpression (table : Table) : Reader Siblings :=
  either
    (node "function_expression"
      [optionally asyncWord, word "function", optionally (part "name" identifier),
        functionRest table])
    (node "generator_function"
      [optionally asyncWord, word "function", mark "*", optionally (part "name" identifier),
        functionRest table])

def functionDeclaration (table : Table) : Reader Siblings :=
  firstOf
    [node "function_declaration"
      [optionally asyncWord, word "function", part "name" identifier, functionRest table],
      node "generator_function_declaration"
        [optionally asyncWord, word "function", mark "*", part "name" identifier,
          functionRest table],
      node "function_signature"
        [optionally asyncWord, word "function", part "name" identifier, callSignature table,
          semicolon]]

-- The body of an arrow function: a brace always opens statements.
def arrowBody (table : Table) (returns : Bool) : Reader Siblings :=
  part "body" (either
    (sequence [ahead (mark "\x7b"), statementBlock table])
    (sequence [notAhead (mark "\x7b"), table (.expression returns)]))

-- An arrow function; it may say what it returns only where no colon is waited for.
def arrowFunction (table : Table) (returns : Bool) : Reader Siblings :=
  let short := sequence
    [part "parameter" identifier, sameLine, mark "=>", arrowBody table returns]
  let long := sequence
    [optionally (part "type_parameters" (typeParameters table)),
      part "parameters" (formalParameters table),
      if returns then optionally (part "return_type" (annotatedReturn table)) else pure [],
      sameLine, mark "=>", arrowBody table returns]
  firstOf
    [node "arrow_function" [asyncWord, short], node "arrow_function" [short],
      node "arrow_function" [asyncWord, long], node "arrow_function" [long]]

def methodModifiers : List String := propertyModifiers ++ ["async", "get", "set"]

def methodDefinition (table : Table) : Reader Siblings :=
  node "method_definition"
    [modifiers methodModifiers, optionally (mark "*"), part "name" (propertyName table),
      optionally (mark "?"), functionRest table]

-- What a class extends. Its type arguments are told from a comparison by what follows them.
def extendsClause (table : Table) : Reader Siblings :=
  let name := growing identifier fun start base =>
    nodeFrom start "member_expression" (withRole "object" base)
      [mark ".", part "property" (anyWordAs "property_identifier")]
  node "extends_clause"
    [word "extends",
      either
        (sequence
          [part "value" name, part "type_arguments" (typeArguments table),
            ahead (either (mark "\x7b") (word "implements"))])
        (part "value" (table .postfixed))]

def classHeritage (table : Table) : Reader Siblings :=
  let implementsClause := node "implements_clause"
    [word "implements", separatedBy (mark ",") (table .type)]
  node "class_heritage"
    [either (sequence [extendsClause table, optionally implementsClause]) implementsClause]

def classMember (table : Table) : Reader Siblings :=
  let ended := either semicolon (mark ",")
  firstOf
    [mark ";",
      node "class_static_block" [word "static", body table],
      sequence [decorators table, methodDefinition table],
      sequence
        [node "abstract_method_signature"
          [modifiers ("abstract" :: methodModifiers), optionally (mark "*"),
            part "name" (propertyName table), optionally (mark "?"), callSignature table], ended],
      sequence [optionally (modifier "static"), indexSignature table, ended],
      sequence
        [node "public_field_definition"
          [decorators table,
            modifiers ("declare" :: "abstract" :: "accessor" :: propertyModifiers),
            part "name" (propertyName table), optionally (either (mark "?") (mark "!")),
            optionally (part "type" (annotatedType table)), optionally (initializer table)],
          ended]]

def classRest (table : Table) : Reader Siblings :=
  sequence
    [optionally (part "type_parameters" (typeParameters table)), optionally (classHeritage table),
      part "body" (node "class_body" [mark "\x7b", many (classMember table), mark "\x7d"])]

def className : Reader Siblings :=
  part "name" (sequence
    [notAhead (either (word "extends") (word "implements")), nameAs "type_identifier"])

def classExpression (table : Table) : Reader Siblings :=
  node "class" [decorators table, word "class", optionally className, classRest table]

def classDeclaration (table : Table) : Reader Siblings :=
  either
    (node "class_declaration" [decorators table, word "class", className, classRest table])
    (node "abstract_class_declaration"
      [decorators table, word "abstract", word "class", className, classRest table])

end ContentForms.TypeScript
