import ContentForms.TypeScript.Function

namespace ContentForms.TypeScript

open Syntax

def objectMember (table : Table) : Reader Siblings :=
  firstOf
    [spreadElement table,
      node "pair" [part "key" (propertyName table), mark ":", part "value" (expression table)],
      methodDefinition table,
      anyWordAs "shorthand_property_identifier"]

def objectLiteral (table : Table) : Reader Siblings :=
  node "object" [mark "\x7b", looseList (objectMember table), mark "\x7d"]

def arrayLiteral (table : Table) : Reader Siblings :=
  node "array"
    [mark "[", looseList (either (spreadElement table) (expression table)), mark "]"]

def templateString (table : Table) : Reader Siblings :=
  templateOf "template_string" (substitution "template_substitution" (expressions table))

def metaProperty : Reader Siblings :=
  either
    (node "meta_property" [word "new", mark ".", word "target"])
    (node "meta_property" [word "import", mark ".", word "meta"])

def simpleValue (table : Table) : Reader Siblings :=
  firstOf
    [parenthesized table, stringLiteral, templateString table, number, regex,
      objectLiteral table, arrayLiteral table,
      functionExpression table, classExpression table,
      wordNode "this" "this", wordNode "super" "super", wordNode "true" "true",
      wordNode "false" "false", wordNode "null" "null", wordNode "undefined" "undefined",
      metaProperty, wordNode "import" "import",
      sequence [privateName, ahead (word "in")],
      identifier]

-- `.name` and `[x]` after a value.
def access (table : Table) (start : Cursor) (base : Siblings) : Reader Siblings :=
  let chained := part "optional_chain" (token "optional_chain" true fun cs =>
    if markAt cs = ['?', '.'] then 2 else 0)
  either
    (nodeFrom start "member_expression" (withRole "object" base)
      [either (mark ".") chained,
        part "property" (either privateName (anyWordAs "property_identifier"))])
    (nodeFrom start "subscript_expression" (withRole "object" base)
      [optionally chained, mark "[", part "index" (expressions table), mark "]"])

-- Something made with `new`. The calls in the name of its class have to be in parentheses.
def newExpression (table : Table) : Reader Siblings :=
  node "new_expression"
    [word "new",
      part "constructor" (either
        (sequence [ahead (word "new"), table .postfixed])
        (growing (simpleValue table) (access table))),
      optionally (part "type_arguments" (typeArguments table)),
      optionally (part "arguments" (arguments table))]

-- Whether something that can begin a value comes next on the line.
def operandAhead : Reader Siblings := fun cursor =>
  if lineEndsBefore cursor then none
  else
    let (_, next) := triviaFrom (cursor.left + 1) cursor
    match next.rest with
    | [] => none
    | c :: _ =>
        if wordLength next.rest = 0 then
          if c.isDigit || ['"', '\'', '[', '\x7b', '/', '#', '@'].contains c then
            some ([], cursor)
          else none
        else if ["as", "satisfies", "in", "instanceof", "of"].contains (wordAt next.rest) then none
        else some ([], cursor)

def postfixed (table : Table) : Reader Siblings :=
  growing (firstOf [metaProperty, newExpression table, simpleValue table]) fun start base =>
    firstOf
      [access table start base,
        nodeFrom start "call_expression" (withRole "function" base)
          [optionally (mark "?."),
            optionally (part "type_arguments" (typeArguments table)),
            part "arguments" (either (arguments table) (templateString table))],
        nodeFrom start "non_null_expression" base [sameLine, mark "!"],
        nodeFrom start "instantiation_expression" (withRole "function" base)
          [part "type_arguments" (typeArguments table), notAhead operandAhead]]

-- `as T` and `satisfies T` after a value.
def cast (table : Table) (start : Cursor) (base : Siblings) : Reader Siblings :=
  either
    (nodeFrom start "as_expression" base
      [sameLine, word "as", either (word "const") (table .type)])
    (nodeFrom start "satisfies_expression" base [sameLine, word "satisfies", table .type])

def unaryOperator : Reader Siblings :=
  firstOf
    [mark "!", mark "~", mark "-", mark "+", word "typeof", word "void", word "delete"]

def unary (table : Table) : Reader Siblings :=
  firstOf
    [node "unary_expression" [part "operator" unaryOperator, part "argument" (table .unary)],
      node "update_expression"
        [part "operator" (either (mark "++") (mark "--")), part "argument" (table .unary)],
      node "await_expression" [word "await", growing (table .unary) (cast table)],
      node "type_assertion" [typeArguments table, table .unary],
      growing (table .postfixed) fun start base =>
        nodeFrom start "update_expression" (withRole "argument" base)
          [sameLine, part "operator" (either (mark "++") (mark "--"))]]

-- The operators between two values, those that bind tightest first.
def operatorLevels : List (List String) :=
  [["*", "/", "%"], ["+", "-"], ["<<", ">>", ">>>"], ["<", "<=", ">", ">="],
    ["==", "===", "!=", "!=="], ["&"], ["^"], ["|"], ["&&"], ["||"], ["??"]]

-- An operator of a level. The words for membership bind as comparisons do.
def operatorOf (level : List String) : Reader Siblings := do
  let next ← upcoming
  let text := String.ofList (markAt next)
  if level.contains text then mark text
  else if level.contains "<" then either (word "instanceof") (word "in")
  else fail

-- A value raised to a power, and that to another from the right.
def powered (table : Table) : Nat → Reader Siblings
  | 0 => table .unary
  | steps + 1 =>
      growing (table .unary) fun start base =>
        nodeFrom start "binary_expression" (withRole "left" base)
          [part "operator" (mark "**"), part "right" (powered table steps)]

def power (table : Table) : Reader Siblings := fun cursor => powered table cursor.left cursor

-- What a value becomes with the operators of the given levels after it, the loosest level first.
def operated (table : Table) (start : Cursor) (base : Siblings) :
    List (List String) → Reader Siblings
  | [] => pure base
  | level :: tighter => do
      let first ← operated table start base tighter
      let here ← get
      extendBy (fun left => nodeFrom start "binary_expression" (withRole "left" left)
        [part "operator" (operatorOf level),
          part "right" (do
            let comments ← trivia
            let operandStart ← get
            let operand ← power table
            return comments ++ (← operated table operandStart operand tighter))]) here.left first

-- Values with operators between them. A cast takes all that stands before it.
def operation (table : Table) : Reader Siblings :=
  growing
    (do
      let start ← get
      operated table start (← power table) operatorLevels.reverse)
    fun start base => do
      let converted ← cast table start base
      operated table start converted operatorLevels.reverse

-- The nodes that can be assigned to as they are.
def isAssignable (found : Siblings) : Bool :=
  match found.getLast? with
  | none => false
  | some last =>
      ["identifier", "undefined", "member_expression", "subscript_expression",
        "parenthesized_expression", "non_null_expression"].contains last.kind

def updates : List String :=
  ["+=", "-=", "*=", "/=", "%=", "^=", "&=", "|=", ">>=", ">>>=", "<<=", "**=", "&&=", "||=", "??="]

-- A choice between two values, or an assignment, that begins with the given value.
def concluded (table : Table) (returns : Bool) (start : Cursor) (base : Siblings) :
    Reader Siblings :=
  let value := table (.expression returns)
  let choice (consequence : Reader Siblings) :=
    nodeFrom start "ternary_expression" (withRole "condition" base)
      [mark "?", part "consequence" consequence, mark ":", part "alternative" value]
  firstOf
    [choice (table (.expression true)),
      choice (table (.expression false)),
      do
        guardThat (isAssignable base)
        firstOf
          [nodeFrom start "assignment_expression" (withRole "left" base)
            [mark "=", part "right" value],
            nodeFrom start "augmented_assignment_expression" (withRole "left" base)
              [part "operator" (firstOf (updates.map mark)), part "right" value]],
      sequence [notAhead (mark "="), pure base]]

def anyExpression (table : Table) (returns : Bool) : Reader Siblings :=
  firstOf
    [arrowFunction table returns,
      node "yield_expression"
        [word "yield",
          either
            (sequence [mark "*", table (.expression returns)])
            (optionally (sequence [sameLine, table (.expression returns)]))],
      do
        let comments ← trivia
        let start ← get
        return comments ++ (← concluded table returns start (← operation table)),
      node "assignment_expression"
        [part "left" (destructuring table .target), mark "=",
          part "right" (table (.expression returns))]]

-- What an assignment inside a pattern may go to.
def target (table : Table) : Reader Siblings :=
  either (destructuring table .target) (table .postfixed)

end ContentForms.TypeScript
