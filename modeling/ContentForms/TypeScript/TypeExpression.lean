import ContentForms.TypeScript.Parameter

namespace ContentForms.TypeScript

open Syntax

def typeArguments (table : Table) : Reader Siblings :=
  node "type_arguments"
    [exactly "<", separatedBy (mark ",") (table .type), optionally (mark ","), exactly ">"]

-- A name with the names of the modules that hold it, as a value.
def moduleName : Reader Siblings :=
  growing identifier fun start base =>
    nodeFrom start "nested_identifier" (withRole "object" base)
      [mark ".", part "property" (anyWordAs "property_identifier")]

def enclosingModule : Reader Siblings :=
  growing identifier fun start base =>
    nodeFrom start "nested_identifier" (withRole "object" base)
      [mark ".", part "property" (anyWordAs "property_identifier"), ahead (mark ".")]

def qualifiedTypeName : Reader Siblings :=
  either
    (node "nested_type_identifier"
      [part "module" enclosingModule, mark ".", part "name" (anyWordAs "type_identifier")])
    (nameAs "type_identifier")

def namedType (table : Table) : Reader Siblings :=
  growing qualifiedTypeName fun start base =>
    nodeFrom start "generic_type" (withRole "name" base)
      [sameLine, part "type_arguments" (typeArguments table)]

def predefinedNames : List String :=
  ["any", "number", "boolean", "string", "symbol", "void", "unknown", "never", "object"]

def predefinedType : Reader Siblings :=
  node "predefined_type"
    [either (sequence [word "unique", word "symbol"]) (firstOf (predefinedNames.map word)),
      notAhead (mark ".")]

-- `import('x')` where a type or a value is named.
def importCall (table : Table) : Reader Siblings :=
  node "call_expression"
    [part "function" (wordNode "import" "import"), part "arguments" (arguments table)]

-- `import('x').T`
def importedType (table : Table) : Reader Siblings :=
  growing (importCall table) fun start base =>
    firstOf
      [nodeFrom start "member_expression" (withRole "object" base)
        [mark ".", part "property" (anyWordAs "property_identifier")],
        nodeFrom start "generic_type" (withRole "name" base)
          [sameLine, part "type_arguments" (typeArguments table)]]

-- `typeof x.y`
def typeQuery (table : Table) : Reader Siblings :=
  node "type_query"
    [word "typeof",
      growing (firstOf [importCall table, wordNode "this" "this", identifier]) fun start base =>
        firstOf
          [nodeFrom start "member_expression" (withRole "object" base)
            [either (mark ".") (mark "?."),
              part "property" (either privateName (anyWordAs "property_identifier"))],
            nodeFrom start "subscript_expression" (withRole "object" base)
              [sameLine, mark "[", part "index" (either number stringLiteral), mark "]"],
            nodeFrom start "instantiation_expression" (withRole "function" base)
              [sameLine, part "type_arguments" (typeArguments table)]]]

def literalType : Reader Siblings :=
  node "literal_type"
    [firstOf
      [node "unary_expression"
        [part "operator" (either (mark "-") (mark "+")), part "argument" number],
        number, stringLiteral, wordNode "true" "true", wordNode "false" "false",
        wordNode "null" "null", wordNode "undefined" "undefined"]]

-- A member of a tuple type, with or without a name.
def tupleMember (table : Table) : Reader Siblings :=
  firstOf
    [node "optional_parameter"
      [part "name" identifier, mark "?", part "type" (annotatedType table)],
      node "required_parameter"
        [part "name" (either (node "rest_pattern" [mark "...", identifier]) identifier),
          part "type" (annotatedType table)],
      node "rest_type" [mark "...", table .type],
      growing (table .type) fun start base => nodeFrom start "optional_type" base [mark "?"]]

-- `[key: string]: T`, or a mapping `[K in T]: U`.
def indexSignature (table : Table) : Reader Siblings :=
  node "index_signature"
    [optionally (sequence
      [optionally (part "sign" (either (exactly "-") (exactly "+"))), word "readonly"]),
      mark "[",
      either
        (sequence [part "name" identifier, mark ":", part "index_type" (table .type)])
        (node "mapped_type_clause"
          [part "name" (anyWordAs "type_identifier"), word "in", part "type" (table .type),
            optionally (sequence [word "as", part "alias" (table .type)])]),
      mark "]",
      optionally (part "type" (firstOf
        [node "omitting_type_annotation" [exactly "-?:", table .type],
          node "adding_type_annotation" [exactly "+?:", table .type],
          node "opting_type_annotation" [exactly "?:", table .type],
          annotatedType table]))]

def propertyModifiers : List String :=
  ["public", "private", "protected", "static", "override", "readonly"]

def typeMember (table : Table) : Reader Siblings :=
  firstOf
    [node "call_signature" [callSignature table],
      node "construct_signature"
        [optionally (word "abstract"), word "new",
          optionally (part "type_parameters" (typeParameters table)),
          part "parameters" (formalParameters table),
          optionally (part "type" (annotatedType table))],
      indexSignature table,
      node "method_signature"
        [modifiers (propertyModifiers ++ ["async", "get", "set"]), optionally (mark "*"),
          part "name" (propertyName table), optionally (mark "?"), callSignature table],
      node "property_signature"
        [modifiers propertyModifiers, part "name" (propertyName table), optionally (mark "?"),
          optionally (part "type" (annotatedType table))]]

-- The members of a type in braces, each with its end.
def typeBody (table : Table) (kind : String) : Reader Siblings :=
  node kind
    [mark "\x7b", many (sequence [typeMember table, either (mark ",") semicolon]), mark "\x7d"]

-- A type that no operator holds together.
def primaryType (table : Table) : Reader Siblings :=
  firstOf
    [node "parenthesized_type" [mark "(", table .type, mark ")"],
      predefinedType,
      literalType,
      wordNode "this_type" "this",
      typeQuery table,
      importedType table,
      typeBody table "object_type",
      node "tuple_type"
        [mark "[", looseList (tupleMember table), mark "]"],
      templateOf "template_literal_type" (substitution "template_type" (table .type)),
      namedType table,
      wordNode "const" "const",
      node "existential_type" [mark "*"]]

-- `T[]`, `T[K]`; the bracket stands on the same line.
def suffixedType (table : Table) : Reader Siblings :=
  growing (primaryType table) fun start base =>
    firstOf
      [nodeFrom start "array_type" base [sameLine, mark "[", mark "]"],
        nodeFrom start "lookup_type" base [sameLine, mark "[", table .type, mark "]"]]

-- `keyof T`, `readonly T[]`, `infer T`. Each word may be nested in the others.
def prefixedType (table : Table) : Nat → Reader Siblings
  | 0 => suffixedType table
  | depth + 1 =>
      firstOf
        [node "index_type_query" [word "keyof", prefixedType table depth],
          node "readonly_type" [word "readonly", prefixedType table depth],
          node "infer_type"
            [word "infer", anyWordAs "type_identifier",
              optionally (sequence
                [word "extends", prefixedType table depth, notAhead (mark "?")])],
          suffixedType table]

-- Operands with a mark between them, nested to the left. The mark may also come first.
def markedTypes (text kind : String) (operand : Reader Siblings) : Reader Siblings :=
  growing (either (node kind [mark text, operand]) operand) fun start base =>
    nodeFrom start kind base [mark text, operand]

def unionType (table : Table) : Reader Siblings :=
  markedTypes "|" "union_type" (markedTypes "&" "intersection_type" (prefixedType table 8))

def returnedType (table : Table) : Reader Siblings :=
  firstOf [assertion table, typePredicate table, table .type]

def functionType (table : Table) : Reader Siblings :=
  node "function_type"
    [optionally (part "type_parameters" (typeParameters table)),
      part "parameters" (formalParameters table), mark "=>",
      part "return_type" (returnedType table)]

def constructorType (table : Table) : Reader Siblings :=
  node "constructor_type"
    [optionally (word "abstract"), word "new",
      optionally (part "type_parameters" (typeParameters table)),
      part "parameters" (formalParameters table), mark "=>", part "type" (table .type)]

def typeExpression (table : Table) : Reader Siblings :=
  firstOf
    [functionType table,
      constructorType table,
      growing (unionType table) fun start base =>
        nodeFrom start "conditional_type" (withRole "left" base)
          [word "extends", part "right" (table .type), mark "?",
            part "consequence" (table .type), mark ":", part "alternative" (table .type)]]

end ContentForms.TypeScript
