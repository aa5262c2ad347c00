import ContentForms.TypeScript.Expression

namespace ContentForms.TypeScript

open Syntax

def variableDeclarator (table : Table) : Reader Siblings :=
  node "variable_declarator"
    [part "name" (table .binding), optionally (mark "!"),
      optionally (part "type" (annotatedType table)), optionally (initializer table)]

def lexicalDeclaration (table : Table) : Reader Siblings :=
  node "lexical_declaration"
    [part "kind" (either (word "const") (word "let")),
      separatedBy (mark ",") (variableDeclarator table), semicolon]

def variableDeclaration (table : Table) : Reader Siblings :=
  node "variable_declaration"
    [word "var", separatedBy (mark ",") (variableDeclarator table), semicolon]

def enumDeclaration (table : Table) : Reader Siblings :=
  node "enum_declaration"
    [optionally (word "const"), word "enum", part "name" identifier,
      part "body" (node "enum_body"
        [mark "\x7b",
          looseList (either
            (node "enum_assignment" [part "name" (propertyName table), initializer table])
            (part "name" (propertyName table))),
          mark "\x7d"])]

def interfaceDeclaration (table : Table) : Reader Siblings :=
  node "interface_declaration"
    [word "interface", part "name" (nameAs "type_identifier"),
      optionally (part "type_parameters" (typeParameters table)),
      optionally (node "extends_type_clause"
        [word "extends", separatedBy (mark ",") (part "type" (table .type))]),
      part "body" (typeBody table "interface_body")]

def typeAlias (table : Table) : Reader Siblings :=
  node "type_alias_declaration"
    [word "type", part "name" (nameAs "type_identifier"),
      optionally (part "type_parameters" (typeParameters table)), mark "=",
      part "value" (table .type), semicolon]

-- `namespace a.b { }` and `module 'a' { }`.
def moduleDeclaration (table : Table) : Reader Siblings :=
  either
    (node "expression_statement"
      [node "internal_module"
        [word "namespace", sameLine, part "name" (either stringLiteral moduleName), body table],
        optionally (mark ";")])
    (node "module"
      [word "module", sameLine, part "name" (either stringLiteral moduleName),
        either (body table) semicolon])

def importAlias : Reader Siblings :=
  node "import_alias" [word "import", identifier, mark "=", moduleName, semicolon]

def declaration (table : Table) : Reader Siblings :=
  firstOf
    [enumDeclaration table, lexicalDeclaration table, variableDeclaration table,
      functionDeclaration table, classDeclaration table, interfaceDeclaration table,
      typeAlias table, moduleDeclaration table, importAlias]

-- `declare` before a declaration, or before what belongs to every module.
def ambientDeclaration (table : Table) : Reader Siblings :=
  node "ambient_declaration"
    [word "declare", sameLine,
      firstOf
        [declaration table,
          sequence [word "global", statementBlock table],
          sequence
            [word "module", mark ".", anyWordAs "property_identifier", mark ":", table .type,
              semicolon]]]

def anyDeclaration (table : Table) : Reader Siblings :=
  either (ambientDeclaration table) (declaration table)

def specifierName : Reader Siblings := either (anyWordAs "identifier") stringLiteral

-- An item of an import or an export, with another name for it or not.
def specifier (kind : String) : Reader Siblings :=
  let typed := either (word "type") (word "typeof")
  let renamed := sequence
    [part "name" specifierName, word "as", part "alias" specifierName]
  let ended := ahead (either (mark ",") (mark "\x7d"))
  firstOf
    [node kind [typed, renamed, ended], node kind [typed, part "name" specifierName, ended],
      node kind [renamed, ended], node kind [part "name" specifierName, ended]]

def namedImports : Reader Siblings :=
  node "named_imports" [mark "\x7b", looseList (specifier "import_specifier"), mark "\x7d"]

def namespaceImport : Reader Siblings :=
  node "namespace_import" [mark "*", word "as", identifier]

def importClause : Reader Siblings :=
  let items := either namespaceImport namedImports
  node "import_clause"
    [either items (sequence [identifier, optionally (sequence [mark ",", items])])]

def fromClause : Reader Siblings := sequence [word "from", part "source" stringLiteral]

def importAttributes (table : Table) : Reader Siblings :=
  optionally (node "import_attribute"
    [either (word "with") (sequence [sameLine, word "assert"]), objectLiteral table])

def importStatement (table : Table) : Reader Siblings :=
  let typed := either (word "type") (word "typeof")
  let required := node "import_require_clause"
    [identifier, mark "=", word "require", mark "(", part "source" stringLiteral, mark ")"]
  node "import_statement"
    [word "import",
      firstOf
        [sequence [typed, importClause, fromClause], sequence [importClause, fromClause],
          sequence [typed, required], required, part "source" stringLiteral],
      importAttributes table, semicolon]

def exportClause : Reader Siblings :=
  node "export_clause" [mark "\x7b", looseList (specifier "export_specifier"), mark "\x7d"]

def exportStatement (table : Table) : Reader Siblings :=
  let defaults := firstOf
    [part "declaration" (firstOf
      [functionDeclaration table, classDeclaration table, interfaceDeclaration table]),
      sequence [part "value" (expressions table), semicolon]]
  let everything := either
    (node "namespace_export" [mark "*", word "as", specifierName]) (mark "*")
  firstOf
    [node "export_statement"
      [decorators table, word "export",
        either (sequence [word "default", defaults]) (part "declaration" (anyDeclaration table))],
      node "export_statement"
        [word "export", optionally (word "type"),
          firstOf
            [sequence [everything, fromClause], sequence [exportClause, fromClause],
              exportClause],
          importAttributes table, semicolon],
      node "export_statement" [word "export", mark "=", expressions table, semicolon],
      node "export_statement"
        [word "export", word "as", word "namespace", identifier, semicolon],
      node "export_statement" [word "export", importStatement table]]

def expressionStatement (table : Table) : Reader Siblings :=
  node "expression_statement"
    [notAhead (firstOf
        [mark "\x7b", word "function", word "class", wordIsAhead statementWords]),
      expressions table, semicolon]

def ifStatement (table : Table) : Reader Siblings :=
  node "if_statement"
    [word "if", part "condition" (parenthesized table), part "consequence" (table .statement),
      optionally (part "alternative" (node "else_clause" [word "else", table .statement]))]

-- `for` over the members of a value.
def forInStatement (table : Table) : Reader Siblings :=
  node "for_in_statement"
    [word "for", optionally (word "await"), mark "(",
      either
        (sequence
          [part "kind" (firstOf [word "const", word "let", word "var"]),
            part "left" (table .binding), optionally (initializer table)])
        (part "left" (table .target)),
      part "operator" (either (word "in") (word "of")), part "right" (expressions table),
      mark ")", part "body" (table .statement)]

-- `for` with a start, a condition and a step.
def forStatement (table : Table) : Reader Siblings :=
  let clause := either
    (node "expression_statement" [expressions table, mark ";"]) (node "empty_statement" [mark ";"])
  node "for_statement"
    [word "for", mark "(",
      part "initializer" (firstOf [lexicalDeclaration table, variableDeclaration table, clause]),
      part "condition" clause, optionally (part "increment" (expressions table)), mark ")",
      part "body" (table .statement)]

def doStatement (table : Table) : Reader Siblings :=
  node "do_statement"
    [word "do", part "body" (table .statement), word "while",
      part "condition" (parenthesized table), optionally (mark ";")]

def tryStatement (table : Table) : Reader Siblings :=
  node "try_statement"
    [word "try", body table,
      optionally (part "handler" (node "catch_clause"
        [word "catch",
          optionally (sequence
            [mark "(", part "parameter" (table .binding),
              optionally (part "type" (annotatedType table)), mark ")"]),
          body table])),
      optionally (part "finalizer" (node "finally_clause" [word "finally", body table]))]

def switchStatement (table : Table) : Reader Siblings :=
  let statements := many (sequence
    [notAhead (firstOf [word "case", sequence [word "default", mark ":"]]),
      part "body" (table .statement)])
  node "switch_statement"
    [word "switch", part "value" (parenthesized table),
      part "body" (node "switch_body"
        [mark "\x7b",
          many (either
            (node "switch_case"
              [word "case", part "value" (expressions table), mark ":", statements])
            (node "switch_default" [word "default", mark ":", statements])),
          mark "\x7d"])]

-- `break` and `continue`, with a label or without.
def jump (kind text : String) : Reader Siblings :=
  node kind
    [word text,
      optionally (sequence [sameLine, part "label" (nameAs "statement_identifier")]), semicolon]

def anyStatement (table : Table) : Reader Siblings :=
  firstOf
    [exportStatement table,
      importStatement table,
      anyDeclaration table,
      statementBlock table,
      node "empty_statement" [mark ";"],
      ifStatement table,
      forInStatement table,
      forStatement table,
      node "while_statement"
        [word "while", part "condition" (parenthesized table), part "body" (table .statement)],
      doStatement table,
      tryStatement table,
      switchStatement table,
      node "with_statement"
        [word "with", part "object" (parenthesized table), part "body" (table .statement)],
      jump "break_statement" "break",
      jump "continue_statement" "continue",
      node "debugger_statement" [word "debugger", semicolon],
      node "return_statement"
        [word "return", optionally (sequence [sameLine, expressions table]), semicolon],
      node "throw_statement" [word "throw", expressions table, semicolon],
      node "labeled_statement"
        [part "label" (nameAs "statement_identifier"), mark ":", part "body" (table .statement)],
      expressionStatement table]

end ContentForms.TypeScript
