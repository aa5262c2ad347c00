import ContentForms.Generated.Literal
import ContentForms.Schema
import ContentForms.Text.Basic
import ContentForms.Text.Capital

namespace ContentForms.Generated

open Text (capitalizeFirst joined)

def label (name : String) : String := quote (capitalizeFirst name)

-- `{ label: 'Title', optional: true }`
def fieldOptions (name : String) (field : Field) : String :=
  "\x7b label: " ++ label name ++ (if field.optional then ", optional: true" else "") ++ " \x7d"

-- A field of unknown type is edited as a text.
def renderField (name : String) (field : Field) : String :=
  let options := fieldOptions name field
  match field.type with
  | .text | .unknown => "fields.text(" ++ options ++ ")"
  | .number => "fields.number(" ++ options ++ ")"
  | .boolean => "fields.checkbox(" ++ options ++ ")"
  | .date => "fields.date(" ++ options ++ ")"
  | .array => "fields.array(fields.text(\x7b label: 'Item' \x7d), " ++ options ++ ")"

def renderEntry (entry : String × Field) : String :=
  entry.1 ++ ": " ++ renderField entry.1 entry.2

def renderSchema (fields : List (String × Field)) : String :=
  if fields.isEmpty then "\x7b\x7d"
  else "\x7b " ++ joined ", " (fields.map renderEntry) ++ " \x7d"

def renderCollection (name : String) (collection : Collection) : String :=
  "collection(" ++ label name ++ ", \x7b schema: " ++ renderSchema collection.fields.entries
    ++ " \x7d)"

def headLines : List String :=
  ["// @ts-nocheck",
    "// This file is automatically generated. Do not modify it manually.",
    "",
    "import \x7b collection, fields \x7d from '@keystatic/core';",
    ""]

def exportLine : String := "export const generatedCollections = \x7b"

def collectionLine (entry : String × Collection) : String :=
  "  " ++ entry.1 ++ ": " ++ renderCollection entry.1 entry.2 ++ ","

def bodyLines (collections : List (String × Collection)) : List String :=
  if collections.isEmpty then [exportLine ++ "\x7d;"]
  else exportLine :: collections.map collectionLine ++ ["\x7d;"]

def lines (config : Config) : List String := headLines ++ bodyLines config.collections.entries

-- The text of the generated module. Every line ends with a line feed.
def render (config : Config) : String := joined "\n" (lines config) ++ "\n"

end ContentForms.Generated
