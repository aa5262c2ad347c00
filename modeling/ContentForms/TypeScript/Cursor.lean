import ContentForms.Syntax.Node

namespace ContentForms.TypeScript

open Syntax

-- A place in a source text: what is still to be read, and where that starts.
structure Cursor where
  rest : List Char
  -- How many characters are left.
  left : Nat
  -- The byte that comes next.
  offset : Nat
  -- The line that comes next, counted from zero.
  row : Nat

namespace Cursor

def ofChars (text : List Char) : Cursor := ⟨text, text.length, 0, 0⟩

-- Past one character. Only a line feed ends a line.
def past (cursor : Cursor) (c : Char) (rest : List Char) : Cursor :=
  ⟨rest, cursor.left - 1, cursor.offset + c.utf8Size,
    if c = '\n' then cursor.row + 1 else cursor.row⟩

def skip (cursor : Cursor) : Nat → Cursor
  | 0 => cursor
  | count + 1 =>
      match cursor.rest with
      | [] => cursor
      | c :: rest => (cursor.past c rest).skip count

def textTo (start stop : Cursor) : String :=
  String.ofList (start.rest.take (start.left - stop.left))

def nodeTo (start stop : Cursor) (kind : String) (named : Bool) (children : List Node) : Node :=
  { kind := kind, named := named, text := some (start.textTo stop), row := start.row,
    offset := start.offset, children := children }

end Cursor

-- A reader of the grammar: from a cursor to what it finds there and the cursor after it.
abbrev Reader := StateT Cursor Option

-- A run of sibling nodes: the node that a reader finds, after the comments before it.
abbrev Siblings := List Node

end ContentForms.TypeScript
