import ContentForms.Text.Basic

namespace ContentForms

-- A path starts with no slash, with one, or with two, which are not the same place.
structure Path where
  slashes : Nat
  parts : List String
  deriving DecidableEq, Inhabited, Repr

namespace Path

-- Three or more leading slashes are one.
def leadingSlashes (text : String) : Nat :=
  let count := (text.toList.takeWhile (· == '/')).length
  if count ≤ 2 then count else 1

def pieces : List Char → List (List Char)
  | [] => [[]]
  | c :: rest =>
      if c = '/' then [] :: pieces rest
      else match pieces rest with
        | [] => [[c]]
        | piece :: more => (c :: piece) :: more

-- Two dots stay, since what they mean depends on the files.
def ofString (text : String) : Path :=
  ⟨leadingSlashes text,
    ((pieces text.toList).map String.ofList).filter fun part => part ≠ "" ∧ part ≠ "."⟩

-- The empty path is the directory one is in.
def toString (path : Path) : String :=
  if path.slashes = 0 ∧ path.parts = [] then "."
  else String.ofList (List.replicate path.slashes '/') ++ Text.joined "/" path.parts

instance : ToString Path := ⟨toString⟩

-- A path read from the place of another; an absolute one stays as it is.
def join (base path : Path) : Path :=
  if path.slashes = 0 then ⟨base.slashes, base.parts ++ path.parts⟩ else path

def parent (path : Path) : Path := ⟨path.slashes, path.parts.dropLast⟩

-- No file can have such a path.
def hasNull (path : Path) : Bool := path.parts.any fun part => part.toList.contains '\x00'

end Path

end ContentForms
