import ContentForms.OrderedMap
import ContentForms.Path
import ContentForms.Text.Quoted

namespace ContentForms

-- The names from the root down to a place.
abbrev Location := List String

inductive Entry where
  | directory
  | file (bytes : List UInt8)
  deriving DecidableEq, Repr

structure Files where
  entries : OrderedMap Location Entry
  -- Where paths without a leading slash start.
  home : Location

namespace Files

inductive Fault where
  | notFound | present | notDirectory | isDirectory | nullByte
  deriving DecidableEq, Repr

structure Failure where
  fault : Fault
  path : Path
  deriving DecidableEq, Repr

namespace Fault

-- The number that systems give the fault, and its wording.
def described : Fault → Option (Nat × String)
  | notFound => some (2, "No such file or directory")
  | present => some (17, "File exists")
  | notDirectory => some (20, "Not a directory")
  | isDirectory => some (21, "Is a directory")
  | nullByte => none

end Fault

def Failure.message (failure : Failure) : String :=
  match failure.fault.described with
  | some (number, text) =>
      "[Errno " ++ toString number ++ "] " ++ text ++ ": " ++ Text.quoted failure.path.toString
  | none => "embedded null byte"

def new (home : Location) : Files :=
  ⟨OrderedMap.ofList ((List.range home.length).map fun depth =>
    (home.take (depth + 1), .directory)), home⟩

-- What is at a place. The root is always there.
def entryAt (files : Files) (place : Location) : Option Entry :=
  if place = [] then some .directory else files.entries.get? place

def put (files : Files) (place : Location) (entry : Entry) : Files :=
  { files with entries := files.entries.insert place entry }

theorem entryAt_put (files : Files) (place other : Location) (entry : Entry) (h : place ≠ []) :
    (files.put place entry).entryAt other =
      if other = place then some entry else files.entryAt other := by
  by_cases ho : other = []
  · have hn : ¬ other = place := fun e => h (e ▸ ho)
    simp [entryAt, ho, ho ▸ hn]
  · simp [entryAt, put, OrderedMap.get?_insert, ho]

-- One name further; above the root is the root.
def step (place : Location) (name : String) : Location :=
  if name = ".." then place.dropLast else place ++ [name]

-- Follows names from a place. Every place that is left has to be a directory.
def walk (files : Files) (place : Location) : List String → Except Fault Location
  | [] => .ok place
  | name :: rest =>
      match files.entryAt place with
      | none => .error .notFound
      | some (.file _) => .error .notDirectory
      | some .directory => files.walk (step place name) rest

def start (files : Files) (path : Path) : Location := if path.slashes = 0 then files.home else []

-- The place that a path names, whether something is there or not.
def place (files : Files) (path : Path) : Except Fault Location :=
  if path.hasNull then .error .nullByte else files.walk (files.start path) path.parts

def isDirectory (files : Files) (path : Path) : Bool :=
  match files.place path with
  | .ok place => files.entryAt place == some .directory
  | .error _ => false

def read (files : Files) (path : Path) : Except Fault (List UInt8) := do
  match files.entryAt (← files.place path) with
  | none => .error .notFound
  | some .directory => .error .isDirectory
  | some (.file bytes) => .ok bytes

-- Puts bytes into the file at a path. Its directory has to be there, the file need not.
def write (files : Files) (path : Path) (bytes : List UInt8) : Except Fault Files := do
  let place ← files.place path
  if files.entryAt place = some .directory then .error .isDirectory
  else return files.put place (.file bytes)

-- Makes one directory, in one that is there.
def makeDirectory (files : Files) (path : Path) : Except Fault Files := do
  let place ← files.place path
  if (files.entryAt place).isSome then .error .present
  else return files.put place .directory

-- A directory that is there already is as good as a new one.
def settle (files : Files) (path : Path) (fault : Fault) : Except Failure Unit × Files :=
  if fault ≠ .nullByte ∧ files.isDirectory path then (.ok (), files)
  else (.error ⟨fault, path⟩, files)

-- At most so many directories above the path are made too.
def makeDirectoriesUpTo (files : Files) (path : Path) : Nat → Except Failure Unit × Files
  | 0 =>
      match files.makeDirectory path with
      | .ok made => (.ok (), made)
      | .error fault => files.settle path fault
  | depth + 1 =>
      match files.makeDirectory path with
      | .ok made => (.ok (), made)
      | .error .notFound =>
          match files.makeDirectoriesUpTo path.parent depth with
          | (.error failure, left) => (.error failure, left)
          | (.ok (), ready) =>
              match ready.makeDirectory path with
              | .ok made => (.ok (), made)
              | .error fault => ready.settle path fault
      | .error fault => files.settle path fault

-- Makes a directory and those above it. Those made before a failure stay.
def makeDirectories (files : Files) (path : Path) : Except Failure Unit × Files :=
  files.makeDirectoriesUpTo path path.parts.length

def delete (files : Files) (path : Path) : Files :=
  match files.place path with
  | .error _ => files
  | .ok place =>
      { files with
        entries := files.entries.keys.foldl
          (fun entries key => if place.isPrefixOf key then entries.erase key else entries)
          files.entries }

-- The paths of all files below the directory that relative paths start in.
def listed (files : Files) : List String :=
  let names := files.entries.entries.filterMap fun (place, entry) =>
    match entry with
    | .directory => none
    | .file _ =>
        if files.home.isPrefixOf place
        then some (Text.joined "/" (place.drop files.home.length)) else none
  names.mergeSort fun a b => !decide (b < a)

end Files

end ContentForms
