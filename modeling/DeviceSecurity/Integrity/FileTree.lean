/-!
# File trees

A tree of files, directories and symbolic links, as far as the existence of paths goes. Paths start
at the root, but may climb above it, where a directory stands on every level. Links lead nowhere: a
path that ends in one exists, a path through one does not.

A path is the list of the names between its slashes. Empty names and dots make no step, but they ask
for a directory.
-/

namespace DeviceSecurity

/-- What stands at a place of a tree. -/
inductive FileKind where
  | file
  | directory
  /-- A symbolic link whose target does not exist. -/
  | link
deriving DecidableEq, Repr

/-- A place in a tree: a number of levels above the root, and names from there. -/
structure FilePlace where
  above : Nat := 0
  names : List String := []
deriving DecidableEq, Repr

namespace FilePlace

/-- The place that a directory stands at. -/
def parent (p : FilePlace) : FilePlace :=
  if p.names = [] then ⟨p.above + 1, []⟩ else ⟨p.above, p.names.dropLast⟩

/-- The place of a name in a directory. -/
def child (p : FilePlace) (name : String) : FilePlace := ⟨p.above, p.names ++ [name]⟩

end FilePlace

/-- The places of a tree at which something stands. -/
structure FileTree where
  places : List (FilePlace × FileKind) := []
deriving DecidableEq, Repr

/-- Why a path leads nowhere, or why nothing can be made there. -/
inductive PathFault where
  /-- A directory on the way does not exist. -/
  | missing
  /-- Something stands there already. -/
  | occupied
  /-- No directory could make it lead anywhere. -/
  | impossible
deriving DecidableEq, Repr

/-! ## Paths -/

/-- The names between the slashes of a path. -/
abbrev PathNames := List String

namespace PathNames

/-- The names of a path, whose first slashes do not count. -/
def ofText (path : String) : PathNames :=
  (String.ofList (path.toList.dropWhile (· == '/'))).splitOn "/"

/-- The most bytes of a name. -/
def maxNameSize : Nat := 255

/-- The size from which on a path, with that of the root, is too long. -/
def sizeLimit : Nat := 4096

/-- The number of bytes of the path of the root. -/
def rootSize : Nat := 15

/-- Whether the system takes a path. -/
def isUsable (path : PathNames) : Bool :=
  rootSize + 1 + ("/".intercalate path).utf8ByteSize < sizeLimit &&
    path.all fun name => !name.toList.contains '\x00'

/-- A path without its last names that satisfy `p`. -/
def dropEndWhile (p : String → Bool) (path : PathNames) : PathNames :=
  (path.reverse.dropWhile p).reverse

/-- A path without the names at its end that make no step. -/
def stepping (path : PathNames) : PathNames :=
  dropEndWhile (fun name => name == "" || name == ".") path

/-- The path before the last step. -/
def parent (path : PathNames) : PathNames := stepping (stepping path).dropLast

end PathNames

namespace FileTree

/-- What stands at a place. -/
def kind? (t : FileTree) (place : FilePlace) : Option FileKind :=
  if place.names = [] then some .directory else t.places.lookup place

/-- One step from a place; a step is only possible from a directory. -/
def step (t : FileTree) (place : FilePlace) (name : String) : Except PathFault FilePlace :=
  match t.kind? place with
  | none => .error .missing
  | some .link => .error .missing
  | some .file => .error .impossible
  | some .directory =>
    if name = "" ∨ name = "." then .ok place
    else if name = ".." then .ok place.parent
    else if PathNames.maxNameSize < name.utf8ByteSize then .error .impossible
    else .ok (place.child name)

/-- The place that a path leads to, if all but its last step can be made. -/
def resolve (t : FileTree) (path : PathNames) : Except PathFault FilePlace :=
  if path.isUsable then path.foldlM t.step {} else .error .impossible

/-- What stands where a path leads. -/
def kindAt? (t : FileTree) (path : PathNames) : Option FileKind :=
  match t.resolve path with
  | .ok place => t.kind? place
  | .error _ => none

/-- Whether something stands where a path leads. -/
def contains (t : FileTree) (path : String) : Bool := (t.kindAt? (PathNames.ofText path)).isSome

/-! ## Planting -/

/-- Puts something where a path leads, if nothing stands there. -/
def add (t : FileTree) (path : PathNames) (kind : FileKind) : Except PathFault FileTree := do
  let place ← t.resolve path
  if (t.kind? place).isSome then throw .occupied
  return ⟨t.places ++ [(place, kind)]⟩

/-- Makes a directory. Slashes may end its path. -/
def addDirectory (t : FileTree) (path : PathNames) : Except PathFault FileTree :=
  if path.isUsable then t.add (PathNames.dropEndWhile (· == "") path) .directory
  else .error .impossible

/-- Makes a directory and those that lead to it, and tells whether it is there afterwards. At most
`fuel` directories are made before it. -/
def addDirectoriesUpTo : (fuel : Nat) → FileTree → PathNames → FileTree × Bool
  | fuel, t, path =>
    match t.addDirectory path, fuel with
    | .ok made, _ => (made, true)
    | .error .missing, fuel + 1 =>
      let (t, ready) := addDirectoriesUpTo fuel t path.parent
      if !ready then (t, false)
      else
        match t.addDirectory path with
        | .ok made => (made, true)
        | .error _ => (t, t.kindAt? path == some .directory)
    | .error _, _ => (t, t.kindAt? path == some .directory)

/-- Makes a directory and those that lead to it, as far as it goes, and tells whether it is there
afterwards. -/
def addDirectories (t : FileTree) (path : PathNames) : FileTree × Bool :=
  addDirectoriesUpTo path.length t path

/-- Puts something at a path, with the directories that lead there. What cannot be made leaves the
directories made on the way. -/
def plant (t : FileTree) (path : String) (kind : FileKind) : FileTree :=
  let path := PathNames.ofText path
  let (t, ready) := t.addDirectories path.parent
  if !ready then t
  else if kind = .directory then (t.addDirectories path).1
  else (t.add path kind).toOption.getD t

end FileTree

end DeviceSecurity
