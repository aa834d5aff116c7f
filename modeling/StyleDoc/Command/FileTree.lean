import StyleDoc.Command.Workspace

/-!
# File trees

Files and directories in memory, by the names on the way to them from the root, and the workspace
that such a tree makes. Names are bytes; a tree can also be given, and shown, by the texts of its
names.
-/

namespace StyleDoc

open Text

structure FileTree (Name : Type := String) where
  /-- The directory that relative paths start from. -/
  home : List Name
  directories : List (List Name)
  files : List (List Name × ByteArray)

namespace FileTree

/-- The tree of the names that texts spell. -/
def ofTexts (tree : FileTree) : FileTree FileName :=
  ⟨tree.home.map bytes, tree.directories.map (·.map bytes),
    tree.files.map fun file => (file.1.map bytes, file.2)⟩

def file? (tree : FileTree FileName) (location : List FileName) : Option ByteArray :=
  tree.files.lookup location

/-- The root is always there, and so is a directory with something in it. -/
def hasDirectory (tree : FileTree FileName) (location : List FileName) : Bool :=
  location.isPrefixOf tree.home || tree.directories.any (location.isPrefixOf ·) ||
    tree.files.any fun file => location.isPrefixOf file.1.dropLast

/-- Follows the pieces of a path from a location. Every step needs a directory to start from. -/
def walk (tree : FileTree FileName) (location : List FileName) :
    List FileName → Except FileError (List FileName)
  | [] => .ok location
  | piece :: pieces =>
    if tree.hasDirectory location then
      if piece = [] ∨ piece = Path.hereName then walk tree location pieces
      else if piece = Path.aboveName then walk tree location.dropLast pieces
      else walk tree (location ++ [piece]) pieces
    else .error (if (tree.file? location).isSome then .notDirectory else .notFound)

/-- The location that a path leads to, whether or not there is something. -/
def locate (tree : FileTree FileName) (path : Path) : Except FileError (List FileName) :=
  match path.bytes with
  | [] => .error .notFound
  | first :: rest =>
    if first = Path.slash then tree.walk [] (split Path.slash rest)
    else tree.walk tree.home (split Path.slash (first :: rest))

def isFile (tree : FileTree FileName) (path : Path) : Bool :=
  (tree.locate path).toOption.any fun location => (tree.file? location).isSome

def isDirectory (tree : FileTree FileName) (path : Path) : Bool :=
  (tree.locate path).toOption.any tree.hasDirectory

/-- The locations of all files and directories below a location, each by the names from there. -/
def below (tree : FileTree FileName) (location : List FileName) : List (List FileName) :=
  let all := tree.home :: tree.directories ++ tree.files.map (·.1)
  let ends := (all.filter (location.isPrefixOf ·)).map (·.drop location.length)
  let starts := ends.flatMap fun names =>
    (List.range names.length).map fun last => names.take (last + 1)
  starts.eraseDups

/-- The names in a directory. -/
def entries (tree : FileTree FileName) (path : Path) : Except FileError (List FileName) := do
  let location ← tree.locate path
  if tree.hasDirectory location then
    return (tree.below location).filterMap fun names =>
      if names.length = 1 then names.head? else none
  else throw .notDirectory

def descendants (tree : FileTree FileName) (path : Path) : List (List FileName) :=
  match tree.locate path with
  | .error _ => []
  | .ok location => if tree.hasDirectory location then tree.below location else []

def read (tree : FileTree FileName) (path : Path) : Except FileError String := do
  let location ← tree.locate path
  match tree.file? location with
  | some content => (String.fromUTF8? content).elim (.error .notText) .ok
  | none => throw (if tree.hasDirectory location then .isDirectory else .notFound)

/-- The tree with a file of this content. -/
def putFile (tree : FileTree FileName) (location : List FileName) (content : ByteArray) :
    FileTree FileName :=
  { tree with files := (location, content) :: tree.files.filter (·.1 ≠ location) }

def write (tree : FileTree FileName) (path : Path) (content : String) :
    Except FileError (FileTree FileName) := do
  let location ← tree.locate path
  if tree.hasDirectory location then throw .isDirectory
  return tree.putFile location content.toUTF8

/-- The tree with one more directory, which must not be there yet. -/
def makeDirectory (tree : FileTree FileName) (path : Path) :
    Except FileError (FileTree FileName) := do
  let location ← tree.locate path
  if tree.hasDirectory location || (tree.file? location).isSome then throw .alreadyThere
  return { tree with directories := location :: tree.directories }

def sameContent (first second : ByteArray) : Bool :=
  first.data.toList.map UInt8.toNat == second.data.toList.map UInt8.toNat

/-- The files below the home directory that are not in `earlier` with the same content, by the texts
of their names. -/
def changedSince (tree : FileTree FileName) (earlier : FileTree) : List (List String × ByteArray) :=
  (tree.files.filter fun file => tree.home.isPrefixOf file.1 &&
    !(earlier.ofTexts.file? file.1).any (sameContent file.2)).map
      fun file => ((file.1.drop tree.home.length).map lossy, file.2)

end FileTree

/-- A run in memory: the tree, the input, and what has been printed and reported. -/
structure Simulation where
  tree : FileTree FileName
  input : ByteArray
  printed : String
  reports : List String

namespace Simulation

def start (tree : FileTree) (input : ByteArray) : Simulation := ⟨tree.ofTexts, input, "", []⟩

/-- Replaces the tree by the result of an action on it. -/
def change (action : FileTree FileName → Except FileError (FileTree FileName)) :
    StateM Simulation (Except FileError Unit) := do
  match action (← get).tree with
  | .error error => return .error error
  | .ok tree =>
    modify ({ · with tree := tree })
    return .ok ()

/-- The workspace of a simulation. -/
def workspace : Workspace (StateM Simulation) where
  isFile path := return (← get).tree.isFile path
  isDirectory path := return (← get).tree.isDirectory path
  entries path := return (← get).tree.entries path
  descendants path := return (← get).tree.descendants path
  read path := return (← get).tree.read path
  write path content := change (·.write path content)
  makeDirectory path := change (·.makeDirectory path)
  input := return (String.fromUTF8? (← get).input).elim (.error .notText) .ok
  print text := modify fun simulation => { simulation with printed := simulation.printed ++ text }
  report line := modify fun simulation =>
    { simulation with reports := simulation.reports ++ [line] }

end Simulation

end StyleDoc
