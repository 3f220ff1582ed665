import SpanSearch.Time.Instant

/-! What a command needs of the world around it: files by their paths, and the time. -/

namespace SpanSearch

/-- What is found at a path. -/
inductive Found where
  | nothing
  /-- Something that is no readable file, such as a directory. -/
  | unreadable
  /-- A file whose bytes are no text. -/
  | bytes
  | text (text : String)

/-- The files and the clock, as seen by a program that runs in `m`. -/
structure Access (m : Type → Type) where
  read : String → m Found
  /-- Replaces a file, and tells whether that worked. -/
  write : String → String → m Bool
  now : m Instant

/-- A tree of files in memory: the directories, and the texts of the files. -/
structure Files where
  directories : List String
  texts : List (String × String) := []

namespace Files

/-- The path of the names that lead from the root to a place, latest first. -/
def pathOf (place : List String) : String :=
  "/" ++ "/".intercalate place.reverse

/-- Whether a path leads to a directory: one that is listed, or one with a file somewhere in it. -/
def isDirectory (f : Files) (path : String) : Bool :=
  f.directories.contains path ||
    f.texts.any fun (other, _) => (path.toList ++ ['/']).isPrefixOf other.toList

/-- The greatest length of a name, in bytes. -/
def longestName : Nat := 255

/-- The greatest length of a path, in bytes. -/
def longestPath : Nat := 4095

/-- One step along a path, which starts in a directory: no name or a dot alone stays there, and two dots lead
to the directory around it. -/
def step? (f : Files) (place : List String) (name : String) : Option (List String) :=
  if !f.isDirectory (pathOf place) || longestName < name.utf8ByteSize then none
  else if name == "" || name == "." then some place
  else if name == ".." then some place.tail
  else some (name :: place)

/-- The shortest path to the same place; what it leads to is in a directory, but need not be there. -/
def resolve? (f : Files) (path : String) : Option String :=
  if longestPath < path.utf8ByteSize then none
  else (((path.toList.splitOn '/').map String.ofList).foldlM f.step? []).map pathOf

/-- What is at a path. -/
def found (f : Files) (path : String) : Found :=
  match f.resolve? path with
  | none => .nothing
  | some path =>
    match f.texts.lookup path with
    | some text => .text text
    | none => if f.isDirectory path then .unreadable else .nothing

/-- The files with one of them replaced, if its path leads anywhere but to a directory. -/
def replace? (f : Files) (path text : String) : Option Files := do
  let path ← f.resolve? path
  if f.isDirectory path then none
  else some { f with texts := (path, text) :: f.texts.filter (·.1 != path) }

/-- Access to files in memory, at a time that stands still. -/
def access (now : Instant) : Access (StateM Files) where
  read path := return (← get).found path
  write path text := do
    match (← get).replace? path text with
    | some f =>
      set f
      return true
    | none => return false
  now := return now

end Files
end SpanSearch
