import KnxExport.Path
import KnxExport.SystemError

/-!
# Trees of files

Files and directories as a value, without links, and the operations of a file system on it. A place
in the tree is the list of names that leads to it from the root. An operation finds the place that
its path names, on the way through directories that all have to exist, and changes nothing if it
fails. Only a write can fail when a part of it is there (`writePart`).
-/

namespace KnxExport

/-- The names that lead from the root to a place. -/
abbrev Place := List String

/-- Something that can be written to without being kept. -/
inductive Device where
  /-- It has no room. What is read from it never ends. -/
  | full
  /-- It takes everything. Nothing is read from it. -/
  | null
  deriving DecidableEq, Repr

/-- What is at a place. -/
inductive Entry where
  | file (bytes : List UInt8)
  | directory
  | device (device : Device)
  deriving DecidableEq, Repr

/-- A tree of files, in the order of their places. -/
structure FileTree where
  /-- The places with what is there. The root is a directory that is not listed. -/
  entries : List (Place × Entry)
  /-- Where relative paths begin. -/
  workingDir : Place
  deriving DecidableEq, Repr

namespace FileTree

/-- What is at a place. -/
def get? (tree : FileTree) (place : Place) : Option Entry :=
  if place = [] then some .directory else tree.entries.lookup place

/-- Entries with one more, which takes the place of one that was there. -/
def insertEntry (place : Place) (entry : Entry) : List (Place × Entry) → List (Place × Entry)
  | [] => [(place, entry)]
  | first :: rest =>
    if place = first.1 then (place, entry) :: rest
    else if place < first.1 then (place, entry) :: first :: rest
    else first :: insertEntry place entry rest

/-- The tree with the given entry at a place. -/
def set (tree : FileTree) (place : Place) (entry : Entry) : FileTree :=
  { tree with entries := insertEntry place entry tree.entries }

/-- The greatest number of bytes of a name. -/
def maxNameSize : Nat := 255

/-- The greatest number of bytes of a path. -/
def maxPathSize : Nat := 4095

/-- The place that a name leads to from a directory. -/
def follow (place : Place) (name : String) : Place :=
  if name = "." then place
  else if name = ".." then place.dropLast
  else place ++ [name]

/-- Goes from a directory into the one that a name leads to. -/
def enter (tree : FileTree) (place : Place) (name : String) : Except SystemError Place :=
  if maxNameSize < name.utf8ByteSize then .error .nameTooLong
  else
    match tree.get? (follow place name) with
    | some .directory => .ok (follow place name)
    | some _ => .error .notDirectory
    | none => .error .noEntry

/-- What a path names. -/
inductive Target where
  /-- A directory that exists, by a path that does not end in a name of its own. -/
  | directory (place : Place)
  /-- An entry, which may or may not exist, in a directory that does; with a slash after it or
  without. -/
  | entry (place : Place) (slash : Bool)
  deriving DecidableEq, Repr

/-- Finds what a path names. -/
def locate (tree : FileTree) (text : String) : Except SystemError Target := do
  let path := Path.ofText text
  let start := if path.absolute then [] else tree.workingDir
  if maxPathSize < text.utf8ByteSize then throw .nameTooLong
  match path.names.getLast? with
  | none => if path.absolute then return .directory start else throw .noEntry
  | some last =>
    let dir ← path.names.dropLast.foldlM tree.enter start
    if last = "." ∨ last = ".." then return .directory (follow dir last)
    else if maxNameSize < last.utf8ByteSize then throw .nameTooLong
    else return .entry (follow dir last) path.trailing

/-- Reads a file. -/
def read (tree : FileTree) (path : String) : Except SystemError (List UInt8) := do
  match ← tree.locate path with
  | .directory _ => throw .isDirectory
  | .entry place slash =>
    match tree.get? place with
    | none => throw .noEntry
    | some .directory => throw .isDirectory
    | some (.file bytes) => if slash then throw .notDirectory else return bytes
    | some (.device .null) => if slash then throw .notDirectory else return []
    | some (.device .full) => if slash then throw .notDirectory else throw .noMemory

/-- Opens a file for writing, empties it, and gives its place. A missing file is made. -/
def create (tree : FileTree) (path : String) : Except SystemError (Place × FileTree) := do
  match ← tree.locate path with
  | .directory _ => throw .isDirectory
  | .entry place slash =>
    if slash then throw .isDirectory
    match tree.get? place with
    | some .directory => throw .isDirectory
    | some (.device _) => return (place, tree)
    | some (.file _) | none => return (place, tree.set place (.file []))

/-- Why something has not been written as a whole. -/
inductive WriteFault where
  /-- It could not be opened. -/
  | opening (error : SystemError)
  /-- The piece with this index, counted from 0, could not be written. -/
  | piece (index : Nat) (error : SystemError)
  deriving DecidableEq, Repr

/-- Writes pieces one after the other to what has been opened at a place, up to the first one that
fails. There is always room in a file. -/
def append (tree : FileTree) (place : Place) (pieces : List (List UInt8)) :
    Except WriteFault Unit × FileTree :=
  match tree.get? place with
  | some (.file old) => (.ok (), tree.set place (.file (old ++ pieces.flatten)))
  | some (.device .null) => (.ok (), tree)
  | some (.device .full) =>
    match pieces.findIdx? (· ≠ []) with
    | some index => (.error (.piece index .noSpace), tree)
    | none => (.ok (), tree)
  | some .directory => (.error (.opening .isDirectory), tree)
  | none => (.error (.opening .noEntry), tree)

/-- Opens a file for writing and writes pieces to it. -/
def write (tree : FileTree) (path : String) (pieces : List (List UInt8)) :
    Except WriteFault Unit × FileTree :=
  match tree.create path with
  | .error error => (.error (.opening error), tree)
  | .ok (place, tree) => tree.append place pieces

/-- Opens a file for writing and writes pieces to it, until the one with the given index fails. Of
all that was to be written the first bytes are kept, in the given number. -/
def writePart (tree : FileTree) (path : String) (pieces : List (List UInt8)) (size index : Nat)
    (error : SystemError) : Except WriteFault Unit × FileTree :=
  match tree.create path with
  | .error error => (.error (.opening error), tree)
  | .ok (place, tree) =>
    (.error (.piece index error), (tree.append place [pieces.flatten.take size]).2)

/-- Makes a directory. -/
def makeDirectory (tree : FileTree) (path : String) : Except SystemError FileTree := do
  match ← tree.locate path with
  | .directory _ => throw .exists
  | .entry place _ =>
    match tree.get? place with
    | some _ => throw .exists
    | none => return tree.set place .directory

/-- A directory exists at the path. -/
def isDirectory (tree : FileTree) (path : String) : Bool :=
  match tree.locate path with
  | .ok (.directory _) => true
  | .ok (.entry place _) => tree.get? place = some .directory
  | .error _ => false

end FileTree

end KnxExport
