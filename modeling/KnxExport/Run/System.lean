import KnxExport.Run.Fault

/-!
# What a run needs of the system

A run is written over these operations. They are given by the real system, and by a tree of files
as a value: one where all goes well that can (`treeSystem`), and one where anything may go wrong
(`fallibleSystem`).
-/

namespace KnxExport.Run

/-- The operations of a system. -/
structure System (m : Type → Type) where
  /-- Reads a file. -/
  read : String → m (Except SystemError (List UInt8))
  /-- Opens a file for writing, which empties or makes it, and writes pieces to it one after the
  other; or only writes them, to the terminal. -/
  write : Sink → List (List UInt8) → m (Except FileTree.WriteFault Unit)
  /-- Makes a directory. -/
  makeDirectory : String → m (Except SystemError Unit)
  /-- A directory exists at the path. -/
  isDirectory : String → m Bool
  /-- Tells the user something that is no result. -/
  report : String → m Unit

/-- A tree of files with what has been shown so far. -/
structure Session where
  tree : FileTree
  /-- The results that the terminal shows. -/
  shown : List UInt8 := []
  /-- What the user has been told apart from results. -/
  reported : String := ""
  deriving DecidableEq, Repr

namespace Session

/-- Writes to a sink. The terminal takes everything. -/
def write (session : Session) (sink : Sink) (pieces : List (List UInt8)) :
    Except FileTree.WriteFault Unit × Session :=
  match sink with
  | .terminal => (.ok (), { session with shown := session.shown ++ pieces.flatten })
  | .file path =>
    let (result, tree) := session.tree.write path pieces
    (result, { session with tree })

/-- Makes a directory. -/
def makeDirectory (session : Session) (path : String) : Except SystemError Unit × Session :=
  match session.tree.makeDirectory path with
  | .error error => (.error error, session)
  | .ok tree => (.ok (), { session with tree })

end Session

/-- The operations on a tree of files. -/
def treeSystem : System (StateM Session) where
  read path := fun session => (session.tree.read path, session)
  write sink pieces := fun session => session.write sink pieces
  makeDirectory path := fun session => session.makeDirectory path
  isDirectory path := fun session => (session.tree.isDirectory path, session)
  report text := fun session => ((), { session with reported := session.reported ++ text })

/-! ## Operations that go wrong -/

/-- What goes wrong in an operation. -/
inductive Mishap where
  /-- It is refused, and nothing is done. -/
  | refused (error : SystemError)
  /-- A write keeps the first bytes of all that it was to write, in the given number, and the piece
  with this index fails. Any other operation is refused. -/
  | cut (size index : Nat) (error : SystemError)
  deriving DecidableEq, Repr

/-- The error that the operation fails with. -/
def Mishap.error : Mishap → SystemError
  | .refused error | .cut _ _ error => error

/-- What a write comes to that something goes wrong in. -/
def Session.writeAmiss (session : Session) (mishap : Mishap) (sink : Sink)
    (pieces : List (List UInt8)) : Except FileTree.WriteFault Unit × Session :=
  match mishap, sink with
  | .refused error, _ => (.error (.opening error), session)
  | .cut size index error, .terminal =>
    (.error (.piece index error),
      { session with shown := session.shown ++ pieces.flatten.take size })
  | .cut size index error, .file path =>
    let (result, tree) := session.tree.writePart path pieces size index error
    (result, { session with tree })

/-- A session that operations may go wrong in. -/
structure FallibleSession where
  session : Session
  /-- What goes wrong in the operations that are to come, if anything does. -/
  mishaps : List (Option Mishap) := []
  deriving DecidableEq, Repr

/-- Does an operation, or what it comes to if something goes wrong. -/
def perform {α : Type} (operation : StateM Session α)
    (amiss : Mishap → StateM Session α) : StateM FallibleSession α := fun s =>
  let (result, session) := (s.mishaps.head?.join.elim operation amiss).run s.session
  (result, { session, mishaps := s.mishaps.tail })

/-- The operations on a tree of files, each of which may go wrong. -/
def fallibleSystem : System (StateM FallibleSession) where
  read path := perform (treeSystem.read path) fun mishap => pure (.error mishap.error)
  write sink pieces := perform (treeSystem.write sink pieces) fun mishap session =>
    session.writeAmiss mishap sink pieces
  makeDirectory path := perform (treeSystem.makeDirectory path) fun mishap =>
    pure (.error mishap.error)
  isDirectory path := perform (treeSystem.isDirectory path) fun _ => pure false
  report text := fun s => ((), { s with session := ((treeSystem.report text).run s.session).2 })

end KnxExport.Run
