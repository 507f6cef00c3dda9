import KnxExport.Export
import KnxExport.FileTree
import KnxExport.Listing

/-!
# Why a run fails

A diagnostic is one line for the fault and one for each cause behind it.
-/

namespace KnxExport

/-- Where a listing goes to. -/
inductive Sink where
  | terminal
  | file (path : String)
  deriving DecidableEq, Repr

namespace Listing

/-- Why a listing is not complete. -/
inductive Fault where
  | openFile (path : String) (error : SystemError)
  | writeFile (path : String) (error : SystemError)
  | writeTerminal (error : SystemError)
  /-- The object of a record could not be written. -/
  | writeObject (error : SystemError)
  deriving DecidableEq, Repr

namespace Fault

/-- The fault in words. -/
def message : Fault → String
  | .openFile path _ => "could not open the specified listing file at " ++ Text.quoted path
  | .writeFile path _ => "could not write the listing to the file at " ++ Text.quoted path
  | .writeTerminal _ => "could not write the listing to the terminal"
  | .writeObject _ => "could not serialize a group address to JSON"

/-- What lies behind the fault. -/
def error : Fault → SystemError
  | .openFile _ error | .writeFile _ error | .writeTerminal error | .writeObject error => error

/-- The fault of a piece that could not be written. -/
def ofPiece (sink : Sink) (piece? : Option Piece) (error : SystemError) : Fault :=
  match piece?, sink with
  | some (.object _), _ => .writeObject error
  | _, .terminal => .writeTerminal error
  | _, .file path => .writeFile path error

/-- The fault of a listing in pieces that could not be written as a whole. -/
def ofWrite (sink : Sink) (pieces : List Piece) : FileTree.WriteFault → Fault
  | .piece index error => ofPiece sink pieces[index]? error
  | .opening error =>
    match sink with
    | .terminal => .writeTerminal error
    | .file path => .openFile path error

end Fault

end Listing

namespace Run

/-- Why a run fails. -/
inductive Fault where
  | readInput (path : String) (error : SystemError)
  | ingest (path : String) (fault : Export.Fault)
  | createDirectory (path : String) (error : SystemError)
  | writeOutput (path : String) (error : SystemError)
  | listing (fault : Listing.Fault)
  deriving DecidableEq, Repr

namespace Fault

/-- The fault in words. -/
def message : Fault → String
  | .readInput path _ => "could not read the group address export at " ++ Text.quoted path
  | .ingest path _ => "could not parse the group address export at " ++ Text.quoted path
  | .createDirectory path _ => "could not create the output directory at " ++ Text.quoted path
  | .writeOutput path _ => "could not write the generated file at " ++ Text.quoted path
  | .listing _ => "could not list the group addresses"

/-- What lies behind the fault, in words, the nearest cause first. -/
def causes : Fault → List String
  | .readInput _ error | .createDirectory _ error | .writeOutput _ error => [error.message]
  | .ingest _ fault => fault.message :: fault.causes
  | .listing fault => [fault.message, fault.error.message]

/-- The lines that tell about the fault. -/
def lines (fault : Fault) : List String :=
  ("error: " ++ fault.message) :: fault.causes.map ("  because: " ++ ·)

/-- What is reported about the fault. -/
def diagnostic (fault : Fault) : String :=
  Text.unlines fault.lines

end Fault

end Run

end KnxExport
