import KnxExport.CommandLine
import KnxExport.CommandLine.Help
import KnxExport.Export.Log
import KnxExport.Log.Filter
import KnxExport.Lua.Annotations
import KnxExport.Lua.Script
import KnxExport.Run.System

/-!
# A run of the program

A run reads the export, lists its group addresses if that is wanted, makes the output directory and
writes the script and then the annotations into it. It stops at the first thing that fails, so that
nothing after it is touched: an export with a fault changes no file at all.
-/

namespace KnxExport.Run

variable {m : Type → Type} [Monad m]

/-- The part of the program that generates the files. -/
def logTarget : String := "knx_group_address_generator::commands::generate"

/-- The event for the group addresses of an export. -/
def ingestedEvent (count : Nat) : Log.Event :=
  ⟨.info, logTarget, "ingested group addresses", [("count", toString count)]⟩

/-- The event for a generated file. -/
def wroteEvent (path : String) (size : Nat) : Log.Event :=
  ⟨.info, logTarget, "wrote generated file", [("path", path), ("bytes", toString size)]⟩

/-- Reports an event if it is to be logged. -/
def log (system : System m) (filter : Log.Filter) (event : Log.Event) : m Unit :=
  if filter.enables event then system.report event.line else pure ()

/-- Makes the first of the directories, each of which is held by the one after it, and those that
hold it where they do not exist. It is no fault if it exists already. -/
def makeDirectories (system : System m) : List String → m (Except SystemError Unit)
  | [] => pure (.ok ())
  | path :: parents => do
    match ← system.makeDirectory path with
    | .ok () => return .ok ()
    | .error .noEntry =>
      match ← makeDirectories system parents with
      | .error error => return .error error
      | .ok () =>
        match ← system.makeDirectory path with
        | .ok () => return .ok ()
        | .error error => return if ← system.isDirectory path then .ok () else .error error
    | .error error => return if ← system.isDirectory path then .ok () else .error error

/-- Reads the export and logs its rows. -/
def readExport (system : System m) (filter : Log.Filter) (path : String) :
    ExceptT Fault m (List GroupAddress) := do
  match ← system.read path with
  | .error error => throw (.readInput path error)
  | .ok bytes =>
    for event in Export.events bytes do
      (log system filter event : m Unit)
    match Export.ingest bytes with
    | .error fault => throw (.ingest path fault)
    | .ok records =>
      (log system filter (ingestedEvent records.length) : m Unit)
      return records

/-- Where the listing goes to. -/
def sinkOf (listingPath? : Option String) : Sink :=
  match listingPath? with
  | none => .terminal
  | some path => .file path

/-- Writes the listing. -/
def writeListing (system : System m) (sink : Sink) (format : Listing.Format)
    (records : List GroupAddress) : ExceptT Fault m Unit := do
  let pieces := Listing.pieces format records
  match ← system.write sink (pieces.map fun piece => Utf8.encode piece.text) with
  | .ok () => return
  | .error fault => throw (.listing (Listing.Fault.ofWrite sink pieces fault))

/-- Writes a generated file. -/
def writeDocument (system : System m) (filter : Log.Filter) (path text : String) :
    ExceptT Fault m Unit := do
  match ← system.write (.file path) [Utf8.encode text] with
  | .ok () => (log system filter (wroteEvent path text.utf8ByteSize) : m Unit)
  | .error (.opening error) => throw (.writeOutput path error)
  | .error (.piece _ error) => throw (.writeOutput path error)

/-- Does what the arguments ask for. -/
def generate (system : System m) (filter : Log.Filter) (arguments : CommandLine.Arguments) :
    ExceptT Fault m Unit := do
  let records ← readExport system filter arguments.input
  match arguments.format? with
  | none => pure ()
  | some format => writeListing system (sinkOf arguments.listingPath?) format records
  let dir := arguments.outputDir
  match ← (makeDirectories system (dir :: Path.parents dir) : m _) with
  | .error error => throw (.createDirectory dir error)
  | .ok () => pure ()
  writeDocument system filter (Path.join dir Lua.Script.fileName) (Lua.Script.document records)
  writeDocument system filter (Path.join dir Lua.Annotations.fileName)
    (Lua.Annotations.document records)

/-- The variable of the environment that holds the filter of the log. -/
def logVariable : String := "KNX_GA_GENERATOR_LOG"

/-- The filter of the log; one that cannot be read is reported and not used. -/
def readFilter (system : System m) (setting? : Option String) : m Log.Filter :=
  match setting? with
  | none => pure Log.Filter.standard
  | some text =>
    match Log.Filter.parse text with
    | .ok filter => pure filter
    | .error fault => do
      system.report ("warning: ignoring " ++ logVariable ++ "=" ++ Text.quoted text ++ ": " ++
        fault.message ++ "\n")
      return Log.Filter.standard

/-- Shows a text on the terminal. -/
def tell (system : System m) (text : String) : m Unit := do
  let _ ← system.write .terminal [Utf8.encode text]

/-- Runs the program with a command, which begins with the program's name, and gives its exit
code. -/
def run (system : System m) (command : List String) (filterSetting? : Option String) : m Nat := do
  let filter ← readFilter system filterSetting?
  match CommandLine.parse command.tail with
  | .error .help =>
    tell system (CommandLine.helpText (CommandLine.calledName command))
    return 0
  | .error .version =>
    tell system CommandLine.versionText
    return 0
  | .error (.fault fault) =>
    system.report (fault.message ++ "\n")
    return 2
  | .ok arguments =>
    match ← (generate system filter arguments).run with
    | .ok () => return 0
    | .error fault =>
      system.report fault.diagnostic
      return 1

end KnxExport.Run
