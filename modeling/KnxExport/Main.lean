import KnxExport.Run

/-!
# The program

The operations of the real system, and the program's entry.
-/

namespace KnxExport

/-- The error of the system with the given number. -/
def SystemError.ofCode (code : UInt32) (text : String) : SystemError :=
  let known : List (UInt32 × SystemError) :=
    [(2, .noEntry), (12, .noMemory), (17, .exists), (20, .notDirectory), (21, .isDirectory),
      (28, .noSpace), (36, .nameTooLong)]
  (known.lookup code).getD (.other (text ++ " (os error " ++ toString code ++ ")"))

/-- The error that a failed operation has raised. -/
def SystemError.ofRaised (error : IO.Error) : SystemError :=
  match error with
  | .noFileOrDirectory _ code text | .alreadyExists _ code text | .inappropriateType _ code text
  | .permissionDenied _ code text | .resourceExhausted _ code text
  | .invalidArgument _ code text => .ofCode code text
  | .resourceBusy code text | .resourceVanished code text | .illegalOperation code text
  | .otherError code text | .hardwareFault code text => .ofCode code text
  | error => .other (toString error)

/-- The result of an operation that may raise an error. -/
def attempt {α : Type} (action : IO α) : IO (Except SystemError α) := do
  try return .ok (← action)
  catch error => return .error (.ofRaised error)

/-- Writes pieces one after the other, up to the first one that fails. -/
def writePieces (write : List UInt8 → IO Unit) (index : Nat) :
    List (List UInt8) → IO (Except FileTree.WriteFault Unit)
  | [] => return .ok ()
  | bytes :: pieces => do
    match ← attempt (write bytes) with
    | .error error => return .error (.piece index error)
    | .ok () => writePieces write (index + 1) pieces

/-- Bytes as the system takes them. -/
def packed (bytes : List UInt8) : ByteArray := ⟨bytes.toArray⟩

/-- The operations of the system that the program runs on. -/
def realSystem : Run.System IO where
  read path := attempt do
    let handle ← IO.FS.Handle.mk path .read
    return (← handle.readBinToEnd).toList
  write
    | .terminal, pieces => do
      let stdout ← IO.getStdout
      writePieces (fun bytes => do stdout.write (packed bytes); stdout.flush) 0 pieces
    | .file path, pieces => do
      match ← attempt (IO.FS.Handle.mk path .write) with
      | .error error => return .error (.opening error)
      | .ok handle =>
        writePieces (fun bytes => do handle.write (packed bytes); handle.flush) 0 pieces
  makeDirectory path := attempt (IO.FS.createDir path)
  isDirectory path := do
    match ← attempt (IO.FS.Handle.mk (path ++ "/.") .read) with
    | .ok _ => return true
    | .error _ => return false
  report text := do (← IO.getStderr).putStr text

end KnxExport

/-- Runs the program. -/
def main (arguments : List String) : IO UInt32 := do
  let name ← IO.appPath
  let setting? ← IO.getEnv KnxExport.Run.logVariable
  let code ← KnxExport.Run.run KnxExport.realSystem (name.toString :: arguments) setting?
  return UInt32.ofNat code
