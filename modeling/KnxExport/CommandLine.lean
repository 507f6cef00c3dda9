import KnxExport.Listing
import KnxExport.Text.Visible

/-!
# The command line

Two positional arguments, the export and the directory to write to, and the options for a listing.
`parse` takes the arguments from left to right. A value is checked when the next argument that
needs no value of its own is taken up, or at the end; what is missing is found last. Hence the first
fault in this order is reported, and asking for help or for the version ends the parse like one.
-/

namespace KnxExport.CommandLine

/-- What a run is told to do. -/
structure Arguments where
  /-- The path of the export. -/
  input : String
  /-- The path of the directory for the generated files. -/
  outputDir : String
  /-- The format of the listing, if one is wanted. -/
  format? : Option Listing.Format
  /-- The path of the listing, if it does not go to the terminal. -/
  listingPath? : Option String
  deriving DecidableEq, Repr

/-- The places that take a value. -/
inductive Slot where
  | input
  | outputDir
  | format
  | listingPath
  deriving DecidableEq, Repr

/-- How a place is called in messages. -/
def Slot.label : Slot → String
  | .input => "<INPUT>"
  | .outputDir => "<OUTPUT_DIR>"
  | .format => "--list <FORMAT>"
  | .listingPath => "--list-output <OUTPUT>"

/-- What is wrong with a command line. -/
inductive Fault where
  /-- An argument that is needed is not given. -/
  | missingArgument
  /-- An argument that does not belong here. -/
  | unexpectedArgument (argument : String)
  /-- No value, or an empty one. -/
  | missingValue (slot : Slot)
  /-- A value that is none of those allowed. -/
  | invalidValue (slot : Slot) (value : String)
  /-- A second value. -/
  | repeated (slot : Slot)
  /-- A value for an option that takes none. -/
  | unexpectedValue (option value : String)
  deriving DecidableEq, Repr

/-- The fault in words. What the user has written is told as far as it is visible. -/
def Fault.message : Fault → String
  | .missingArgument => "error: the following required arguments were not provided:"
  | .unexpectedArgument argument =>
    "error: unexpected argument '" ++ Text.visible argument ++ "' found"
  | .missingValue slot =>
    "error: a value is required for '" ++ slot.label ++ "' but none was supplied"
  | .invalidValue slot value =>
    "error: invalid value '" ++ Text.visible value ++ "' for '" ++ slot.label ++ "'"
  | .repeated slot => "error: the argument '" ++ slot.label ++ "' cannot be used multiple times"
  | .unexpectedValue option value =>
    "error: unexpected value '" ++ Text.visible value ++ "' for '" ++ option ++
      "' found; no more were expected"

/-- Why a command line gives no arguments. -/
inductive Stop where
  | help
  | version
  | fault (fault : Fault)
  deriving DecidableEq, Repr

/-- What has been taken from the arguments so far. -/
structure State where
  input? : Option String := none
  outputDir? : Option String := none
  format? : Option Listing.Format := none
  listingPath? : Option String := none
  /-- A place whose value has not been checked, or an option that waits for its value. -/
  pending? : Option (Slot × Option String) := none
  /-- The number of positional arguments. -/
  positionals : Nat := 0
  /-- Only positional arguments follow. -/
  onlyPositionals : Bool := false
  deriving DecidableEq, Repr

namespace State

/-- Checks a value and puts it into its place. -/
def store (state : State) (slot : Slot) (value : String) : Except Fault State :=
  match slot with
  | .input =>
    if value = "" then .error (.missingValue slot) else .ok { state with input? := some value }
  | .outputDir =>
    if value = "" then .error (.missingValue slot) else .ok { state with outputDir? := some value }
  | .format =>
    if state.format?.isSome then .error (.repeated slot)
    else if value = "" then .error (.missingValue slot)
    else
      match Listing.Format.ofName? value with
      | some format => .ok { state with format? := some format }
      | none => .error (.invalidValue slot value)
  | .listingPath =>
    if state.listingPath?.isSome then .error (.repeated slot)
    else if value = "" then .error (.missingValue slot)
    else .ok { state with listingPath? := some value }

/-- Checks the value that is pending. -/
def settle (state : State) : Except Fault State :=
  match state.pending? with
  | none => .ok state
  | some (slot, none) => .error (.missingValue slot)
  | some (slot, some value) => { state with pending? := none }.store slot value

/-- Takes up a positional argument. -/
def positional (state : State) (argument : String) : Except Fault State :=
  match state.positionals with
  | 0 => do
    let state ← state.settle
    return { state with pending? := some (.input, some argument), positionals := 1 }
  | 1 => do
    let state ← state.settle
    return { state with pending? := some (.outputDir, some argument), positionals := 2 }
  | _ => .error (.unexpectedArgument argument)

/-- Takes up an option, with the value that is written in the same argument if there is one. -/
def option (state : State) (slot : Slot) (value? : Option String) : Except Fault State := do
  let state ← state.settle
  match value? with
  | some value => state.store slot value
  | none => return { state with pending? := some (slot, none) }

/-- Takes up an option that ends the parse. -/
def flag (state : State) (stop : Stop) : Except Stop State :=
  match state.settle with
  | .error fault => .error (.fault fault)
  | .ok _ => .error stop

/-- Takes up an option with a long name, which is written after two dashes. -/
def long (state : State) (body : List Char) : Except Stop State :=
  let name := String.ofList (body.takeWhile (· != '='))
  let value? := (body.dropWhile (· != '=')).tail?.map String.ofList
  match name, value? with
  | "list", value? => (state.option .format value?).mapError .fault
  | "list-output", value? => (state.option .listingPath value?).mapError .fault
  | "help", none => state.flag .help
  | "version", none => state.flag .version
  | "help", some value => .error (.fault (.unexpectedValue "--help" value))
  | "version", some value => .error (.fault (.unexpectedValue "--version" value))
  | name, _ => .error (.fault (.unexpectedArgument ("--" ++ name)))

/-- Takes up an option with a short name, which is written after one dash. The rest of the argument
is its value, with or without an equals sign before it. -/
def short (state : State) (name : Char) (rest : List Char) : Except Stop State :=
  match name, rest with
  | 'l', [] => (state.option .format none).mapError .fault
  | 'l', '=' :: value => (state.option .format (some (String.ofList value))).mapError .fault
  | 'l', value => (state.option .format (some (String.ofList value))).mapError .fault
  | 'h', _ => state.flag .help
  | 'V', _ => state.flag .version
  | name, _ => .error (.fault (.unexpectedArgument (String.ofList ['-', name])))

/-- Takes up an argument that is no option: the value of the option before it if that waits for
one, otherwise a positional argument. -/
def plain (state : State) (argument : String) : Except Stop State :=
  match state.onlyPositionals, state.pending? with
  | false, some (slot, none) => .ok { state with pending? := some (slot, some argument) }
  | _, _ => (state.positional argument).mapError .fault

/-- Takes up the next argument. -/
def take (state : State) (argument : String) : Except Stop State :=
  if state.onlyPositionals then state.plain argument
  else
    match argument.toList with
    | ['-', '-'] => .ok { state with onlyPositionals := true }
    | '-' :: '-' :: body => state.long body
    | '-' :: name :: rest => state.short name rest
    | _ => state.plain argument

/-- What all arguments together ask for. -/
def finish (state : State) : Except Fault Arguments := do
  let state ← state.settle
  match state with
  | { input? := some input, outputDir? := some outputDir, format?, listingPath?, .. } =>
    if listingPath?.isSome ∧ format?.isNone then throw .missingArgument
    return { input, outputDir, format?, listingPath? }
  | _ => throw .missingArgument

end State

/-- Parses the arguments after the program's name. -/
def parse (arguments : List String) : Except Stop Arguments := do
  let state ← arguments.foldlM State.take {}
  state.finish.mapError .fault

end KnxExport.CommandLine
