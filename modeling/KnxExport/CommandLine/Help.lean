import KnxExport.Text.Visible

/-!
# Help and version

What the program says about itself.
-/

namespace KnxExport.CommandLine

/-- The name of the program. -/
def programName : String := "knx-group-address-generator"

/-- The name of the program with its version. -/
def versionText : String := programName ++ " 0.1.0\n"

/-- The last name in a path, if there is one: what the path names in its directory. -/
def fileName? (path : String) : Option String :=
  let names := (path.toList.splitOn '/').filter fun name => name ≠ [] ∧ name ≠ ['.']
  match names.getLast? with
  | some ['.', '.'] | none => none
  | some name => some (String.ofList name)

/-- The name under which the program has been called. -/
def calledName (command : List String) : String :=
  (command.head?.bind fileName?).getD programName

/-- The text that explains the command line. -/
def helpText (called : String) : String :=
  "Generates Lua group address constructors and name annotations from a KNX group address " ++
    "export\n\n" ++
  "Usage: " ++ Text.visible called ++ " [OPTIONS] <INPUT> <OUTPUT_DIR>\n\n" ++
  "Arguments:\n" ++
  "  <INPUT>       The group address export (comma separated, UTF-8)\n" ++
  "  <OUTPUT_DIR>  Directory to write `createGroupAddresses.lua` and `ADDRESSES.lua` into. " ++
    "Created if it does not exist\n\n" ++
  "Options:\n" ++
  "  -l, --list <FORMAT>         Also list the ingested group addresses in this format " ++
    "[possible values: table, jsonl, csv]\n" ++
  "      --list-output <OUTPUT>  Write the listing to this file instead of the terminal\n" ++
  "  -h, --help                  Print help\n" ++
  "  -V, --version               Print version\n"

end KnxExport.CommandLine
