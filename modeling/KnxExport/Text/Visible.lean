/-!
# Visible text

What a text leaves on a terminal without colours. An escape character begins a command to the
terminal, which is not seen; of the other controls only those are kept that move to another column
or line.
-/

namespace KnxExport.Text

/-- The control moves to another column or line. -/
def isLayout (c : Char) : Bool :=
  c = '\t' || c = '\n' || c = '\x0c' || c = '\r'

/-- An ASCII control. -/
def isControl (c : Char) : Bool :=
  c.toNat < 0x20 || c.toNat = 0x7f

/-- Where a character stands in regard to commands. -/
inductive Command where
  /-- In no command. -/
  | none
  /-- After the escape character. -/
  | escape
  /-- In a command that its first character from the zero on ends. -/
  | short
  /-- In a command with parameters, which its first character from the at sign on ends. -/
  | sequence
  /-- In a text for the system, which a bell ends. -/
  | system
  /-- In a text that only another command ends. -/
  | message
  deriving DecidableEq, Repr

namespace Command

/-- The command after a character of it that is no control. -/
def next (command : Command) (c : Char) : Command :=
  match command with
  | .none => .none
  | .escape =>
    if c < '0' then .short
    else if c = '[' then .sequence
    else if c = ']' then .system
    else if c = 'P' || c = 'X' || c = '^' || c = '_' then .message
    else .none
  | .short => if c < '0' then .short else .none
  | .sequence => if c < '@' then .sequence else .none
  | .system => .system
  | .message => .message

/-- The command after a character, and whether the character is seen. The cancelling and the
substituting control end every command, and so does a character that is not ASCII. -/
def step (command : Command) (c : Char) : Command × Bool :=
  if c = '\x1b' then (.escape, false)
  else if c = '\x18' || c = '\x1a' then (.none, false)
  else if 0x80 ≤ c.toNat then (.none, true)
  else
    match command with
    | .none => (.none, isLayout c || !isControl c)
    | .escape | .short | .sequence =>
      if isLayout c then (.none, true)
      else if isControl c then (command, false)
      else (command.next c, false)
    | .system => (if c = '\x07' then .none else .system, false)
    | .message => (.message, false)

end Command

/-- The characters that are seen, the first one standing in the given command. -/
def visibleFrom (command : Command) : List Char → List Char
  | [] => []
  | c :: text =>
    let (command, seen) := command.step c
    if seen then c :: visibleFrom command text else visibleFrom command text

/-- What is seen of a text. -/
def visible (text : String) : String :=
  String.ofList (visibleFrom .none text.toList)

end KnxExport.Text
