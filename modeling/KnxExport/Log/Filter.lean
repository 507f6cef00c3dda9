import KnxExport.Log.Event

/-!
# Which events are logged

A filter is written as directives with commas between them. A directive says up to which level the
events of a part of the program are logged; it names the part by the beginning of its target, and
may ask for events with certain values. Of the directives that an event matches the most specific
one decides, and of two that are alike the later one. An event that no directive matches is not
logged.
-/

namespace KnxExport.Log

/-- A directive of a filter. -/
structure Directive where
  /-- How the targets begin that it is about; nothing for all targets. -/
  target? : Option String
  /-- The values that an event must have. -/
  fields : List String
  /-- The least important level that is logged; nothing to log no event at all. -/
  level? : Option Level
  deriving DecidableEq, Repr

/-- Why a text is not a filter. -/
inductive FilterFault where
  | tooManyEquals
  | tooManyFieldLists
  | openFieldList
  | level
  deriving DecidableEq, Repr

/-- The fault in words. -/
def FilterFault.message : FilterFault → String
  | .tooManyEquals =>
    "invalid filter directive: too many '=' in filter directive, expected 0 or 1"
  | .tooManyFieldLists =>
    "invalid filter directive: too many '[\x7b' in filter directive, expected 0 or 1"
  | .openFieldList => "invalid filter directive: expected fields list to end with '\x7d]'"
  | .level =>
    "error parsing level filter: expected one of \"off\", \"error\", \"warn\", \"info\", " ++
      "\"debug\", \"trace\", or a number 0-5"

/-- The level of a number, where 0 turns logging off. -/
def levelOfNumber? : Nat → Option (Option Level)
  | 0 => some none
  | 1 => some (some .error)
  | 2 => some (some .warn)
  | 3 => some (some .info)
  | 4 => some (some .debug)
  | 5 => some (some .trace)
  | _ => none

/-- The number that a text denotes: decimal digits, possibly after a plus sign. -/
def number? (text : List Char) : Option Nat :=
  let digits := if text.head? = some '+' then text.tail else text
  if digits ≠ [] ∧ digits.all Char.isDigit then some (Nat.ofDigitChars 10 digits 0) else none

/-- The level of a name in upper or lower case. An empty name is the level of errors. -/
def levelOfName? (text : List Char) : Option (Option Level) :=
  match String.ofList (text.map Char.toLower) with
  | "" => some (some .error)
  | "off" => some none
  | "error" => some (some .error)
  | "warn" => some (some .warn)
  | "info" => some (some .info)
  | "debug" => some (some .debug)
  | "trace" => some (some .trace)
  | _ => none

/-- The level that a text denotes, by number or by name. -/
def parseLevel? (text : List Char) : Option (Option Level) :=
  match (number? text).bind levelOfNumber? with
  | some level? => some level?
  | none => levelOfName? text

/-- The text cut at a pair of characters, each as early as possible. -/
def splitOnPair (a b : Char) : List Char → List (List Char)
  | [] => [[]]
  | [c] => [[c]]
  | c :: d :: rest =>
    if c = a ∧ d = b then [] :: splitOnPair a b rest
    else (splitOnPair a b (d :: rest)).modifyHead (c :: ·)

/-- The text without the pairs of characters at its end, where `reversed` is the text from its end
to its beginning. -/
def dropPairs (a b : Char) : List Char → List Char
  | d :: c :: rest => if c = a ∧ d = b then dropPairs a b rest else d :: c :: rest
  | reversed => reversed

/-- The names in a list of fields, which ends in a brace and a bracket. -/
def parseFields (text : List Char) : Except FilterFault (List String) :=
  if ['\x7d', ']'].isSuffixOf text then
    let names := (dropPairs '\x7d' ']' text.reverse).reverse
    .ok ((names.splitOn ',').filter (· ≠ []) |>.map String.ofList)
  else .error .openFieldList

namespace Directive

/-- Reads what stands before the equals sign: a target and possibly a list of fields. -/
def parseScope (text : List Char) : Except FilterFault (String × List String) :=
  match splitOnPair '[' '\x7b' text with
  | [target, fields] => (String.ofList target, ·) <$> parseFields fields
  | [target] => .ok (String.ofList target, [])
  | _ => .error .tooManyFieldLists

/-- Reads a directive: a scope and a level with an equals sign between them, a level for all
targets, or a target of which every event is logged. -/
def parse (text : List Char) : Except FilterFault Directive :=
  match text.splitOn '=' with
  | [scope, level] => do
    let scope ← parseScope scope
    match parseLevel? level with
    | some level? => return ⟨some scope.1, scope.2, level?⟩
    | none => throw .level
  | [only] =>
    match parseLevel? only with
    | some level? => .ok ⟨none, [], level?⟩
    | none => .ok ⟨some (String.ofList only), [], some .trace⟩
  | _ => .error .tooManyEquals

/-- How two directives compare: by whether they name a target and its length in bytes, by the number
of their fields, and then by the texts. -/
def compare (a b : Directive) : Ordering :=
  (Ord.compare (a.target?.map String.utf8ByteSize) (b.target?.map String.utf8ByteSize)).then
    ((Ord.compare a.fields.length b.fields.length).then
      ((Ord.compare a.target? b.target?).then (Ord.compare a.fields b.fields)))

/-- The directive says something about the event. -/
def isAbout (directive : Directive) (event : Event) : Bool :=
  (match directive.target? with
    | some target => target.toList.isPrefixOf event.target.toList
    | none => true) &&
  directive.fields.all fun field => event.fieldNames.contains field

/-- The level of the event is important enough. -/
def allows (directive : Directive) (event : Event) : Bool :=
  match directive.level? with
  | some level => event.level.rank ≤ level.rank
  | none => false

end Directive

/-- Directives, the most specific one first. -/
abbrev Filter := List Directive

namespace Filter

/-- The filter with one more directive, which takes the place of one that is alike. -/
def insert (directive : Directive) : Filter → Filter
  | [] => [directive]
  | first :: rest =>
    match directive.compare first with
    | .gt => directive :: first :: rest
    | .eq => directive :: rest
    | .lt => first :: insert directive rest

/-- The filter that is used if none is given: warnings and errors. -/
def standard : Filter := [⟨none, [], some .warn⟩]

/-- Reads a filter. -/
def parse (text : String) : Except FilterFault Filter := do
  let directives ← (text.toList.splitOn ',').mapM Directive.parse
  return directives.foldl (fun filter directive => insert directive filter) []

/-- The event is logged. -/
def enables (filter : Filter) (event : Event) : Bool :=
  match filter.find? (·.isAbout event) with
  | some directive => directive.allows event
  | none => false

end Filter

end KnxExport.Log
