/-!
# Comma separated values, byte by byte

A table of comma separated values is read by an automaton with five places. Every byte moves the
automaton and leaves one mark: the byte is kept as part of a cell, ends a cell, ends a record, or
is dropped. The end of the input leaves one more mark, which ends the last record if it is open.

A quote opens a quoted part only as the first byte of a cell. Inside, a quote is written twice.
After the closing quote the rest of the cell is taken as it is, further quotes included. A carriage
return and a line feed both end a record, and between records they mean nothing, so that empty
lines are no records and both together end one record only.
-/

namespace KnxExport.Csv

/-- The comma. -/
def comma : UInt8 := 0x2c

/-- The double quote. -/
def quote : UInt8 := 0x22

/-- The line feed. -/
def lineFeed : UInt8 := 0x0a

/-- The carriage return. -/
def carriageReturn : UInt8 := 0x0d

/-- A byte that ends a record outside of quotes. -/
def isBreak (b : UInt8) : Bool :=
  b == lineFeed || b == carriageReturn

/-- Where the automaton stands. -/
inductive Place where
  /-- Between two records, or before the first one. -/
  | between
  /-- Before the first byte of a cell, after a comma. -/
  | cellStart
  /-- In a cell, outside of quotes. -/
  | plain
  /-- Inside the quotes of a cell. -/
  | quoted
  /-- After a quote inside the quotes: it closes them unless another one follows. -/
  | closing
  deriving DecidableEq, Repr

/-- What a byte contributes to the records. -/
inductive Mark where
  | nothing
  | keep (b : UInt8)
  | cellEnd
  /-- Ends the last cell of the record, too. -/
  | recordEnd
  deriving DecidableEq, Repr

/-- A byte outside of quotes that does not begin a cell. -/
def stepPlain (b : UInt8) : Place × Mark :=
  if b = comma then (.cellStart, .cellEnd)
  else if isBreak b then (.between, .recordEnd)
  else (.plain, .keep b)

/-- The first byte of a cell. -/
def stepStart (b : UInt8) : Place × Mark :=
  if b = quote then (.quoted, .nothing) else stepPlain b

/-- Where a byte leads, and the mark that it leaves. -/
def step : Place → UInt8 → Place × Mark
  | .between, b => if isBreak b then (.between, .nothing) else stepStart b
  | .cellStart, b => stepStart b
  | .plain, b => stepPlain b
  | .quoted, b => if b = quote then (.closing, .nothing) else (.quoted, .keep b)
  | .closing, b => if b = quote then (.quoted, .keep b) else stepPlain b

/-- The mark that the end of the input leaves: an open record ends, in quotes or not. -/
def finish : Place → Mark
  | .between => .nothing
  | _ => .recordEnd

end KnxExport.Csv
