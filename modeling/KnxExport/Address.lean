import KnxExport.Text.Decimal
import KnxExport.Text.Quoted

/-!
# Group addresses

A group address has three levels, written `main/middle/sub`. `Address.parse` reads it and says what
is wrong with a text that is none: first the number of its segments is checked, then the segments
from left to right. `Address.text` writes it, without leading zeros.
-/

namespace KnxExport

/-- A group address of three levels. -/
structure Address where
  /-- The main group. -/
  main : UInt16
  /-- The middle group. -/
  middle : UInt16
  /-- The sub group. -/
  sub : UInt16
  deriving DecidableEq, Repr, Inhabited

namespace Address

/-- The levels of an address. -/
inductive Segment where
  | main
  | middle
  | sub
  deriving DecidableEq, Repr

/-- The name of a level. -/
def Segment.name : Segment → String
  | .main => "main"
  | .middle => "middle"
  | .sub => "sub"

/-- Why a text is not a group address. -/
inductive Fault where
  /-- The text does not have three segments. -/
  | segmentCount (text : String) (count : Nat)
  /-- The segment is not a number of sixteen bits. -/
  | invalidSegment (segment : Segment) (text : String)
  deriving DecidableEq, Repr

/-- The fault in words. -/
def Fault.message : Fault → String
  | .segmentCount text count =>
    "group address " ++ Text.quoted text ++ " has " ++ toString count ++
      " `/`-separated segments, expected 3"
  | .invalidSegment segment text =>
    "the " ++ segment.name ++ " segment " ++ Text.quoted text ++
      " of a group address is not an integer in 0..=65535"

/-- The number in one segment. -/
def parseSegment (segment : Segment) (digits : List Char) : Except Fault UInt16 :=
  match Text.word? digits with
  | some n => .ok n
  | none => .error (.invalidSegment segment (String.ofList digits))

/-- Reads an address; the first fault is reported. -/
def parse (text : String) : Except Fault Address :=
  match text.toList.splitOn '/' with
  | [main, middle, sub] => do
    let main ← parseSegment .main main
    let middle ← parseSegment .middle middle
    let sub ← parseSegment .sub sub
    return ⟨main, middle, sub⟩
  | segments => .error (.segmentCount text segments.length)

/-- An address as it is written. -/
def text (a : Address) : String :=
  Text.decimal a.main ++ "/" ++ Text.decimal a.middle ++ "/" ++ Text.decimal a.sub

/-- The export keeps rows for main and middle groups, whose address cell has a dash in place of the
levels that are missing. -/
def isParent (cell : String) : Bool :=
  cell.toList.contains '-'

end Address

end KnxExport
