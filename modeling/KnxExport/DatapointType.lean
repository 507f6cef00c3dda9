import KnxExport.Text.Decimal

/-!
# Datapoint types

A datapoint type is written `family-number` or `family-number-subnumber`. It only describes a group
address, so a text that cannot be understood is not a fault: the type is then unknown.
-/

namespace KnxExport

/-- The type of the values at a group address, as far as it is understood. -/
inductive DatapointType where
  | known (number : UInt16)
  | unknown
  deriving DecidableEq, Repr

namespace DatapointType

/-- Reads the number between the first dash and the next one or the end. -/
def parse (text : String) : DatapointType :=
  match text.toList.splitOn '-' with
  | _ :: number :: _ =>
    match Text.word? number with
    | some n => .known n
    | none => .unknown
  | _ => .unknown

/-- The number of a type that is known. -/
def number? : DatapointType → Option UInt16
  | .known n => some n
  | .unknown => none

/-- The tag of a type with the given number. -/
def numberTag (n : UInt16) : String :=
  "DPT_" ++ Text.decimal n

/-- The tag that a driver is given. A type that is unknown is driven as type 1. -/
def tag : DatapointType → String
  | .known n => numberTag n
  | .unknown => numberTag 1

end DatapointType

end KnxExport
