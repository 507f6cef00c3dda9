import KnxExport.Csv.Reader
import KnxExport.GroupAddress
import KnxExport.Text.Blank
import KnxExport.Text.Utf8

/-!
# Reading an export

An export is a table of comma separated values. Its rows are the header, the rows of the main and
middle groups, which only group the rows beneath them, and one row for each group address.
`readRow` checks a row: all of its cells have to be UTF-8, a header may have any width, any other
row has at least six cells, and the address of a row that is no group's has to be one. `read` stops
at the first row with a fault; nothing after that row has any influence.
-/

namespace KnxExport.Export

/-- Why an export cannot be read. Rows count from 1 and include skipped ones, columns count
from 0. -/
inductive Fault where
  | tooFewColumns (row actual : Nat)
  | invalidAddress (row : Nat) (fault : Address.Fault)
  | invalidUtf8 (row column : Nat) (fault : Utf8.Fault)
  deriving DecidableEq, Repr

/-- The number of cells that a row has at least. -/
def minColumns : Nat := 6

/-- The fault in words. -/
def Fault.message : Fault → String
  | .tooFewColumns row actual =>
    "row " ++ toString row ++ " has too little data, expected at least " ++ toString minColumns ++
      " columns, got " ++ toString actual
  | .invalidAddress row _ => "row " ++ toString row ++ " has an invalid group address"
  | .invalidUtf8 row column _ =>
    "row " ++ toString row ++ ", column " ++ toString column ++ " is not valid UTF-8"

/-- What lies behind the fault, in words. -/
def Fault.causes : Fault → List String
  | .tooFewColumns _ _ => []
  | .invalidAddress _ fault => [fault.message]
  | .invalidUtf8 _ _ fault => [fault.message]

/-- A row, as far as it matters. -/
inductive Row where
  | header
  /-- The row of a main or middle group. -/
  | parent (address : String)
  | leaf (record : GroupAddress)
  deriving DecidableEq, Repr

/-- The group address of a row that has one. -/
def Row.leaf? : Row → Option GroupAddress
  | .leaf record => some record
  | _ => none

/-- The first cell of the header. -/
def headerLabel : String := "Group name"

/-- The texts of the cells from `column` on. -/
def decodeCells (row column : Nat) : List Csv.Cell → Except Fault (List String)
  | [] => .ok []
  | cell :: cells =>
    match Utf8.decode cell with
    | .error fault => .error (.invalidUtf8 row column fault)
    | .ok text => (text :: ·) <$> decodeCells row (column + 1) cells

/-- The group address that the four cells of interest describe. -/
def readLeaf (row : Nat) (label address description datapoint : String) :
    Except Fault GroupAddress :=
  match Address.parse address with
  | .error fault => .error (.invalidAddress row fault)
  | .ok a => .ok
    { name := Name.ofLabel label a
      description := Text.trim description
      kind := Kind.ofAddress a
      address := a
      datapoint := DatapointType.parse datapoint }

/-- Reads the texts of one row. -/
def readTexts (row : Nat) (texts : List String) : Except Fault Row :=
  if texts.head? = some headerLabel then .ok .header
  else
    match texts with
    | label :: address :: _ :: _ :: description :: datapoint :: _ =>
      if Address.isParent address then .ok (.parent address)
      else .leaf <$> readLeaf row label address description datapoint
    | _ => .error (.tooFewColumns row texts.length)

/-- Reads the cells of one row. -/
def readRow (row : Nat) (cells : List Csv.Cell) : Except Fault Row :=
  decodeCells row 0 cells >>= readTexts row

/-- What has been read of an export: its rows up to the first faulty one, and its fault. -/
structure Reading where
  rows : List Row
  fault? : Option Fault
  deriving DecidableEq, Repr

namespace Reading

/-- The reading with one more row in front. -/
def cons (row : Row) (reading : Reading) : Reading :=
  { reading with rows := row :: reading.rows }

/-- The group addresses, if there is no fault. -/
def result (reading : Reading) : Except Fault (List GroupAddress) :=
  match reading.fault? with
  | some fault => .error fault
  | none => .ok (reading.rows.filterMap Row.leaf?)

end Reading

/-- Reads rows, the first of which has the number `row`. -/
def readRows (row : Nat) : List (List Csv.Cell) → Reading
  | [] => ⟨[], none⟩
  | cells :: rest =>
    match readRow row cells with
    | .error fault => ⟨[], some fault⟩
    | .ok read => (readRows (row + 1) rest).cons read

/-- The scratch space to begin with. -/
def scratch : Csv.Space where
  bytes := 1024
  ends := 16

/-- The cells of the records of an export. Up to two byte order marks at its start are skipped. -/
def records (input : List UInt8) : List (List Csv.Cell) :=
  (Csv.records scratch (Utf8.dropMark (Utf8.dropMark input))).map Csv.Draft.cells

/-- Reads an export. -/
def read (input : List UInt8) : Reading :=
  readRows 1 (records input)

/-- The group addresses of an export, or its first fault. -/
def ingest (input : List UInt8) : Except Fault (List GroupAddress) :=
  (read input).result

end KnxExport.Export
