import KnxExport.Csv.Writer
import KnxExport.Listing.Object
import KnxExport.Listing.Row
import KnxExport.Listing.Sheet
import KnxExport.Text.Lines

/-!
# Listings

A listing shows the records as comma separated values, as one JSON object on each line, or as a
table. It is written piece by piece: some formats begin with a head, most write a record as soon as
it is added, and a table, whose columns depend on all records, is written as a whole at the end.
-/

namespace KnxExport

namespace Listing

/-- The formats of listings. -/
inductive Format where
  | table
  | jsonl
  | csv
  deriving DecidableEq, Repr

namespace Format

/-- All formats. -/
def all : List Format := [.table, .jsonl, .csv]

/-- The name of a format on the command line. -/
def name : Format → String
  | .table => "table"
  | .jsonl => "jsonl"
  | .csv => "csv"

/-- The format of the given name. -/
def ofName? (text : String) : Option Format :=
  all.find? fun format => format.name == text

end Format

/-- A piece of a listing that is written in one go. -/
inductive Piece where
  /-- The JSON object of a record, without the end of its line. -/
  | object (text : String)
  /-- Anything else. -/
  | plain (text : String)
  deriving DecidableEq, Repr

/-- The text of a piece. -/
def Piece.text : Piece → String
  | .object text => text
  | .plain text => text

/-- What is written before any record. -/
def opening : Format → List Piece
  | .csv => [.plain (Csv.writeRecord headers)]
  | .jsonl | .table => []

/-- What is written when a record is added. -/
def adding : Format → GroupAddress → List Piece
  | .csv, g => [.plain (Csv.writeRecord (cells g))]
  | .jsonl, g => [.object (object g), .plain "\n"]
  | .table, _ => []

/-- The table of the records. -/
def sheet (records : List GroupAddress) : String :=
  Text.unlines ((Sheet.lines (headers.map Sheet.cellOfText)
    (records.map fun g => (cells g).map Sheet.cellOfText)).map String.ofList)

/-- What is written after all records. -/
def closing : Format → List GroupAddress → List Piece
  | .table, records => [.plain (sheet records)]
  | .csv, _ | .jsonl, _ => []

/-- All pieces of a listing, in their order. -/
def pieces (format : Format) (records : List GroupAddress) : List Piece :=
  opening format ++ records.flatMap (adding format) ++ closing format records

/-- Pieces as one text. -/
def textOf (pieces : List Piece) : String :=
  String.join (pieces.map Piece.text)

/-- A listing as a whole. -/
def document (format : Format) (records : List GroupAddress) : String :=
  textOf (pieces format records)

end Listing

end KnxExport
