import KnxExport.Main
import KnxExport.Run
import KnxExport.Proofs.DatapointType
import KnxExport.Proofs.Export.BadCells
import KnxExport.Proofs.Export.Contents
import KnxExport.Proofs.Export.Spellings
import KnxExport.Proofs.Listing.Jsonl
import KnxExport.Proofs.Lua.Annotations.Comments
import KnxExport.Proofs.Lua.Annotations.Documentation
import KnxExport.Proofs.Lua.Annotations.Interleaving
import KnxExport.Proofs.Lua.Annotations.Outline
import KnxExport.Proofs.Lua.Literal
import KnxExport.Proofs.Lua.Script
import KnxExport.Proofs.Run.Artifacts
import KnxExport.Proofs.Run.Failure
import KnxExport.Proofs.Run.ListingFault
import KnxExport.Proofs.Text.Sequences
import KnxExport.Proofs.Run.Diagnostic
import KnxExport.Proofs.Run.Reported
import KnxExport.Proofs.Lua.Annotations.Marks
import KnxExport.Proofs.Listing.Sheet
import KnxExport.Proofs.CommandLine.Taking
import KnxExport.Proofs.CommandLine.Spellings
