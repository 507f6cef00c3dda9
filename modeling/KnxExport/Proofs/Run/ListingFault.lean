import KnxExport.Proofs.Run.Stages

/-!
# How a listing that cannot be written is reported

A listing is written piece by piece, and any of its pieces can fail. The fault then names the file
of the listing, with one exception: the fault of an object names no file. Objects are the pieces of
a JSON listing with an even index, each one followed by the end of its line.

Main statement: `generate_of_listing_write_fault`, on any system.
-/

namespace KnxExport

namespace Listing

/-- Only listings as JSON have objects, and every other one of their pieces is one. -/
theorem getElem?_pieces_object_iff {format : Format} {records : List GroupAddress} {index : Nat} :
    (∃ text, (pieces format records)[index]? = some (.object text)) ↔
      format = .jsonl ∧ index % 2 = 0 ∧ index < 2 * records.length := by
  have hplain : format ≠ .jsonl → ∀ piece ∈ pieces format records, ∃ text, piece = .plain text := by
    intro hformat piece hpiece
    cases format with
    | jsonl => exact absurd rfl hformat
    | csv =>
      simp only [pieces, opening, closing, adding, List.append_nil, List.mem_append,
        List.mem_singleton, List.mem_flatMap] at hpiece
      obtain rfl | ⟨g, -, rfl⟩ := hpiece
      · exact ⟨_, rfl⟩
      · exact ⟨_, rfl⟩
    | table =>
      simp [pieces, opening, closing, adding] at hpiece
      exact ⟨_, hpiece⟩
  by_cases hformat : format = .jsonl
  · subst hformat
    clear hplain
    simp only [pieces, opening, closing, List.nil_append, List.append_nil, true_and]
    induction records generalizing index with
    | nil => simp
    | cons g records ih =>
      rw [List.flatMap_cons]
      match index with
      | 0 => simp [adding]
      | 1 => simp [adding]
      | index + 2 =>
        have hskip : (adding .jsonl g ++ records.flatMap (adding .jsonl))[index + 2]? =
            (records.flatMap (adding .jsonl))[index]? := rfl
        rw [hskip, List.length_cons]
        refine ih.trans ?_
        omega
  · constructor
    · rintro ⟨text, hpiece⟩
      obtain ⟨other, hother⟩ := hplain hformat _ (List.mem_of_getElem? hpiece)
      cases hother
    · exact fun h => absurd h.1 hformat

/-- What a piece of a listing is reported as that could not be written to a file. -/
theorem Fault.ofWrite_piece (path : String) (format : Format) (records : List GroupAddress)
    (index : Nat) (error : SystemError) :
    Fault.ofWrite (.file path) (pieces format records) (.piece index error) =
      if format = .jsonl ∧ index % 2 = 0 ∧ index < 2 * records.length then .writeObject error
      else .writeFile path error := by
  rw [ofWrite]
  split
  · next h =>
    obtain ⟨text, hpiece⟩ := getElem?_pieces_object_iff.mpr h
    rw [hpiece]
    rfl
  · next h =>
    have hobject := mt getElem?_pieces_object_iff.mp h
    rcases hpiece : (pieces format records)[index]? with _ | (text | text)
    · rfl
    · exact absurd ⟨text, hpiece⟩ hobject
    · rfl

end Listing

namespace Run

/-- **A listing that cannot be written** is the fault of the run. It names the file, unless the
piece that could not be written is an object. -/
theorem generate_of_listing_write_fault {σ : Type} {system : System (StateM σ)}
    {filter : Log.Filter} {arguments : CommandLine.Arguments} {format : Listing.Format}
    {path : String} {records : List GroupAddress} {index : Nat} {error : SystemError} {s t u : σ}
    (hfile : listingFile? arguments = some (format, path))
    (hread : exec (readExport system filter arguments.input) s = (.ok records, t))
    (hwrite : (system.write (.file path) (listingBytes format records)).run t =
      (.error (.piece index error), u)) :
    exec (generate system filter arguments) s =
      (.error (.listing
        (if format = .jsonl ∧ index % 2 = 0 ∧ index < 2 * records.length then .writeObject error
          else .writeFile path error)), u) := by
  have hlist : exec (list system arguments records) t =
      (.error (.listing
        (Listing.Fault.ofWrite (.file path) (Listing.pieces format records)
          (.piece index error))), u) := by
    rw [exec_list_file hfile, hwrite]
    rfl
  rw [Listing.Fault.ofWrite_piece] at hlist
  rw [generate_eq_stages, exec_bind_of_ok hread, exec_bind, hlist]

/-- An export, and a device without room. -/
def fullTree : FileTree where
  entries := [(["dev"], .directory), (["dev", "full"], .device .full),
    (["in.csv"], .file lightExport)]
  workingDir := []

theorem exported_fullTree : exported fullTree "in.csv" = .ok [lightA] :=
  exported_eq_ok_iff.mpr ⟨_, rfl, ingest_lightExport⟩

/-- The device takes nothing. -/
theorem write_fullTree {piece : List UInt8} (h : piece ≠ []) (pieces : List (List UInt8)) :
    fullTree.write "/dev/full" (piece :: pieces) = (.error (.piece 0 .noSpace), fullTree) := by
  have hcreate : fullTree.create "/dev/full" = .ok (["dev", "full"], fullTree) := by rfl
  have hentry : fullTree.get? ["dev", "full"] = some (.device .full) := by rfl
  rw [FileTree.write, hcreate]
  simp [FileTree.append, hentry, List.findIdx?_cons, h]

theorem write_fullTree_objects :
    fullTree.write "/dev/full" (listingBytes .jsonl [lightA]) =
      (.error (.piece 0 .noSpace), fullTree) := by
  apply write_fullTree
  show Utf8.encode (Listing.object lightA) ≠ []
  rw [Listing.object, String.append_assoc, Utf8.encode_append]
  exact List.cons_ne_nil _ _

/-- The first object does not fit. -/
theorem generate_of_listing_write_fault_full :
    exec (generate treeSystem [] ⟨"in.csv", "out", some .jsonl, some "/dev/full"⟩)
        { tree := fullTree } =
      (.error (.listing (.writeObject .noSpace)), { tree := fullTree }) := by
  have hread : exec (readExport treeSystem [] "in.csv") { tree := fullTree } =
      (.ok [lightA], { tree := fullTree }) := by
    rw [exec_readExport, exported_fullTree]
  have hwrite : (treeSystem.write (.file "/dev/full") (listingBytes .jsonl [lightA])).run
      { tree := fullTree } = (.error (.piece 0 .noSpace), { tree := fullTree }) := by
    rw [run_write_file, write_fullTree_objects]
  exact generate_of_listing_write_fault rfl hread hwrite

/-- Whether the fault of a full device names it depends on the format of the listing. -/
theorem listing_fault_by_format :
    (∃ final, (run treeSystem ["", "in.csv", "out", "-l", "jsonl", "--list-output", "/dev/full"]
        none).run { tree := fullTree } = (1, final) ∧
      ∃ told, final.reported = told ++ ("error: could not list the group addresses\n" ++
        "  because: could not serialize a group address to JSON\n" ++
        "  because: No space left on device (os error 28)\n")) ∧
    (outcome fullTree ⟨"in.csv", "out", some .jsonl, some "/dev/full"⟩).1 =
      .error (.listing (.writeObject .noSpace)) ∧
    (outcome fullTree ⟨"in.csv", "out", some .csv, some "/dev/full"⟩).1 =
      .error (.listing (.writeFile "/dev/full" .noSpace)) := by
  have hjsonl : (outcome fullTree ⟨"in.csv", "out", some .jsonl, some "/dev/full"⟩).1 =
      .error (.listing (.writeObject .noSpace)) := by
    rw [outcome, generate_eq_stages, exec_bind, exec_readExport]
    simp only [exported_fullTree]
    rw [exec_bind, exec_list_file rfl, run_write_file, write_fullTree_objects]
    rfl
  have hcsv : (outcome fullTree ⟨"in.csv", "out", some .csv, some "/dev/full"⟩).1 =
      .error (.listing (.writeFile "/dev/full" .noSpace)) := by
    rw [outcome, generate_eq_stages, exec_bind, exec_readExport]
    simp only [exported_fullTree]
    rfl
  have hparse : CommandLine.parse ["", "in.csv", "out", "-l", "jsonl", "--list-output",
      "/dev/full"].tail = .ok ⟨"in.csv", "out", some .jsonl, some "/dev/full"⟩ := by rfl
  refine ⟨?_, hjsonl, hcsv⟩
  obtain ⟨code, final, hrun, -, hcode⟩ := run_of_parse_ok hparse none fullTree
  simp only [hjsonl] at hcode
  obtain ⟨rfl, told, htold⟩ := hcode
  exact ⟨final, hrun, told, htold⟩

end Run

end KnxExport
