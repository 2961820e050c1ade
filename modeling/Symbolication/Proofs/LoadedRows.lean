import Symbolication.Proofs.LineNumbers

namespace Symbolication

namespace LineTable

/-- The rows are in ascending order of their addresses, and each has a line, counted from 1. -/
structure IsCounted (table : LineTable) : Prop where
  ascending : table.toList.Pairwise fun r s => r.address ≤ s.address
  line : ∀ row ∈ table.toList, 1 ≤ row.line.toNat ∧ row.line.toNat < UInt64.size

/-- The rows are those of some places. Each comes from a place, and at the address of a place the
table answers with the row of a place at that address. -/
structure Covers {ω : Type} (table : LineTable) (places : List ω) (address : ω → Address)
    (IsRowOf : ω → Row → Prop) : Prop where
  origin : ∀ row ∈ table.toList, ∃ place ∈ places, IsRowOf place row
  found : ∀ place ∈ places, ∃ other ∈ places, address other = address place ∧
    ∃ row, table.rowAt? (address place) = some row ∧ IsRowOf other row

theorem isCounted_of_line_ne_zero {table : LineTable} (h : ∀ row ∈ table.toList, row.line ≠ 0) :
    table.IsCounted where
  ascending := table.ascending
  line row hrow := by
    have hzero : row.line.toNat ≠ 0 := fun hline => h row hrow (UInt64.toNat_inj.mp hline)
    exact ⟨by omega, row.line.toNat_lt_size⟩

/-- At the address of one of its rows a table answers with a row at that address. -/
theorem exists_rowAt?_of_mem {rows : List Row} {row : Row} (h : row ∈ rows) :
    ∃ found ∈ rows, (ofRows rows).rowAt? row.address = some found ∧
      found.address = row.address := by
  have hfloor : row ∈ Floor.floors Row.address rows row.address :=
    Floor.mem_floors_iff.mpr ⟨h, UInt64.le_refl _, fun _ _ hbelow => hbelow⟩
  cases hlast : (Floor.floors Row.address rows row.address).getLast? with
  | none =>
    rw [List.getLast?_eq_none_iff.mp hlast] at hfloor
    cases hfloor
  | some found =>
    have hfound := List.mem_of_getLast? hlast
    refine ⟨found, (Floor.mem_floors_iff.mp hfound).1, ?_, ?_⟩
    · rw [rowAt?_ofRows, hlast]
    · exact Floor.key_eq_of_mem_floors hfound hfloor

theorem covers_ofRows {ω : Type} {places : List ω} {address : ω → Address}
    {IsRowOf : ω → Row → Prop} {rows : List Row}
    (hrows : ∀ row ∈ rows, ∃ place ∈ places, IsRowOf place row)
    (hplaces : ∀ place ∈ places, ∃ row ∈ rows, IsRowOf place row)
    (haddress : ∀ place row, IsRowOf place row → row.address = address place) :
    (ofRows rows).Covers places address IsRowOf := by
  constructor
  · intro row hrow
    exact hrows row (mem_ofRows.mp hrow)
  · intro place hplace
    obtain ⟨row, hrow, hrowOf⟩ := hplaces place hplace
    obtain ⟨found, hfound, hrowAt, hsame⟩ := exists_rowAt?_of_mem hrow
    obtain ⟨other, hother, hotherOf⟩ := hrows found hfound
    rw [haddress place row hrowOf] at hrowAt hsame
    refine ⟨other, hother, ?_, found, hrowAt, hotherOf⟩
    rw [← haddress other found hotherOf, hsame]

end LineTable

/-! ## Dumps -/

/-- What a line of a dump says of a row: the file name, the line and the address. -/
def DumpLine.columns? : DumpLine → Option (String × Word × Address)
  | .row fileName line address => some (fileName, line, address)
  | .empty | .header _ | .foreign => none

theorem DumpLine.columns?_eq_some_iff {line : DumpLine} {fileName : String} {number : Word}
    {address : Address} :
    line.columns? = some (fileName, number, address) ↔ line = .row fileName number address := by
  cases line <;> simp [columns?]

def Row.columns (row : Row) : String × Word × Address := (row.fileName, row.line, row.address)

namespace LineDump

/-- A line that marks the end of a sequence has a dash for its line number. -/
def IsSequenceEnd (cs : List Char) : Prop :=
  ∃ fileName more, Text.words cs = fileName :: ['-'] :: more

theorem columns?_of_isSequenceEnd {cs : List Char} (h : IsSequenceEnd cs) :
    (DumpLine.ofLine cs).columns? = none := by
  obtain ⟨fileName, more, hwords⟩ := h
  rw [Option.eq_none_iff_forall_ne_some]
  rintro ⟨name, number, address⟩ hcolumns
  have hshows := ofLine_eq_row_iff.mp (DumpLine.columns?_eq_some_iff.mp hcolumns)
  obtain ⟨second, third, rest, hcells, hdecimal, -⟩ := hshows.columns
  rw [Text.words_trim, hwords] at hcells
  cases hcells
  exact nomatch Word.read?_eq_some_iff.mpr hdecimal

theorem map_columns_step (reading : Reading) (line : DumpLine) :
    (reading.step line).rows.toList.map Row.columns =
      reading.rows.toList.map Row.columns ++ line.columns?.toList := by
  cases line with
  | empty | header directory | foreign => simp [Reading.step, DumpLine.columns?]
  | row fileName line address => simp [Reading.step, DumpLine.columns?, Row.columns]

theorem map_columns_foldl_step (reading : Reading) (lines : List DumpLine) :
    (lines.foldl Reading.step reading).rows.toList.map Row.columns =
      reading.rows.toList.map Row.columns ++ lines.filterMap DumpLine.columns? := by
  induction lines generalizing reading with
  | nil => simp
  | cons line lines ih =>
    rw [List.foldl_cons, ih, map_columns_step, List.append_assoc, List.filterMap_cons]
    cases line.columns? <;> rfl

/-- A dump has a row for each line that is one, in the order of the lines. -/
theorem map_columns_rows (text : String) :
    (rows text).map Row.columns = (lines text).filterMap DumpLine.columns? := by
  rw [rows, map_columns_foldl_step]
  rfl

end LineDump

namespace LineTable

/-- The rows of a dump are what its lines say. -/
theorem covers_ofDump (text : String) :
    (ofDump text).value.Covers ((LineDump.lines text).filterMap DumpLine.columns?) (·.2.2)
      (fun columns row => row.columns = columns) := by
  have hcolumns := LineDump.map_columns_rows text
  apply covers_ofRows
  · intro row hrow
    exact ⟨row.columns, hcolumns ▸ List.mem_map_of_mem hrow, rfl⟩
  · intro columns hmem
    rw [← hcolumns] at hmem
    exact List.mem_map.mp hmem
  · rintro columns row rfl
    rfl

theorem isCounted_ofDump (text : String) : (ofDump text).value.IsCounted := by
  apply isCounted_of_line_ne_zero
  intro row hrow
  exact LineDump.line_ne_zero_of_mem_rows (mem_ofRows.mp hrow)

/-- The rows of debug data are those of the kept rows. -/
theorem covers_of_rows? {data : Dwarf.DebugData} {rows : List Row} (h : data.rows? = some rows) :
    (ofRows rows).Covers data.keptRows (·.row.address) data.Describes := by
  obtain ⟨hsound, hdescribes⟩ := Dwarf.DebugData.rows?_eq_some_iff.mp h
  rw [← Dwarf.DebugData.eq_of_forall₂_describes hdescribes]
  apply covers_ofRows
  · intro row hrow
    obtain ⟨kept, hkept, hrowOf⟩ := List.mem_filterMap.mp hrow
    exact ⟨kept, hkept, Dwarf.DebugData.describes_iff.mpr hrowOf⟩
  · intro kept hkept
    obtain ⟨row, hrow⟩ := Option.isSome_iff_exists.mp
      (Dwarf.DebugData.isSome_rowOf?_iff.mpr (hsound.names kept hkept))
    exact ⟨row, List.mem_filterMap.mpr ⟨kept, hkept, hrow⟩, Dwarf.DebugData.describes_iff.mpr hrow⟩
  · intro kept row hrow
    exact hrow.address

theorem isCounted_of_rows? {data : Dwarf.DebugData} {rows : List Row} (h : data.rows? = some rows) :
    (ofRows rows).IsCounted := by
  apply isCounted_of_line_ne_zero
  intro row hrow
  exact data.line_ne_zero_of_mem_rows h (mem_ofRows.mp hrow)

/-- A dump file that holds text always gives a table. -/
theorem result_ofDumpFile_eq_ok {files : Files} {path text : String} {bytes : Bytes}
    (hfile : files path = .file bytes) (htext : Text.Utf8.decode? bytes = some text) :
    (ofDumpFile files path).result = .ok (ofDump text).value := by
  have hread : files.readText path = .ok text := by
    simp [Files.readText, Files.read, hfile, bind, Except.bind, htext]
  simp only [ofDumpFile, Loading.result_bind, Loading.text, Loading.result_ofExcept, hread]
  rfl

/-- Every line table that is read is in order and has lines counted from 1, and an end of a sequence
neither becomes a row nor hides one: where there is a kept row, or a row of a dump, the table
answers with such a row at the same address, whatever sequences end there. -/
theorem loaded_rows (files : Files) (path : String) :
    (∀ table, (ofBinary files path).result = .ok table →
      table.IsCounted ∧ ∃ bytes data, files path = .file bytes ∧
        Dwarf.DebugData.ofBytes bytes = .ok data ∧
        (∀ kept ∈ data.keptRows, kept.row.endsSequence = false) ∧
        table.Covers data.keptRows (·.row.address) data.Describes) ∧
    (∀ text, (ofDump text).value.IsCounted ∧
      (∀ cs, LineDump.IsSequenceEnd cs → (DumpLine.ofLine cs).columns? = none) ∧
      (ofDump text).value.Covers ((LineDump.lines text).filterMap DumpLine.columns?) (·.2.2)
        (fun columns row => row.columns = columns)) ∧
    ∀ bytes text, files path = .file bytes → Text.Utf8.decode? bytes = some text →
      (ofDumpFile files path).result = .ok (ofDump text).value := by
  refine ⟨?_, ?_, ?_⟩
  · intro table htable
    obtain ⟨bytes, data, rows, hfile, hdata, hrows, rfl⟩ := exists_of_result_ofBinary htable
    refine ⟨isCounted_of_rows? hrows, bytes, data, hfile, hdata, ?_, covers_of_rows? hrows⟩
    intro kept hkept
    exact (Dwarf.ProgramRow.kept?_eq_some_iff.mp (Dwarf.DebugData.kept?_of_mem_keptRows hkept)).1
  · intro text
    exact ⟨isCounted_ofDump text, fun cs => LineDump.columns?_of_isSequenceEnd, covers_ofDump text⟩
  · intro bytes text hfile htext
    exact result_ofDumpFile_eq_ok hfile htext

end LineTable

/-! ## Two sequences that meet

The one unit has a program of two sequences. The second, which starts at 0, ends at 4, where the
first has its only kept row. -/

namespace MeetingSequences

def units : Bytes := SmallBinary.unit ([1] ++ SmallBinary.little 4 0 ++ Bytes.ofAscii "/src\x00")

def program : Bytes :=
  SmallBinary.framed (SmallBinary.little 2 2 ++ SmallBinary.framed SmallBinary.programHeader ++
    [0, 5, 2, 4, 0, 0, 0, 2, 9, 0, 1, 1] ++ [2, 9, 0, 1, 1])

def bytes : Bytes := SmallBinary.bytesWith units program

def data : Dwarf.DebugData :=
  ⟨.little, SmallBinary.abbreviations, [], units, program, [], [], []⟩

end MeetingSequences

/-- The row is found, although the other sequence ends there. -/
theorem LineTable.loaded_rows_meeting :
    (MeetingSequences.data.decodedUnits.flatMap fun unit =>
        unit.program.toList.flatMap fun program =>
          (program.rows.items.filter (·.endsSequence)).map (·.address)) = [8, 4] ∧
      ∃ table, (ofBinary (fun _ => .file MeetingSequences.bytes) "a.out").result = .ok table ∧
        ∃ row, table.rowAt? 4 = some row ∧ row.address = 4 ∧ row.line = 1 := by
  have hdata : Dwarf.DebugData.ofBytes MeetingSequences.bytes = .ok MeetingSequences.data := by
    decide +kernel
  have hkept : (MeetingSequences.data.keptRows.map fun kept => (kept.row.address, kept.row.line)) =
      [(4, 1), (0, 1)] := by decide +kernel
  have hok : (ofBinary (fun _ => .file MeetingSequences.bytes) "a.out").result.isOk = true := by
    decide +kernel
  refine ⟨by decide +kernel, ?_⟩
  cases hresult : (ofBinary (fun _ => .file MeetingSequences.bytes) "a.out").result with
  | error failure =>
    rw [hresult] at hok
    cases hok
  | ok table =>
    obtain ⟨-, bytes, data, hbytes, hdata', -, hcovers⟩ :=
      (loaded_rows (fun _ => .file MeetingSequences.bytes) "a.out").1 table hresult
    obtain rfl : MeetingSequences.bytes = bytes := Entry.file.inj hbytes
    obtain rfl : MeetingSequences.data = data := Except.ok.inj (hdata.symm.trans hdata')
    have hmem (place : Address × Word) : place ∈ [((4 : Address), (1 : Word)), (0, 1)] ↔
        ∃ kept ∈ MeetingSequences.data.keptRows, (kept.row.address, kept.row.line) = place := by
      rw [← hkept, List.mem_map]
    obtain ⟨kept, hmemKept, hplace⟩ := (hmem (4, 1)).mp (by simp)
    obtain ⟨haddress, -⟩ := Prod.mk.inj hplace
    obtain ⟨other, hother, hsame, row, hrow, hdescribes⟩ := hcovers.found kept hmemKept
    have hline := (hmem (other.row.address, other.row.line)).mpr ⟨other, hother, rfl⟩
    rw [haddress] at hsame hrow
    refine ⟨table, rfl, row, hrow, hdescribes.address.trans hsame, ?_⟩
    simpa [hdescribes.line, hsame] using hline

end Symbolication
