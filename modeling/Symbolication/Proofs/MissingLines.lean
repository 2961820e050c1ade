import Symbolication.Proofs.DebugContents
import Symbolication.Proofs.LineNumbers

namespace Symbolication

/-! ## Empty sections -/

namespace Reader

/-- There are no bytes to take. -/
theorem take_nil {length : Nat} (h : length ≠ 0) : (take length).run [] = none :=
  if_neg fun hlength => h (by simpa using hlength.symm)

theorem number_nil (order : ByteOrder) {width : Nat} (h : width ≠ 0) :
    (number order width).run [] = none := by
  rw [number, StateT.run_map, take_nil h]
  rfl

end Reader

theorem Bytes.slice?_eq_nil {bytes part : Bytes} {offset : Nat}
    (h : bytes.slice? offset 0 = some part) : part = [] := by
  unfold slice? at h
  rw [List.take_zero] at h
  simp only at h
  split at h
  · exact (Option.some.inj h).symm
  · cases h

namespace Elf

variable {file : ObjectFile} {contents : Bytes}

/-- Both forms of compressed contents start with a header. -/
theorem Layout.compression_nil (layout : Layout) : layout.compression.run [] = none := by
  have hmethod : layout.int.run [] = none := Reader.number_nil _ (by decide)
  rw [Layout.compression, StateT.run_bind, hmethod]
  rfl

theorem ObjectFile.contents?_eq_nil {s : Section} (hsize : s.header.size = 0)
    (h : file.contents? s = some contents) : contents = [] := by
  cases contents?_eq_some_iff.mp h with
  | noBits => rfl
  | plain _ _ _ hstored =>
    rw [hsize] at hstored
    exact Bytes.slice?_eq_nil hstored
  | flagged _ _ hstored hheader _ =>
    rw [hsize] at hstored
    rw [Bytes.slice?_eq_nil hstored, Layout.compression_nil] at hheader
    cases hheader
  | marked _ _ _ hstored _ _ _ =>
    rw [hsize] at hstored
    cases Bytes.slice?_eq_nil hstored

/-- A section of debug information that is missing or empty has no contents, if it can be read. -/
theorem ObjectFile.debugContents?_eq_nil {name : String}
    (hempty : isFilled (file.debugSection? name) = false)
    (h : file.debugContents? name = some contents) : contents = [] := by
  unfold debugContents? at h
  cases hsection : file.debugSection? name with
  | none =>
    rw [hsection] at h
    exact (Option.some.inj h).symm
  | some s =>
    rw [hsection] at h
    have hsize : s.header.size = 0 := by simpa [isFilled, hsection] using hempty
    exact ObjectFile.contents?_eq_nil hsize h

end Elf

/-! ## Units without a line program -/

namespace Dwarf

/-- A line program starts with its length. -/
theorem LineHeader.read_nil (order : ByteOrder) (size : Nat) (names : UnitNames) :
    (LineHeader.read order size names).run [] = none := by
  have hframe : (frame order).run [] = none := by
    rw [frame, StateT.run_bind, Reader.number_nil order (by decide)]
    rfl
  rw [LineHeader.read, StateT.run_bind, hframe]
  rfl

namespace DebugData

variable {data : DebugData}

theorem program?_eq_none (h : data.lines = []) (e : Encoding) (names : UnitNames) (offset : Nat) :
    data.program? e names offset = none := by
  have hread := LineHeader.read_nil data.order e.addressSize names
  rw [program?, h, List.drop_nil, StateT.run'_eq, hread]
  rfl

/-- A unit that names a line program does not decode, at whatever offset the program should be. -/
theorem program_eq_none_of_unit? (h : data.lines = []) {header : UnitHeader} {unit : CompileUnit}
    (hunit : data.unit? header = some unit) : unit.program = none := by
  obtain ⟨values, -, hunit⟩ := Option.bind_eq_some_iff.mp hunit
  cases hoffset : values.last? [Attribute.lineProgram] (·.offset? header.encoding) with
  | some offset =>
    rw [hoffset] at hunit
    obtain ⟨program, hprogram, -⟩ := Option.bind_eq_some_iff.mp hunit
    rw [program?_eq_none h] at hprogram
    cases hprogram
  | none =>
    rw [hoffset] at hunit
    obtain ⟨program, hprogram, hunit⟩ := Option.bind_eq_some_iff.mp hunit
    obtain ⟨_, -, hunit⟩ := Option.bind_eq_some_iff.mp hunit
    cases hprogram
    cases hunit
    rfl

theorem keptRows_eq_nil (h : data.lines = []) : data.keptRows = [] := by
  unfold keptRows decodedUnits
  apply List.flatMap_eq_nil_iff.mpr
  intro unit hunit
  obtain ⟨header, -, hdecoded⟩ := List.mem_filterMap.mp hunit
  rw [CompileUnit.keptRows, program_eq_none_of_unit? h hdecoded]

/-- Debug data without line programs has no rows, if all of it decodes. -/
theorem rows_eq_nil (h : data.lines = []) {rows : List Row} (hrows : data.rows? = some rows) :
    rows = [] := by
  obtain ⟨-, hdescribes⟩ := rows?_eq_some_iff.mp hrows
  rw [keptRows_eq_nil h] at hdescribes
  exact List.forall₂_nil_left_iff.mp hdescribes

/-- The line programs are those of the section that the binary has for them. -/
theorem debugContents?_of_ofObject {file : Elf.ObjectFile} (h : ofObject file = .ok data) :
    file.debugContents? "debug_line" = some data.lines := by
  obtain ⟨contents, hcontents, rfl⟩ := ofObject_eq_ok_iff.mp h
  exact Elf.ObjectFile.debugContents?_eq_some_iff.mpr (hcontents "debug_line" (by decide))

end DebugData

end Dwarf

/-! ## Tables without rows -/

namespace LineTable

variable {files : Files} {path : String} {bytes : Bytes} {file : Elf.ObjectFile}

theorem toList_ofRows_nil : (ofRows []).toList = [] := by
  rw [toList_ofRows, List.mergeSort_nil]

/-- The line table of a binary without line programs is empty. -/
theorem toList_eq_nil_of_ofBinary {table : LineTable} (hfile : files path = .file bytes)
    (hread : Elf.ObjectFile.read? bytes = some file)
    (hlines : Elf.isFilled (file.debugSection? "debug_line") = false)
    (h : (ofBinary files path).result = .ok table) : table.toList = [] := by
  obtain ⟨bytes', data, rows, hfile', hdata, hrows, rfl⟩ := exists_of_result_ofBinary h
  obtain rfl : bytes = bytes' := by
    rw [hfile] at hfile'
    exact Entry.file.inj hfile'
  obtain ⟨file', hread', -, hobject⟩ := Dwarf.DebugData.ofBytes_eq_ok_iff.mp hdata
  obtain rfl : file = file' := Option.some.inj (hread.symm.trans hread')
  have hnil : data.lines = [] :=
    Elf.ObjectFile.debugContents?_eq_nil hlines (Dwarf.DebugData.debugContents?_of_ofObject hobject)
  rw [Dwarf.DebugData.rows_eq_nil hnil hrows]
  exact toList_ofRows_nil

/-- A binary that can be read can only fail to give a line table because it does not decode. -/
theorem undecodable_of_result_ofBinary {failure : Failure} (hfile : files path = .file bytes)
    (h : (ofBinary files path).result = .error failure) :
    ∃ fault, failure = .undecodable path fault := by
  cases hdata : Dwarf.DebugData.ofBytes bytes with
  | error fault =>
    refine ⟨fault, ?_⟩
    simp only [ofBinary, Loading.content_of_file hfile, pure_bind, hdata] at h
    exact (Except.error.inj h).symm
  | ok data =>
    rw [result_ofBinary hfile hdata] at h
    split at h
    · cases h
    · exact ⟨.malformed, (Except.error.inj h).symm⟩

/-- A table without rows has none for any address. -/
theorem lookUp_of_toList_eq_nil {table : LineTable} (h : table.toList = []) (a : Address) :
    table.lookUp a = .error (.noLineInfo a) := by
  apply lookUp_eq_error_iff.mpr
  refine ⟨?_, rfl⟩
  rw [rowAt?_eq_getLast?, h]
  rfl

end LineTable

/-! ## The check of the target -/

namespace Elf

/-- There is no section to which the name leads, or it is stored with no bytes. -/
theorem isFilled_eq_false_iff {s : Option Section} :
    isFilled s = false ↔ ∀ found, s = some found → found.header.size = 0 := by
  cases s with
  | none => simp [isFilled]
  | some found => simp [isFilled]

/-- What a check of the target says about line programs. -/
theorem ObjectFile.shortage?_lines_iff {file : ObjectFile} :
    file.shortage? = some .everything ∨ file.shortage? = some .lines ↔
      isFilled (file.debugSection? "debug_line") = false := by
  unfold shortage?
  cases isFilled (file.debugSection? "debug_line") <;> cases isFilled (file.named? ".symtab") <;>
    simp

end Elf

namespace LineTable

/-- Where the check of a binary finds no section of line programs that holds bytes, decoding agrees
with it: the binary does not decode, or its table is empty and every static address is a miss. -/
theorem ofBinary_without_lines (files : Files) (path : String) (bytes : Bytes)
    (file : Elf.ObjectFile) (hfile : files path = .file bytes)
    (hread : Elf.ObjectFile.read? bytes = some file)
    (hlines : ∀ s, file.debugSection? "debug_line" = some s → s.header.size = 0) :
    (file.shortage? = some .everything ∨ file.shortage? = some .lines) ∧
      ((∃ fault, (ofBinary files path).result = .error (.undecodable path fault)) ∨
        ∃ table, (ofBinary files path).result = .ok table ∧ table.isEmpty = true ∧
          ∀ symbols a, (Engine.static table symbols).lookUp a = .error (.noLineInfo a)) := by
  have hempty := Elf.isFilled_eq_false_iff.mpr hlines
  refine ⟨Elf.ObjectFile.shortage?_lines_iff.mpr hempty, ?_⟩
  cases hresult : (ofBinary files path).result with
  | error failure =>
    left
    obtain ⟨fault, rfl⟩ := undecodable_of_result_ofBinary hfile hresult
    exact ⟨fault, rfl⟩
  | ok table =>
    right
    have hnil := toList_eq_nil_of_ofBinary hfile hread hempty hresult
    refine ⟨table, rfl, ?_, ?_⟩
    · simpa [isEmpty, toList] using hnil
    · intro symbols a
      exact lookUp_of_toList_eq_nil hnil a

end LineTable

/-! ## A binary without line programs

The section of line programs is there, but holds nothing. The one unit names no line program. -/

namespace LinelessBinary

def bytes : Bytes :=
  SmallBinary.bytesWith (SmallBinary.unit ([2] ++ Bytes.ofAscii "/x\x00")) []

end LinelessBinary

/-- The unit decodes, so the table is empty. -/
theorem LineTable.ofBinary_without_lines_unit :
    ∃ file table, Elf.ObjectFile.read? LinelessBinary.bytes = some file ∧
      (∀ s, file.debugSection? "debug_line" = some s → s.header.size = 0) ∧
      (ofBinary (fun _ => .file LinelessBinary.bytes) "a.out").result = .ok table ∧
      table.isEmpty = true := by
  have hchecked : (Elf.ObjectFile.read? LinelessBinary.bytes).map
      (fun file => Elf.isFilled (file.debugSection? "debug_line")) = some false := by
    decide +kernel
  obtain ⟨file, hread, hempty⟩ := Option.map_eq_some_iff.mp hchecked
  have hlines := Elf.isFilled_eq_false_iff.mp hempty
  have hok : (ofBinary (fun _ => .file LinelessBinary.bytes) "a.out").result.isOk = true := by
    decide +kernel
  obtain ⟨-, ⟨fault, hfault⟩ | ⟨table, htable, hnone, -⟩⟩ :=
    ofBinary_without_lines (fun _ => .file LinelessBinary.bytes) "a.out" _ file rfl hread hlines
  · rw [hfault] at hok
    cases hok
  · exact ⟨file, table, hread, hlines, htable, hnone⟩

end Symbolication
