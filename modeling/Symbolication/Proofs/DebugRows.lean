import Mathlib.Data.List.Forall2
import Symbolication.Binary

namespace Symbolication

theorem Text.joinPath_eq (directory name : String) :
    joinPath directory name =
      if name.toList.head? = some '/' then name
      else if directory = "" ∨ directory.toList.getLast? = some '/' then directory ++ name
      else directory ++ "/" ++ name := by
  have hslash : (directory.toList.getLast?.all (· == '/')) = true ↔
      directory = "" ∨ directory.toList.getLast? = some '/' := by
    cases hlast : directory.toList.getLast? with
    | none => simpa [List.getLast?_eq_none_iff] using hlast
    | some c =>
      have : directory ≠ "" := by
        rintro rfl
        simp at hlast
      simp [this]
  simp only [joinPath, hslash]

theorem Text.joinPath_empty (name : String) : joinPath "" name = name := by
  simp [joinPath]

namespace Dwarf

/-- The file of a row that becomes a row of the table: the row is no end of a sequence, has a line,
and its file is known. -/
def ProgramRow.kept? (row : ProgramRow) : Option FileEntry :=
  if row.endsSequence ∨ row.line = 0 then none else row.file

/-- A kept row with the unit and the tables by which its file is named. -/
structure KeptRow where
  unit : CompileUnit
  tables : FileTables
  row : ProgramRow
  file : FileEntry

/-- The kept rows of a unit in the order of its program. -/
def CompileUnit.keptRows (unit : CompileUnit) : List KeptRow :=
  match unit.program with
  | none => []
  | some program => program.rows.items.filterMap fun row =>
      row.kept?.map fun file => ⟨unit, program.header.tables, row, file⟩

namespace DebugData

variable {data : DebugData}

/-- The units that decode, in the order of their section. -/
def decodedUnits (data : DebugData) : List CompileUnit := data.headers.items.filterMap data.unit?

def keptRows (data : DebugData) : List KeptRow := data.decodedUnits.flatMap CompileUnit.keptRows

/-- The name of the row's file decodes, and so does that of its directory, if it has one. -/
def IsNamed (data : DebugData) (kept : KeptRow) : Prop :=
  (data.text? kept.unit kept.file.path).isSome ∧
    ∀ value ∈ kept.tables.directory? kept.file.directoryIndex, (data.text? kept.unit value).isSome

/-- Everything decodes: the unit headers, the units, the rows of the line programs, and the names of
the kept rows. -/
structure Sound (data : DebugData) : Prop where
  headers : data.headers.complete = true
  units : ∀ header ∈ data.headers.items, (data.unit? header).isSome
  programs : ∀ unit ∈ data.decodedUnits, ∀ program ∈ unit.program, program.rows.complete = true
  names : ∀ kept ∈ data.keptRows, data.IsNamed kept

/-- The row of the table that comes from a kept row. -/
structure Describes (data : DebugData) (kept : KeptRow) (row : Row) : Prop where
  directory : row.directory = (kept.unit.names.directory.map Text.Utf8.decodeLossy).getD ""
  address : row.address = kept.row.address
  line : row.line = kept.row.line
  fileName : ∃ name, data.text? kept.unit kept.file.path = some name ∧
    match kept.tables.directory? kept.file.directoryIndex with
    | none => row.fileName = name
    | some value => ∃ directory, data.text? kept.unit value = some directory ∧
        row.fileName =
          if name.toList.head? = some '/' then name
          else if directory = "" ∨ directory.toList.getLast? = some '/' then directory ++ name
          else directory ++ "/" ++ name

/-! ## One row -/

def rowOf? (data : DebugData) (kept : KeptRow) : Option Row :=
  (data.fileName? kept.unit kept.tables kept.file).map fun fileName =>
    ⟨directoryOf kept.unit, fileName, kept.row.address, kept.row.line⟩

theorem fileName?_of_none {unit : CompileUnit} {tables : FileTables} {file : FileEntry}
    (h : tables.directory? file.directoryIndex = none) :
    data.fileName? unit tables file = data.text? unit file.path := by
  cases hname : data.text? unit file.path <;> simp [fileName?, h, hname, Text.joinPath_empty]

theorem fileName?_of_some {unit : CompileUnit} {tables : FileTables} {file : FileEntry}
    {value : Value} (h : tables.directory? file.directoryIndex = some value) :
    data.fileName? unit tables file =
      (data.text? unit value).bind fun directory =>
        (data.text? unit file.path).map fun name => Text.joinPath directory name := by
  cases hdirectory : data.text? unit value with
  | none => simp [fileName?, h, hdirectory]
  | some directory =>
    cases hname : data.text? unit file.path <;> simp [fileName?, h, hdirectory, hname]

theorem describes_iff {kept : KeptRow} {row : Row} :
    data.Describes kept row ↔ data.rowOf? kept = some row := by
  have hname : data.fileName? kept.unit kept.tables kept.file = some row.fileName ↔
      ∃ name, data.text? kept.unit kept.file.path = some name ∧
        match kept.tables.directory? kept.file.directoryIndex with
        | none => row.fileName = name
        | some value => ∃ directory, data.text? kept.unit value = some directory ∧
            row.fileName = Text.joinPath directory name := by
    cases hdirectory : kept.tables.directory? kept.file.directoryIndex with
    | none =>
      rw [fileName?_of_none hdirectory]
      simp [eq_comm]
    | some value =>
      rw [fileName?_of_some hdirectory]
      simp only [Option.bind_eq_some_iff, Option.map_eq_some_iff]
      grind
  simp only [Text.joinPath_eq] at hname
  rw [rowOf?, Option.map_eq_some_iff]
  constructor
  · intro h
    refine ⟨row.fileName, hname.mpr h.fileName, ?_⟩
    rw [directoryOf, ← h.directory, ← h.address, ← h.line]
  · rintro ⟨fileName, hfileName, rfl⟩
    exact ⟨rfl, rfl, rfl, hname.mp hfileName⟩

theorem isSome_rowOf?_iff {kept : KeptRow} : (data.rowOf? kept).isSome ↔ data.IsNamed kept := by
  rw [rowOf?, Option.isSome_map, IsNamed]
  cases hdirectory : kept.tables.directory? kept.file.directoryIndex with
  | none => simp [fileName?_of_none hdirectory]
  | some value =>
    rw [fileName?_of_some hdirectory]
    cases hvalue : data.text? kept.unit value <;> simp [hvalue]

/-- The loop keeps what becomes a row of the table, and stops at a kept row without a name. -/
theorem event?_bind_row? {unit : CompileUnit} {program : LineProgram} (row : ProgramRow) :
    (data.event? unit program.header.tables row).bind RowEvent.row? =
      row.kept?.bind fun file => data.rowOf? ⟨unit, program.header.tables, row, file⟩ := by
  simp only [event?, ProgramRow.kept?, rowOf?]
  by_cases hend : row.endsSequence = true
  · simp [hend, RowEvent.row?]
  · cases hfile : row.file with
    | none => simp [hend, RowEvent.row?]
    | some file =>
      by_cases hline : row.line = 0
      · simp [hend, hline, RowEvent.row?]
      · cases hname : data.fileName? unit program.header.tables file <;>
          simp [hend, hline, hname, RowEvent.row?]

theorem isSome_event?_iff {unit : CompileUnit} {program : LineProgram} (row : ProgramRow) :
    (data.event? unit program.header.tables row).isSome ↔
      ∀ file ∈ row.kept?, data.IsNamed ⟨unit, program.header.tables, row, file⟩ := by
  simp only [← isSome_rowOf?_iff, event?, ProgramRow.kept?, rowOf?]
  by_cases hend : row.endsSequence = true
  · simp [hend]
  · cases hfile : row.file with
    | none => simp [hend]
    | some file => by_cases hline : row.line = 0 <;> simp [hend, hline]

/-! ## One unit -/

theorem mem_keptRows_of_program {unit : CompileUnit} {program : LineProgram}
    (h : unit.program = some program) {kept : KeptRow} :
    kept ∈ unit.keptRows ↔ ∃ row ∈ program.rows.items, ∃ file ∈ row.kept?,
      ⟨unit, program.header.tables, row, file⟩ = kept := by
  simp [CompileUnit.keptRows, h, List.mem_filterMap, Option.map_eq_some_iff]

theorem unitEvents_complete_iff (unit : CompileUnit) :
    (data.unitEvents unit).complete = true ↔
      (∀ program ∈ unit.program, program.rows.complete = true) ∧
        ∀ kept ∈ unit.keptRows, data.IsNamed kept := by
  cases hprogram : unit.program with
  | none => simp [unitEvents, CompileUnit.keptRows, hprogram]
  | some program =>
    simp only [unitEvents, hprogram, Decoded.bind_complete_iff, Decoded.ofOption_complete,
      isSome_event?_iff, mem_keptRows_of_program hprogram]
    constructor
    · rintro ⟨hcomplete, hnames⟩
      refine ⟨fun p hp => Option.some.inj hp ▸ hcomplete, ?_⟩
      rintro kept ⟨row, hrow, file, hfile, rfl⟩
      exact hnames row hrow file hfile
    · rintro ⟨hcomplete, hnames⟩
      refine ⟨hcomplete program rfl, fun row hrow file hfile => ?_⟩
      exact hnames _ ⟨row, hrow, file, hfile, rfl⟩

theorem filterMap_unitEvents {unit : CompileUnit} (h : (data.unitEvents unit).complete = true) :
    (data.unitEvents unit).items.filterMap RowEvent.row? =
      unit.keptRows.filterMap data.rowOf? := by
  cases hprogram : unit.program with
  | none => simp [unitEvents, CompileUnit.keptRows, hprogram]
  | some program =>
    simp only [unitEvents, hprogram] at h ⊢
    rw [Decoded.items_bind h]
    simp only [Decoded.items_ofOption, ← List.filterMap_eq_flatMap_toList,
      List.filterMap_filterMap, CompileUnit.keptRows, hprogram, Option.bind_map]
    apply List.filterMap_congr
    intro row _
    exact event?_bind_row? row

/-! ## All units -/

theorem units_complete_iff : data.units.complete = true ↔
    data.headers.complete = true ∧ ∀ header ∈ data.headers.items, (data.unit? header).isSome := by
  simp only [units, Decoded.bind_complete_iff, Decoded.ofOption_complete]

theorem items_units (h : data.units.complete = true) : data.units.items = data.decodedUnits := by
  rw [units, Decoded.items_bind h]
  simp only [Decoded.items_ofOption, decodedUnits, List.filterMap_eq_flatMap_toList]

/-- Nothing is malformed exactly if everything decodes that the table needs. -/
theorem events_complete_iff : data.events.complete = true ↔ data.Sound := by
  rw [events, Decoded.bind_complete_iff]
  constructor
  · rintro ⟨hunits, hevents⟩
    obtain ⟨hheaders, hheader⟩ := units_complete_iff.mp hunits
    rw [items_units hunits] at hevents
    have hunit (unit : CompileUnit) (h : unit ∈ data.decodedUnits) :=
      (unitEvents_complete_iff unit).mp (hevents unit h)
    refine ⟨hheaders, hheader, fun unit h => (hunit unit h).1, fun kept hkept => ?_⟩
    obtain ⟨unit, h, hkept⟩ := List.mem_flatMap.mp hkept
    exact (hunit unit h).2 kept hkept
  · intro h
    have hunits := units_complete_iff.mpr ⟨h.headers, h.units⟩
    refine ⟨hunits, fun unit hunit => ?_⟩
    rw [items_units hunits] at hunit
    exact (unitEvents_complete_iff unit).mpr ⟨h.programs unit hunit,
      fun kept hkept => h.names kept (List.mem_flatMap.mpr ⟨unit, hunit, hkept⟩)⟩

theorem filterMap_events (h : data.events.complete = true) :
    data.events.items.filterMap RowEvent.row? = data.keptRows.filterMap data.rowOf? := by
  obtain ⟨hunits, hunit⟩ := (Decoded.bind_complete_iff data.units data.unitEvents).mp h
  rw [events, Decoded.items_bind h, List.filterMap_flatMap, keptRows, List.filterMap_flatMap,
    ← items_units hunits]
  exact List.flatMap_congr fun unit hmem => filterMap_unitEvents (hunit unit hmem)

/-- Where every kept row is named, each becomes one row, in the order of the kept rows. -/
theorem forall₂_describes {kept : List KeptRow} (h : ∀ k ∈ kept, data.IsNamed k) :
    List.Forall₂ data.Describes kept (kept.filterMap data.rowOf?) := by
  induction kept with
  | nil => exact .nil
  | cons k rest ih =>
    have hnamed := isSome_rowOf?_iff.mpr (h k List.mem_cons_self)
    obtain ⟨row, hrow⟩ := Option.isSome_iff_exists.mp hnamed
    rw [List.filterMap_cons_some hrow]
    exact .cons (describes_iff.mpr hrow) (ih fun k hk => h k (List.mem_cons_of_mem _ hk))

/-- A kept row is described by one row at most, so the kept rows determine the whole list. -/
theorem eq_of_forall₂_describes {kept : List KeptRow} {rows : List Row}
    (h : List.Forall₂ data.Describes kept rows) : kept.filterMap data.rowOf? = rows := by
  induction h with
  | nil => rfl
  | cons hrow _ ih => rw [List.filterMap_cons_some (describes_iff.mp hrow), ih]

theorem rows?_eq_none_iff : data.rows? = none ↔ ¬ data.Sound := by
  rw [← events_complete_iff, rows?, Decoded.all?]
  cases data.events.complete <;> simp

theorem rows?_eq_some_iff {rows : List Row} :
    data.rows? = some rows ↔ data.Sound ∧ List.Forall₂ data.Describes data.keptRows rows := by
  rw [rows?, Decoded.all?]
  by_cases h : data.events.complete = true
  · have hsound := events_complete_iff.mp h
    have hrows := forall₂_describes hsound.names
    simp only [h, if_true, Option.map_some, Option.some.injEq, filterMap_events h]
    constructor
    · rintro rfl
      exact ⟨hsound, hrows⟩
    · rintro ⟨-, hdescribes⟩
      exact eq_of_forall₂_describes hdescribes
  · have : ¬ data.Sound := fun hsound => h (events_complete_iff.mpr hsound)
    simp [h, this]

end DebugData

end Dwarf

/-! ## A small binary

Two units, of which the first has no line program. The program of the second emits a row of its
file, a row without a line and the end of the sequence. -/

namespace SmallBinary

/-- The bytes of a number, the lowest first. -/
def little (width n : Nat) : Bytes := (List.range width).map fun i => UInt8.ofNat (n >>> (8 * i))

/-- A part behind its length. -/
def framed (part : Bytes) : Bytes := little 4 part.length ++ part

/-- An entry with a line program and a directory, and one with a directory alone. -/
def abbreviations : Bytes :=
  [1, 0x11, 0, 0x10, 0x17, 0x1b, 0x08, 0, 0] ++ [2, 0x11, 0, 0x1b, 0x08, 0, 0] ++ [0]

def unit (entry : Bytes) : Bytes := framed (little 2 4 ++ little 4 0 ++ [4] ++ entry)

def units : Bytes :=
  unit ([2] ++ Bytes.ofAscii "/x\x00") ++ unit ([1] ++ little 4 0 ++ Bytes.ofAscii "/src\x00")

def programHeader : Bytes :=
  [1, 1, 0xff, 2, 1] ++ [0] ++ Bytes.ofAscii "a.c\x00" ++ [0, 0, 0] ++ [0]

def program : Bytes := framed (little 2 2 ++ framed programHeader ++ [2, 1, 0, 1, 1])

def names : Bytes := Bytes.ofAscii "\x00.debug_info\x00.debug_abbrev\x00.debug_line\x00"

/-- The sections, each with the offset of its name, its kind and its contents. -/
def sections : List (Nat × Nat × Bytes) :=
  [(0, 0, []), (1, 1, units), (13, 1, abbreviations), (27, 1, program), (0, 3, names)]

/-- The headers of sections whose contents follow each other from an offset on. -/
def sectionHeaders (offset : Nat) : List (Nat × Nat × Bytes) → Bytes
  | [] => []
  | (nameAt, kind, contents) :: rest =>
    [nameAt, kind, 0, 0, offset, contents.length, 0, 0, 0, 0].flatMap (little 4) ++
      sectionHeaders (offset + contents.length) rest

def fileHeader : Bytes :=
  [0x7f] ++ Bytes.ofAscii "ELF" ++ [1, 1, 1] ++ List.replicate 9 0 ++
    [0, 0, 0, 0, 52, 0].flatMap (little 4) ++ [0, 0, 0, 40, 5, 4].flatMap (little 2)

def bytes : Bytes :=
  fileHeader ++ sectionHeaders 252 sections ++ sections.flatMap fun (_, _, contents) => contents

def data : Dwarf.DebugData := ⟨.little, abbreviations, [], units, program, [], [], []⟩

/-- The same binary with other units and another line program. -/
def bytesWith (units program : Bytes) : Bytes :=
  let sections : List (Nat × Nat × Bytes) :=
    [(0, 0, []), (1, 1, units), (13, 1, abbreviations), (27, 1, program), (0, 3, names)]
  fileHeader ++ sectionHeaders 252 sections ++ sections.flatMap fun (_, _, contents) => contents

end SmallBinary

/-- An object file always has an index of its symbols, be it empty. -/
theorem SymbolIndex.result_ofBinary {files : Files} {path : String} {bytes : Bytes}
    (hfile : files path = .file bytes) :
    (ofBinary files path).result =
      match Elf.ObjectFile.read? bytes with
      | some file => .ok (ofObject file)
      | none => .error (.undecodable path .malformed) := by
  simp only [ofBinary, Loading.content_of_file hfile, pure_bind]
  cases Elf.ObjectFile.read? bytes with
  | none => rfl
  | some file =>
    simp only
    split <;> rfl

namespace LineTable

/-- With readable debug data, only the rows of the data can keep a binary from having a table. -/
theorem result_ofBinary {files : Files} {path : String} {bytes : Bytes} {data : Dwarf.DebugData}
    (hfile : files path = .file bytes) (hdata : Dwarf.DebugData.ofBytes bytes = .ok data) :
    (ofBinary files path).result =
      match data.rows? with
      | some rows => .ok (ofRows rows)
      | none => .error (.undecodable path .malformed) := by
  rw [ofBinary, Loading.content_of_file hfile, pure_bind, hdata]
  change (Loading.ofNoted (ofDebugData data) >>= _).result = _
  rw [ofDebugData]
  cases data.rows? <;> rfl

/-- The line table of a binary with readable debug data: there is one exactly if everything decodes,
it has one row for each kept row, in order, and otherwise there is a failure and no part of a
table. -/
theorem ofBinary_exact (files : Files) (path : String) (bytes : Bytes) (data : Dwarf.DebugData)
    (hfile : files path = .file bytes) (hdata : Dwarf.DebugData.ofBytes bytes = .ok data) :
    ((∃ table, (ofBinary files path).result = .ok table) ↔ data.Sound) ∧
      (∀ table, (ofBinary files path).result = .ok table →
        ∃ rows, List.Forall₂ data.Describes data.keptRows rows ∧ table = ofRows rows) ∧
      (¬ data.Sound → (ofBinary files path).result = .error (.undecodable path .malformed)) := by
  rw [result_ofBinary hfile hdata]
  cases hrows : data.rows? with
  | none =>
    have hunsound := Dwarf.DebugData.rows?_eq_none_iff.mp hrows
    simp [hunsound]
  | some rows =>
    obtain ⟨hsound, hdescribes⟩ := Dwarf.DebugData.rows?_eq_some_iff.mp hrows
    refine ⟨iff_of_true ⟨_, rfl⟩ hsound, ?_, fun hunsound => absurd hsound hunsound⟩
    intro table htable
    exact ⟨rows, hdescribes, (Except.ok.inj htable).symm⟩

theorem ofBinary_exact_small :
    (ofBinary (fun _ => .file SmallBinary.bytes) "a.out").result =
      .ok (ofRows [⟨"/src", "/src/a.c", 0, 1⟩]) := by
  have hrows : SmallBinary.data.rows? = some [⟨"/src", "/src/a.c", 0, 1⟩] := by decide +kernel
  obtain ⟨hsound, hdescribes⟩ := Dwarf.DebugData.rows?_eq_some_iff.mp hrows
  obtain ⟨hiff, htables, -⟩ := ofBinary_exact (fun _ => .file SmallBinary.bytes) "a.out"
    SmallBinary.bytes SmallBinary.data rfl (by decide +kernel)
  obtain ⟨table, htable⟩ := hiff.mpr hsound
  obtain ⟨rows, hrows, rfl⟩ := htables table htable
  rw [htable, ← Dwarf.DebugData.eq_of_forall₂_describes hrows,
    Dwarf.DebugData.eq_of_forall₂_describes hdescribes]

end LineTable

end Symbolication
