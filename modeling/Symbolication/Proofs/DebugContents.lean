import Symbolication.Proofs.DebugRows
import Symbolication.Proofs.SectionContents

/-! A line table is made of the byte order and of the contents of the debug sections. So it is the
same for two binaries that have these in common, however else they differ: in their word size, in
the order and the places of their sections, in their segments, code and symbols, and in the way in
which each of them stores a section. -/

namespace Symbolication

namespace Dwarf.DebugData

variable {file : Elf.ObjectFile} {data : DebugData} {contents : String → Bytes}

def ofContents (order : ByteOrder) (contents : String → Bytes) : DebugData where
  order := order
  abbreviations := contents "debug_abbrev"
  addresses := contents "debug_addr"
  info := contents "debug_info"
  lines := contents "debug_line"
  lineStrings := contents "debug_line_str"
  strings := contents "debug_str"
  stringOffsets := contents "debug_str_offsets"

/-- No other section is looked at. -/
theorem ofContents_congr {contents' : String → Bytes}
    (h : ∀ name ∈ sectionNames, contents name = contents' name) (order : ByteOrder) :
    ofContents order contents = ofContents order contents' := by
  rw [ofContents, h "debug_abbrev" (by decide), h "debug_addr" (by decide),
    h "debug_info" (by decide), h "debug_line" (by decide), h "debug_line_str" (by decide),
    h "debug_str" (by decide), h "debug_str_offsets" (by decide)]
  rfl

/-- There is debug data exactly if each section can be read, and it is made of what they have. -/
theorem ofObject_eq_ok_iff : ofObject file = .ok data ↔
    ∃ contents : String → Bytes, (∀ name ∈ sectionNames, file.HasContents name (contents name)) ∧
      data = ofContents file.layout.order contents := by
  unfold ofObject
  constructor
  · intro h
    split at h
    · cases h
    · next hreadable =>
      refine ⟨fun name => (file.debugContents? name).getD [], fun name hname => ?_,
        (Except.ok.inj h).symm⟩
      -- no default stands for a section that cannot be read
      have hsome := List.find?_eq_none.mp hreadable name hname
      obtain ⟨contents, hcontents⟩ := Option.ne_none_iff_exists'.mp (by simpa using hsome)
      simpa only [hcontents, Option.getD_some] using
        Elf.ObjectFile.debugContents?_eq_some_iff.mp hcontents
  · rintro ⟨contents, hcontents, rfl⟩
    have hread (name : String) (hname : name ∈ sectionNames) :
        file.debugContents? name = some (contents name) :=
      Elf.ObjectFile.debugContents?_eq_some_iff.mpr (hcontents name hname)
    have hreadable : sectionNames.find? (fun name => (file.debugContents? name).isNone) = none :=
      List.find?_eq_none.mpr fun name hname => by simp [hread name hname]
    have hdata : ofContents file.layout.order (fun name => (file.debugContents? name).getD []) =
        ofContents file.layout.order contents :=
      ofContents_congr (fun name hname => by rw [hread name hname, Option.getD_some]) _
    rw [hreadable]
    exact congrArg Except.ok hdata

theorem isPresent_iff :
    isPresent file = true ↔ ∃ s, file.debugSection? "debug_info" = some s ∧ 0 < s.header.size := by
  simp [isPresent, Elf.isFilled, Option.any_eq_true]

/-- Only an object file with a section of units has debug data. -/
theorem ofBytes_eq_ok_iff {bytes : Bytes} : ofBytes bytes = .ok data ↔
    ∃ file, Elf.ObjectFile.read? bytes = some file ∧ isPresent file = true ∧
      ofObject file = .ok data := by
  unfold ofBytes
  cases Elf.ObjectFile.read? bytes with
  | none => simp
  | some file => cases hpresent : isPresent file <;> simp [hpresent]

theorem ofBytes_of_hasContents {bytes : Bytes} (hread : Elf.ObjectFile.read? bytes = some file)
    (hinfo : ∃ s, file.debugSection? "debug_info" = some s ∧ 0 < s.header.size)
    (hcontents : ∀ name ∈ sectionNames, file.HasContents name (contents name)) :
    ofBytes bytes = .ok (ofContents file.layout.order contents) :=
  ofBytes_eq_ok_iff.mpr ⟨file, hread, isPresent_iff.mpr hinfo,
    ofObject_eq_ok_iff.mpr ⟨contents, hcontents, rfl⟩⟩

end Dwarf.DebugData

namespace LineTable

/-- Of the bytes of a binary only its debug data counts, also for what is noted. -/
theorem ofBinary_congr {files₁ files₂ : Files} {path : String} {bytes₁ bytes₂ : Bytes}
    (hfile₁ : files₁ path = .file bytes₁) (hfile₂ : files₂ path = .file bytes₂)
    (h : Dwarf.DebugData.ofBytes bytes₁ = Dwarf.DebugData.ofBytes bytes₂) :
    ofBinary files₁ path = ofBinary files₂ path := by
  simp only [ofBinary, Loading.content_of_file hfile₁, Loading.content_of_file hfile₂, pure_bind, h]

/-- Two binaries of one byte order, each with a section of units that is stored with some bytes,
have the same line table or fail for the same reason, if every section that is asked for can be read
and has the same contents in both. It is the same debug data that is decoded, and under one path
even what is noted is the same. -/
theorem ofBinary_of_common_contents (files₁ files₂ : Files) (path₁ path₂ : String)
    (bytes₁ bytes₂ : Bytes) (file₁ file₂ : Elf.ObjectFile)
    (hfile₁ : files₁ path₁ = .file bytes₁) (hfile₂ : files₂ path₂ = .file bytes₂)
    (hread₁ : Elf.ObjectFile.read? bytes₁ = some file₁)
    (hread₂ : Elf.ObjectFile.read? bytes₂ = some file₂)
    (horder : file₁.layout.order = file₂.layout.order)
    (hinfo₁ : ∃ s, file₁.debugSection? "debug_info" = some s ∧ 0 < s.header.size)
    (hinfo₂ : ∃ s, file₂.debugSection? "debug_info" = some s ∧ 0 < s.header.size)
    (hcontents : ∀ name ∈ Dwarf.DebugData.sectionNames,
      ∃ contents, file₁.HasContents name contents ∧ file₂.HasContents name contents) :
    Dwarf.DebugData.ofBytes bytes₁ = Dwarf.DebugData.ofBytes bytes₂ ∧
      ((∃ table, (ofBinary files₁ path₁).result = .ok table ∧
          (ofBinary files₂ path₂).result = .ok table) ∨
        ∃ fault, (ofBinary files₁ path₁).result = .error (.undecodable path₁ fault) ∧
          (ofBinary files₂ path₂).result = .error (.undecodable path₂ fault)) ∧
      (path₁ = path₂ → ofBinary files₁ path₁ = ofBinary files₂ path₂) := by
  choose! contents hcontents₁ hcontents₂ using hcontents
  have hdata₁ := Dwarf.DebugData.ofBytes_of_hasContents hread₁ hinfo₁ hcontents₁
  have hdata₂ := Dwarf.DebugData.ofBytes_of_hasContents hread₂ hinfo₂ hcontents₂
  rw [← horder] at hdata₂
  refine ⟨hdata₁.trans hdata₂.symm, ?_, ?_⟩
  · rw [result_ofBinary hfile₁ hdata₁, result_ofBinary hfile₂ hdata₂]
    cases (Dwarf.DebugData.ofContents file₁.layout.order contents).rows? with
    | some rows => exact .inl ⟨_, rfl, rfl⟩
    | none => exact .inr ⟨_, rfl, rfl⟩
  · rintro rfl
    exact ofBinary_congr hfile₁ hfile₂ (hdata₁.trans hdata₂.symm)

end LineTable

/-! ## The same units in another file

A file of the other word size, with a segment, code and a symbol. Its sections come in another
order. The units and the abbreviations are compressed under a flag, each by another method, and the
line program is stored under the name of its compressed form. The section of strings, which the
first file does not have, is there but empty. -/

namespace PackedBinary

open SmallBinary (little units abbreviations program)

/-- A stream of one block that is not compressed. -/
def zlib (contents : Bytes) : Bytes :=
  [0x78, 1, 1] ++ little 2 contents.length ++ little 2 (0xffff - contents.length) ++ contents ++
    (little 4 (Compression.Zlib.checksum contents.toArray)).reverse

/-- The units in one frame, with 26 coded literals and a match. -/
def unitsFrame : Bytes :=
  [0x28, 0xb5, 0x2f, 0xfd, 0x20, 0x24, 0xfd, 0x00, 0x00, 0xa2, 0xc1, 0x05, 0x0c, 0xd0, 0xe7, 0x55,
    0xfb, 0x02, 0x42, 0x58, 0x90, 0xcb, 0xec, 0x9d, 0x02, 0x53, 0x59, 0xff, 0x61, 0xbe, 0x06, 0xff,
    0xe7, 0x2f, 0x01, 0x01, 0x00, 0x64, 0x9b, 0x4b]

/-- A stream behind the record of a file of 64 bits. -/
def flagged (method : Nat) (contents stream : Bytes) : Bytes :=
  little 4 method ++ little 4 0 ++ little 8 contents.length ++ little 8 1 ++ stream

def marked (contents : Bytes) : Bytes :=
  Elf.compressedMark ++ (little 4 contents.length).reverse ++ zlib contents

def code : Bytes := [0x55, 0xc3]

def symbols : Bytes :=
  List.replicate 24 0 ++ little 4 1 ++ [2, 0] ++ little 2 2 ++ little 8 0 ++ little 8 2

def names : Bytes :=
  Bytes.ofAscii "\x00.text\x00.symtab\x00.strtab\x00.debug_info\x00.zdebug_line\x00" ++
    Bytes.ofAscii ".debug_abbrev\x00.debug_str\x00.shstrtab\x00"

structure Section where
  nameAt : Nat
  kind : Nat
  flags : Nat
  link : Nat
  contents : Bytes

def sections : List Section :=
  [⟨0, 0, 0, 0, []⟩, ⟨7, 2, 0, 3, symbols⟩, ⟨1, 1, 6, 0, code⟩, ⟨15, 3, 0, 0, names⟩,
    ⟨23, 1, 0x800, 0, flagged 2 units unitsFrame⟩, ⟨35, 1, 0, 0, marked program⟩,
    ⟨48, 1, 0x800, 0, flagged 1 abbreviations (zlib abbreviations)⟩, ⟨62, 8, 0, 0, []⟩,
    ⟨73, 3, 0, 0, names⟩]

def sectionHeaders (offset : Nat) : List Section → Bytes
  | [] => []
  | s :: rest =>
    little 4 s.nameAt ++ little 4 s.kind ++ little 8 s.flags ++ little 8 0 ++ little 8 offset ++
        little 8 s.contents.length ++ little 4 s.link ++ little 4 0 ++ little 8 1 ++ little 8 0 ++
      sectionHeaders (offset + s.contents.length) rest

def segment : Bytes := little 4 1 ++ little 4 5 ++ [0, 0, 0, 2, 2, 4096].flatMap (little 8)

def fileHeader : Bytes :=
  [0x7f] ++ Bytes.ofAscii "ELF" ++ [2, 1, 1] ++ List.replicate 9 0 ++ little 2 2 ++ little 2 62 ++
    little 4 1 ++ little 8 0 ++ little 8 64 ++ little 8 120 ++ little 4 0 ++
    [64, 56, 1, 64, 9, 8].flatMap (little 2)

def bytes : Bytes :=
  fileHeader ++ segment ++ sectionHeaders 696 sections ++ sections.flatMap (·.contents)

end PackedBinary

/-- The debug data of both binaries by the names of its sections. -/
def SmallBinary.contents (name : String) : Bytes :=
  match name with
  | "debug_abbrev" => abbreviations
  | "debug_info" => units
  | "debug_line" => program
  | _ => []

/-- A check that can be run on the bytes of either. -/
theorem Elf.ObjectFile.exists_of_holdsUnits (bytes : Bytes) (layout : Layout)
    (h : (read? bytes).any (fun file => file.layout = layout && Dwarf.DebugData.isPresent file &&
      Dwarf.DebugData.sectionNames.all fun name =>
        file.debugContents? name = some (SmallBinary.contents name)) = true) :
    ∃ file, read? bytes = some file ∧ file.layout = layout ∧
      (∃ s, file.debugSection? "debug_info" = some s ∧ 0 < s.header.size) ∧
      ∀ name ∈ Dwarf.DebugData.sectionNames,
        file.HasContents name (SmallBinary.contents name) := by
  obtain ⟨file, hread, h⟩ := (Option.any_eq_true _ _).mp h
  simp only [Bool.and_eq_true, decide_eq_true_eq, List.all_eq_true,
    Elf.ObjectFile.debugContents?_eq_some_iff, Dwarf.DebugData.isPresent_iff] at h
  exact ⟨file, hread, h.1.1, h.1.2, h.2⟩

namespace LineTable

/-- Both files have the one row of the units. -/
theorem ofBinary_of_common_contents_packed :
    ∃ file₁ file₂, Elf.ObjectFile.read? SmallBinary.bytes = some file₁ ∧
      Elf.ObjectFile.read? PackedBinary.bytes = some file₂ ∧
      file₁.layout = ⟨false, .little⟩ ∧ file₂.layout = ⟨true, .little⟩ ∧
      (∃ s, file₁.debugSection? "debug_info" = some s ∧ 0 < s.header.size) ∧
      (∃ s, file₂.debugSection? "debug_info" = some s ∧ 0 < s.header.size) ∧
      (∀ name ∈ Dwarf.DebugData.sectionNames,
        ∃ contents, file₁.HasContents name contents ∧ file₂.HasContents name contents) ∧
      (ofBinary (fun _ => .file SmallBinary.bytes) "a.out").result =
        .ok (ofRows [⟨"/src", "/src/a.c", 0, 1⟩]) ∧
      (ofBinary (fun _ => .file PackedBinary.bytes) "b.out").result =
        .ok (ofRows [⟨"/src", "/src/a.c", 0, 1⟩]) := by
  obtain ⟨file₁, hread₁, hlayout₁, hinfo₁, hcontents₁⟩ :=
    Elf.ObjectFile.exists_of_holdsUnits SmallBinary.bytes ⟨false, .little⟩ (by decide +kernel)
  obtain ⟨file₂, hread₂, hlayout₂, hinfo₂, hcontents₂⟩ :=
    Elf.ObjectFile.exists_of_holdsUnits PackedBinary.bytes ⟨true, .little⟩ (by decide +kernel)
  have hcontents (name : String) (hname : name ∈ Dwarf.DebugData.sectionNames) :
      ∃ contents, file₁.HasContents name contents ∧ file₂.HasContents name contents :=
    ⟨_, hcontents₁ name hname, hcontents₂ name hname⟩
  have hsmall : (ofBinary (fun _ => .file SmallBinary.bytes) "a.out").result =
      .ok (ofRows [⟨"/src", "/src/a.c", 0, 1⟩]) := by
    have hdata : Dwarf.DebugData.ofBytes SmallBinary.bytes = .ok SmallBinary.data := by
      decide +kernel
    have hrows : SmallBinary.data.rows? = some [⟨"/src", "/src/a.c", 0, 1⟩] := by decide +kernel
    rw [result_ofBinary rfl hdata, hrows]
  refine ⟨file₁, file₂, hread₁, hread₂, hlayout₁, hlayout₂, hinfo₁, hinfo₂, hcontents, hsmall, ?_⟩
  obtain ⟨-, ⟨table, htable₁, htable₂⟩ | ⟨fault, hfault, -⟩, -⟩ :=
    ofBinary_of_common_contents (fun _ => .file SmallBinary.bytes)
      (fun _ => .file PackedBinary.bytes) "a.out" "b.out" _ _ file₁ file₂ rfl rfl hread₁ hread₂
      (by rw [hlayout₁, hlayout₂]) hinfo₁ hinfo₂ hcontents
  · rw [htable₂, ← htable₁, hsmall]
  · rw [hsmall] at hfault
    cases hfault

end LineTable

end Symbolication
