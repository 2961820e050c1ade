import Mathlib.Data.Option.Basic
import Symbolication.Elf.Contents

/-! What the bytes of a section say about its contents. There are five ways to store contents, and
none of them leaves a choice: a section of no bytes in the file, the contents as they are, the two
methods of compression that a record under a flag may name, and the zlib stream behind a mark. Debug
information that no section has is empty. -/

namespace Symbolication

namespace Elf

/-! ## Compressed forms -/

/-- The first bytes that a stream gives are the contents. A stream may go on behind them. -/
def Inflates (stream contents : Bytes) : Prop :=
  Compression.Zlib.inflate? stream contents.length = some contents

theorem inflate?_eq_some_iff {stream contents : Bytes} {size : Nat} :
    inflate? stream size = some contents ↔ size = contents.length ∧ Inflates stream contents := by
  rw [inflate?, Option.filter_eq_some_iff, decide_eq_true_eq, Inflates]
  constructor
  · rintro ⟨h, rfl⟩
    exact ⟨rfl, h⟩
  · rintro ⟨rfl, h⟩
    exact ⟨h, rfl⟩

/-- The methods that a record may name, with what a stream gives by each. Nothing follows the frames
of a Zstandard stream. -/
inductive Expands : Nat → Bytes → Bytes → Prop
  | zlib {stream contents : Bytes} (h : Inflates stream contents) :
      Expands methodZlib stream contents
  | zstandard {stream contents : Bytes}
      (h : Compression.Zstandard.expand? stream = some contents) :
      Expands methodZstandard stream contents

theorem expand?_eq_some_iff {method size : Nat} {stream contents : Bytes} :
    expand? method stream size = some contents ↔
      size = contents.length ∧ Expands method stream contents := by
  unfold expand?
  constructor
  · intro h
    split at h
    · next hmethod =>
      obtain ⟨hsize, hstream⟩ := inflate?_eq_some_iff.mp h
      exact ⟨hsize, hmethod ▸ .zlib hstream⟩
    · split at h
      · next hmethod =>
        obtain ⟨hstream, hsize⟩ := Option.filter_eq_some_iff.mp h
        exact ⟨(of_decide_eq_true hsize).symm, hmethod ▸ .zstandard hstream⟩
      · cases h
  · rintro ⟨rfl, hstream⟩
    cases hstream with
    | zlib h => exact inflate?_eq_some_iff.mpr ⟨rfl, h⟩
    | zstandard h => exact Option.filter_eq_some_iff.mpr ⟨h, decide_eq_true rfl⟩

/-- The size in the record is that of the contents. -/
theorem Layout.compressed?_eq_some_iff {layout : Layout} {stored contents : Bytes} :
    layout.compressed? stored = some contents ↔
      ∃ method stream, layout.compression.run stored = some ((method, contents.length), stream) ∧
        Expands method stream contents := by
  simp only [Layout.compressed?, Option.bind_eq_bind, Option.bind_eq_some_iff,
    expand?_eq_some_iff]
  constructor
  · rintro ⟨⟨⟨method, _⟩, stream⟩, hheader, rfl, hstream⟩
    exact ⟨method, stream, hheader, hstream⟩
  · rintro ⟨method, stream, hheader, hstream⟩
    exact ⟨_, hheader, rfl, hstream⟩

/-- The size behind the mark has four bytes, the highest first. -/
theorem marked?_eq_some_iff {stored contents : Bytes} :
    marked? stored = some contents ↔
      ∃ size stream, size.length = 4 ∧ ByteOrder.big.value size = contents.length ∧
        stored = compressedMark ++ size ++ stream ∧ Inflates stream contents := by
  simp only [marked?, Option.bind_eq_bind, Option.bind_eq_some_iff, Option.guard_eq_some',
    inflate?_eq_some_iff, StateT.run_bind, StateT.run_pure]
  constructor
  · rintro ⟨_, ⟨⟨mark, rest⟩, hmark, ⟨_, stream⟩, hsize, hpair⟩, -, heq, hlength, hstream⟩
    cases hpair
    obtain rfl : mark = compressedMark := heq
    obtain ⟨-, rfl⟩ := Reader.take_eq_some_iff.mp hmark
    obtain ⟨size, hwidth, hvalue, rfl⟩ := Reader.number_eq_some_iff.mp hsize
    exact ⟨size, stream, hwidth, hvalue.trans hlength, (List.append_assoc ..).symm, hstream⟩
  · rintro ⟨size, stream, hwidth, hvalue, rfl, hstream⟩
    refine ⟨((compressedMark, contents.length), stream), ⟨(compressedMark, size ++ stream), ?_,
      (contents.length, stream), ?_, rfl⟩, (), rfl, rfl, hstream⟩
    · exact Reader.take_eq_some_iff.mpr ⟨rfl, List.append_assoc ..⟩
    · exact Reader.number_eq_some_iff.mpr ⟨size, hwidth, hvalue, rfl⟩

/-! ## Sections -/

/-- The flags say that the contents are compressed. -/
def Section.IsFlagged (s : Section) : Prop := s.header.flags.testBit flagCompressed = true

def Section.IsMarked (s : Section) : Prop := ∃ name, s.name = some name ∧ compressedName <+: name

theorem Section.isMarked_iff {s : Section} :
    s.IsMarked ↔ s.name.any (compressedName.isPrefixOf ·) = true := by
  simp only [IsMarked, Option.any_eq_true, List.isPrefixOf_iff_prefix]

namespace ObjectFile

variable {file : ObjectFile} {s : Section} {contents : Bytes}

/-- The section has these contents. The flags count before the name, and only a section of plain
contents may have no bytes in the file. -/
inductive Stores (file : ObjectFile) (s : Section) : Bytes → Prop
  | noBits (hflag : ¬ s.IsFlagged) (hname : ¬ s.IsMarked) (hkind : s.header.kind = kindNoBits) :
      Stores file s []
  | plain {contents : Bytes} (hflag : ¬ s.IsFlagged) (hname : ¬ s.IsMarked)
      (hkind : s.header.kind ≠ kindNoBits)
      (hstored : file.bytes.slice? s.header.offset s.header.size = some contents) :
      Stores file s contents
  | flagged {method : Nat} {stored stream contents : Bytes} (hflag : s.IsFlagged)
      (hkind : s.header.kind ≠ kindNoBits)
      (hstored : file.bytes.slice? s.header.offset s.header.size = some stored)
      (hheader : file.layout.compression.run stored = some ((method, contents.length), stream))
      (hstream : Expands method stream contents) : Stores file s contents
  | marked {size stream contents : Bytes} (hflag : ¬ s.IsFlagged) (hname : s.IsMarked)
      (hkind : s.header.kind ≠ kindNoBits)
      (hstored : file.bytes.slice? s.header.offset s.header.size =
        some (compressedMark ++ size ++ stream))
      (hwidth : size.length = 4) (hsize : ByteOrder.big.value size = contents.length)
      (hstream : Inflates stream contents) : Stores file s contents

/-- Only bytes of the file are taken as a compressed form. -/
theorem compressed_eq_some_iff {header : SectionHeader} {bytes : Bytes}
    {expand : Bytes → Option Bytes} :
    (do
      let stored ← header.stored? bytes
      guard (header.kind ≠ kindNoBits)
      expand stored) = some contents ↔
        header.kind ≠ kindNoBits ∧
          ∃ stored, bytes.slice? header.offset header.size = some stored ∧
            expand stored = some contents := by
  simp only [Option.bind_eq_bind, Option.bind_eq_some_iff, Option.guard_eq_some']
  constructor
  · rintro ⟨stored, hstored, -, hkind, h⟩
    rw [SectionHeader.stored?, if_neg hkind] at hstored
    exact ⟨hkind, stored, hstored, h⟩
  · rintro ⟨hkind, stored, hstored, h⟩
    exact ⟨stored, (if_neg hkind).trans hstored, (), hkind, h⟩

theorem contents?_eq_some_iff_of_flagged (hflag : s.IsFlagged) :
    file.contents? s = some contents ↔
      s.header.kind ≠ kindNoBits ∧
        ∃ stored, file.bytes.slice? s.header.offset s.header.size = some stored ∧
          file.layout.compressed? stored = some contents := by
  simp only [contents?, if_pos (show s.header.flags.testBit flagCompressed = true from hflag)]
  exact compressed_eq_some_iff

theorem contents?_eq_some_iff_of_marked (hflag : ¬ s.IsFlagged) (hname : s.IsMarked) :
    file.contents? s = some contents ↔
      s.header.kind ≠ kindNoBits ∧
        ∃ stored, file.bytes.slice? s.header.offset s.header.size = some stored ∧
          marked? stored = some contents := by
  simp only [contents?, if_neg (show ¬ s.header.flags.testBit flagCompressed = true from hflag),
    if_pos (Section.isMarked_iff.mp hname)]
  exact compressed_eq_some_iff

theorem contents?_of_plain (hflag : ¬ s.IsFlagged) (hname : ¬ s.IsMarked) :
    file.contents? s = s.header.stored? file.bytes := by
  simp only [contents?, if_neg (show ¬ s.header.flags.testBit flagCompressed = true from hflag),
    if_neg (fun h => hname (Section.isMarked_iff.mpr h))]
  exact bind_pure _

theorem Stores.contents? (h : file.Stores s contents) : file.contents? s = some contents := by
  cases h with
  | noBits hflag hname hkind =>
    rw [contents?_of_plain hflag hname, SectionHeader.stored?, if_pos hkind]
  | plain hflag hname hkind hstored =>
    rw [contents?_of_plain hflag hname, SectionHeader.stored?, if_neg hkind, hstored]
  | flagged hflag hkind hstored hheader hstream =>
    apply (contents?_eq_some_iff_of_flagged hflag).mpr
    exact ⟨hkind, _, hstored, Layout.compressed?_eq_some_iff.mpr ⟨_, _, hheader, hstream⟩⟩
  | marked hflag hname hkind hstored hwidth hsize hstream =>
    apply (contents?_eq_some_iff_of_marked hflag hname).mpr
    exact ⟨hkind, _, hstored, marked?_eq_some_iff.mpr ⟨_, _, hwidth, hsize, rfl, hstream⟩⟩

theorem contents?_eq_some_iff : file.contents? s = some contents ↔ file.Stores s contents := by
  refine ⟨fun h => ?_, Stores.contents?⟩
  by_cases hflag : s.IsFlagged
  · obtain ⟨hkind, stored, hstored, h⟩ := (contents?_eq_some_iff_of_flagged hflag).mp h
    obtain ⟨method, stream, hheader, hstream⟩ := Layout.compressed?_eq_some_iff.mp h
    exact .flagged hflag hkind hstored hheader hstream
  by_cases hname : s.IsMarked
  · obtain ⟨hkind, stored, hstored, h⟩ := (contents?_eq_some_iff_of_marked hflag hname).mp h
    obtain ⟨size, stream, hwidth, hsize, rfl, hstream⟩ := marked?_eq_some_iff.mp h
    exact .marked hflag hname hkind hstored hwidth hsize hstream
  rw [contents?_of_plain hflag hname, SectionHeader.stored?] at h
  by_cases hkind : s.header.kind = kindNoBits
  · rw [if_pos hkind] at h
    cases h
    exact .noBits hflag hname hkind
  · rw [if_neg hkind] at h
    exact .plain hflag hname hkind h

/-- The contents under a name of debug information: those of the first section of the name, or,
where there is none, of the first section of the name of its compressed form. Without either there
are none. -/
inductive HasContents (file : ObjectFile) (name : String) : Bytes → Prop
  | direct {s : Section} {contents : Bytes} (hfound : file.named? ("." ++ name) = some s)
      (hstores : file.Stores s contents) : HasContents file name contents
  | renamed {s : Section} {contents : Bytes} (hmissing : file.named? ("." ++ name) = none)
      (hfound : file.named? (".z" ++ name) = some s) (hstores : file.Stores s contents) :
      HasContents file name contents
  | absent (hmissing : file.named? ("." ++ name) = none)
      (hcompressed : file.named? (".z" ++ name) = none) : HasContents file name []

theorem debugContents?_eq_some_iff {name : String} :
    file.debugContents? name = some contents ↔ file.HasContents name contents := by
  unfold debugContents? debugSection?
  constructor
  · intro h
    cases hfound : file.named? ("." ++ name) with
    | some s =>
      rw [hfound] at h
      exact .direct hfound (contents?_eq_some_iff.mp h)
    | none =>
      cases hrenamed : file.named? (".z" ++ name) with
      | some s =>
        rw [hfound, hrenamed] at h
        exact .renamed hfound hrenamed (contents?_eq_some_iff.mp h)
      | none =>
        rw [hfound, hrenamed] at h
        cases h
        exact .absent hfound hrenamed
  · intro h
    cases h with
    | direct hfound hstores =>
      rw [hfound]
      exact contents?_eq_some_iff.mpr hstores
    | renamed hmissing hfound hstores =>
      rw [hmissing, hfound]
      exact contents?_eq_some_iff.mpr hstores
    | absent hmissing hcompressed => rw [hmissing, hcompressed, Option.or_none]

end ObjectFile

end Elf

end Symbolication
