import Symbolication.Proofs.DumpLayout
import Symbolication.Proofs.WrittenNumbers

namespace Symbolication

/-- A row is read from its columns and from nothing else. -/
theorem DumpLine.row?_eq_some_iff {cs : List Char} {line : DumpLine} : row? cs = some line ↔
    ∃ first second third more number address,
      Text.words cs = first :: second :: third :: more ∧ Word.IsDecimal second number ∧
        Address.read? third = some address ∧ number ≠ 0 ∧
        line = .row (String.ofList first) number address := by
  constructor
  · intro h
    rw [row?] at h
    split at h
    · next first second third more hwords =>
      split at h
      · next number address hnumber haddress =>
        split at h
        · cases h
        · next hzero =>
          exact ⟨first, second, third, more, number, address, hwords,
            Word.read?_eq_some_iff.mp hnumber, haddress, hzero, (Option.some.inj h).symm⟩
      · cases h
    · cases h
  · rintro ⟨first, second, third, more, number, address, hwords, hnumber, haddress, hzero, rfl⟩
    simp only [row?, hwords, Word.read?_eq_some_iff.mpr hnumber, haddress, if_neg hzero]

namespace LineDump

/-! ## Kinds of lines -/

def IsHeads (line : List Char) : Prop := "File name".toList <+: Text.trim line

def IsUnit (line : List Char) : Prop := unitMark <+: Text.trim line

/-- The line holds a path and nothing else. -/
structure IsPath (line : List Char) : Prop where
  solid : ∀ c ∈ Text.trim line, Text.isBlank c = false
  ending : ":".toList <:+ Text.trim line ∨ ":[++]".toList <:+ Text.trim line

/-- The line is a header: the rows below it belong to what it names. -/
def IsHeader (line : List Char) : Prop := IsUnit line ∨ IsPath line

/-- The line has a file name, a line number from 1 on and an address as its first three columns. -/
structure Shows (line : List Char) (fileName : String) (number : Word) (address : Address) :
    Prop where
  notHeads : ¬ IsHeads line
  notUnit : ¬ IsUnit line
  columns : ∃ second third more,
    Text.words (Text.trim line) = fileName.toList :: second :: third :: more ∧
      Word.IsDecimal second number ∧ Address.read? third = some address
  counted : 1 ≤ number.toNat

def IsRowLine (line : List Char) : Prop :=
  ∃ fileName number address, Shows line fileName number address

/-- The line is of no known form. -/
structure IsSkipped (line : List Char) : Prop where
  filled : Text.trim line ≠ []
  notHeads : ¬ IsHeads line
  notHeader : ¬ IsHeader line
  notRow : ¬ IsRowLine line

/-- What a line may be taken for. -/
inductive Reads (line : List Char) : DumpLine → Prop where
  | blank (h : Text.trim line = []) : Reads line .empty
  | heads (h : IsHeads line) : Reads line .empty
  | header (directory : String) (h : IsHeader line) : Reads line (.header directory)
  | row {fileName : String} {number : Word} {address : Address}
      (h : Shows line fileName number address) : Reads line (.row fileName number address)
  | foreign (h : IsSkipped line) : Reads line .foreign

/-! ## What the reader takes a line for -/

theorem suffix_of_headerPath? {cs path : List Char} (h : DumpLine.headerPath? cs = some path) :
    ":".toList <:+ cs ∨ ":[++]".toList <:+ cs := by
  rw [DumpLine.headerPath?, Option.or_eq_some_iff] at h
  rcases h with hincluded | ⟨-, hcolon⟩
  · exact .inr ⟨path, List.isSuffixOf?_eq_some_iff_append_eq.mp hincluded⟩
  · exact .inl ⟨path, List.isSuffixOf?_eq_some_iff_append_eq.mp hcolon⟩

/-- A text that ends as headers do has a path. -/
theorem exists_headerPath? {cs : List Char} (h : ":".toList <:+ cs ∨ ":[++]".toList <:+ cs) :
    ∃ path, DumpLine.headerPath? cs = some path := by
  rw [← Option.isSome_iff_exists, DumpLine.headerPath?, Option.isSome_or, Bool.or_eq_true,
    Option.isSome_iff_exists, Option.isSome_iff_exists]
  rcases h with ⟨path, hpath⟩ | ⟨path, hpath⟩
  · exact .inr ⟨path, List.isSuffixOf?_eq_some_iff_append_eq.mpr hpath⟩
  · exact .inl ⟨path, List.isSuffixOf?_eq_some_iff_append_eq.mpr hpath⟩

/-- The path is taken of a line that holds one and nothing else. -/
theorem exists_path_iff {line : List Char} :
    (∃ path, (if (Text.trim line).any Text.isBlank then none
      else DumpLine.headerPath? (Text.trim line)) = some path) ↔ IsPath line := by
  constructor
  · rintro ⟨path, hpath⟩
    split at hpath
    · cases hpath
    · next hsolid =>
      rw [Bool.not_eq_true, List.any_eq_false] at hsolid
      refine ⟨fun c hc => ?_, suffix_of_headerPath? hpath⟩
      exact Bool.eq_false_of_not_eq_true (hsolid c hc)
  · rintro ⟨hsolid, hends⟩
    obtain ⟨path, hpath⟩ := exists_headerPath? hends
    refine ⟨path, ?_⟩
    rw [if_neg, hpath]
    rw [List.any_eq_true]
    rintro ⟨c, hc, hblank⟩
    rw [hsolid c hc] at hblank
    cases hblank

theorem toNat_pos_iff {w : Word} : 1 ≤ w.toNat ↔ w ≠ 0 := by
  rw [ne_eq, ← UInt64.toNat_inj, UInt64.toNat_zero]
  omega

theorem reads_of_row? {line : List Char} {row : DumpLine} (hheads : ¬ IsHeads line)
    (hunit : ¬ IsUnit line) (h : DumpLine.row? (Text.trim line) = some row) : Reads line row := by
  obtain ⟨first, second, third, more, number, address, hwords, hnumber, haddress, hzero, rfl⟩ :=
    DumpLine.row?_eq_some_iff.mp h
  refine .row ⟨hheads, hunit, ⟨second, third, more, ?_, hnumber, haddress⟩, toNat_pos_iff.mpr hzero⟩
  rw [String.toList_ofList]
  exact hwords

theorem Shows.row? {line : List Char} {fileName : String} {number : Word} {address : Address}
    (h : Shows line fileName number address) :
    DumpLine.row? (Text.trim line) = some (.row fileName number address) := by
  obtain ⟨second, third, more, hwords, hnumber, haddress⟩ := h.columns
  rw [DumpLine.row?_eq_some_iff]
  refine ⟨_, second, third, more, number, address, hwords, hnumber, haddress,
    toNat_pos_iff.mp h.counted, ?_⟩
  rw [String.ofList_toList]

/-- The reader takes a line for what it is, whatever the order of the tests. -/
theorem reads_ofLine (line : List Char) : Reads line (DumpLine.ofLine line) := by
  by_cases hblank : Text.trim line = []
  · rw [DumpLine.ofLine, hblank]
    exact .blank hblank
  by_cases hheads : IsHeads line
  · have hempty : DumpLine.ofLine line = .empty := by
      rw [DumpLine.ofLine, DumpLine.ofTrimmed, if_pos]
      rw [List.isPrefixOf_iff_prefix.mpr hheads, Bool.or_true]
    rw [hempty]
    exact .heads hheads
  by_cases hunit : IsUnit line
  · obtain ⟨rest, hrest⟩ := hunit
    rw [DumpLine.ofLine, ← hrest, ofTrimmed_of_unitMark]
    exact .header _ (.inl ⟨rest, hrest⟩)
  rw [DumpLine.ofLine, ofTrimmed_of_not_unitMark hblank hheads hunit]
  cases hpath : (if (Text.trim line).any Text.isBlank then none
      else DumpLine.headerPath? (Text.trim line)) with
  | some path => exact .header _ (.inr (exists_path_iff.mp ⟨path, hpath⟩))
  | none =>
    have hnoPath : ¬ IsPath line := by
      rw [← exists_path_iff, hpath]
      rintro ⟨path, hsome⟩
      cases hsome
    cases hrow : DumpLine.row? (Text.trim line) with
    | some row => exact reads_of_row? hheads hunit hrow
    | none =>
      refine .foreign ⟨hblank, hheads, fun hheader => hheader.elim hunit hnoPath, ?_⟩
      rintro ⟨fileName, number, address, hshows⟩
      rw [hshows.row?] at hrow
      cases hrow

/-! ## Each kind exactly -/

section Kinds

variable {line : List Char}

theorem IsHeader.filled (h : IsHeader line) : Text.trim line ≠ [] := by
  intro hnil
  rcases h with hunit | ⟨-, hends⟩
  · rw [IsUnit, hnil] at hunit
    exact absurd hunit (by decide)
  · rw [hnil] at hends
    exact absurd hends (by decide)

theorem IsHeader.not_isHeads (h : IsHeader line) : ¬ IsHeads line := by
  intro hheads
  rcases h with ⟨rest, hrest⟩ | ⟨hsolid, -⟩
  · obtain ⟨more, hmore⟩ := hheads
    rw [← hrest] at hmore
    exact absurd (List.cons.inj hmore).1 (by decide)
  · have hblank := hsolid ' ' (hheads.subset (by decide))
    cases hblank

/-- A row has blanks between its columns. -/
theorem IsRowLine.not_isHeader (h : IsRowLine line) : ¬ IsHeader line := by
  obtain ⟨fileName, number, address, hshows⟩ := h
  rintro (hunit | ⟨hsolid, hends⟩)
  · exact hshows.notUnit hunit
  · obtain ⟨second, third, more, hwords, -⟩ := hshows.columns
    have hfilled := IsHeader.filled (.inr ⟨hsolid, hends⟩)
    rw [Text.words_of_solid hfilled hsolid] at hwords
    cases (List.cons.inj hwords).2

theorem IsRowLine.filled (h : IsRowLine line) : Text.trim line ≠ [] := by
  obtain ⟨fileName, number, address, hshows⟩ := h
  obtain ⟨second, third, more, hwords, -⟩ := hshows.columns
  intro hnil
  rw [hnil] at hwords
  cases hwords

/-- A line is read as a row exactly where it shows its columns. -/
theorem ofLine_eq_row_iff {fileName : String} {number : Word} {address : Address} :
    DumpLine.ofLine line = .row fileName number address ↔ Shows line fileName number address := by
  have hreads := reads_ofLine line
  generalize DumpLine.ofLine line = kind at hreads
  constructor
  · rintro rfl
    cases hreads with
    | row hshows => exact hshows
  · intro h
    have hrow : IsRowLine line := ⟨_, _, _, h⟩
    cases hreads with
    | blank hblank => exact absurd hblank hrow.filled
    | heads hheads => exact absurd hheads h.notHeads
    | header _ hheader => exact absurd hheader hrow.not_isHeader
    | foreign hskipped => exact absurd hrow hskipped.notRow
    | row hshows =>
      have hsame := hshows.row?.symm.trans h.row?
      exact Option.some.inj hsame

theorem exists_ofLine_eq_header_iff :
    (∃ directory, DumpLine.ofLine line = .header directory) ↔ IsHeader line := by
  have hreads := reads_ofLine line
  generalize DumpLine.ofLine line = kind at hreads
  cases hreads with
  | blank hblank => exact iff_of_false (nomatch ·) fun hheader => hheader.filled hblank
  | heads hheads => exact iff_of_false (nomatch ·) fun hheader => hheader.not_isHeads hheads
  | header directory hheader => exact iff_of_true ⟨directory, rfl⟩ hheader
  | row hshows => exact iff_of_false (nomatch ·) (IsRowLine.not_isHeader ⟨_, _, _, hshows⟩)
  | foreign hskipped => exact iff_of_false (nomatch ·) hskipped.notHeader

theorem ofLine_eq_foreign_iff : DumpLine.ofLine line = .foreign ↔ IsSkipped line := by
  have hreads := reads_ofLine line
  generalize DumpLine.ofLine line = kind at hreads
  cases hreads with
  | blank hblank => exact iff_of_false (nomatch ·) fun hskipped => hskipped.filled hblank
  | heads hheads => exact iff_of_false (nomatch ·) fun hskipped => hskipped.notHeads hheads
  | header _ hheader =>
    exact iff_of_false (nomatch ·) fun hskipped => hskipped.notHeader hheader
  | row hshows => exact iff_of_false (nomatch ·) fun hskipped => hskipped.notRow ⟨_, _, _, hshows⟩
  | foreign hskipped => exact iff_of_true rfl hskipped

end Kinds

end LineDump

end Symbolication
