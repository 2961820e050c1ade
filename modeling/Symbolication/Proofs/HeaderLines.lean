import Symbolication.Proofs.LoadedRows

namespace Symbolication

/-- The directory that a line sets, if it is a header. -/
def DumpLine.directory? : DumpLine → Option String
  | .header directory => some directory
  | .empty | .row .. | .foreign => none

theorem DumpLine.directory?_eq_some_iff {line : DumpLine} {directory : String} :
    line.directory? = some directory ↔ line = .header directory := by
  cases line <;> simp [directory?]

namespace LineDump

/-- How far some lines have been read. -/
def readingOf (lines : List DumpLine) : Reading := lines.foldl Reading.step ⟨"", #[]⟩

theorem rows_eq_readingOf (text : String) : rows text = (readingOf (lines text)).rows.toList := rfl

theorem readingOf_append (before after : List DumpLine) :
    readingOf (before ++ after) = after.foldl Reading.step (readingOf before) :=
  List.foldl_append

theorem length_rows_readingOf (lines : List DumpLine) :
    (readingOf lines).rows.toList.length = (lines.filterMap DumpLine.columns?).length := by
  have hcolumns := congrArg List.length (map_columns_foldl_step ⟨"", #[]⟩ lines)
  simpa [readingOf] using hcolumns

theorem directory_step {line : DumpLine} (h : line.directory? = none) (reading : Reading) :
    (reading.step line).directory = reading.directory := by
  cases line with
  | header directory => cases h
  | empty | foreign | row => rfl

/-- Lines that are no headers leave the directory as it is. -/
theorem directory_foldl_step {lines : List DumpLine} (h : ∀ line ∈ lines, line.directory? = none)
    (reading : Reading) : (lines.foldl Reading.step reading).directory = reading.directory := by
  induction lines generalizing reading with
  | nil => rfl
  | cons line lines ih =>
    have hline := h line List.mem_cons_self
    have hlines := fun other hother => h other (List.mem_cons_of_mem line hother)
    rw [List.foldl_cons, ih hlines, directory_step hline]

/-- A row comes from a line, before which there are as many rows as before the row itself. -/
theorem exists_line_of_readingOf {lines : List DumpLine} {i : Nat} {row : Row}
    (h : (readingOf lines).rows.toList[i]? = some row) :
    ∃ before line after, lines = before ++ line :: after ∧
      (before.filterMap DumpLine.columns?).length = i ∧ line.columns? = some row.columns ∧
      row.directory = (readingOf before).directory := by
  induction lines using List.reverseRecOn with
  | nil => simp [readingOf] at h
  | append_singleton lines line ih =>
    -- A row of the lines before the last one stays where it is.
    have hearlier (hrow : (readingOf lines).rows.toList[i]? = some row) :
        ∃ before other after, lines ++ [line] = before ++ other :: after ∧
          (before.filterMap DumpLine.columns?).length = i ∧ other.columns? = some row.columns ∧
          row.directory = (readingOf before).directory := by
      obtain ⟨before, other, after, rfl, hrest⟩ := ih hrow
      exact ⟨before, other, after ++ [line], by simp, hrest⟩
    rw [readingOf_append, List.foldl_cons, List.foldl_nil] at h
    cases line with
    | empty | foreign | header => exact hearlier h
    | row fileName number address =>
      rw [Reading.step, Array.toList_push, List.getElem?_append] at h
      split at h
      · exact hearlier h
      · next hlast =>
        obtain ⟨hi, hrow⟩ := List.getElem?_eq_some_iff.mp h
        rw [List.getElem_singleton] at hrow
        subst hrow
        refine ⟨lines, _, [], rfl, ?_, rfl, rfl⟩
        rw [← length_rows_readingOf]
        simp only [List.length_singleton] at hi
        omega

/-! ## Lines that look like headers -/

def isRow (cs : List Char) : Bool := (DumpLine.ofLine cs).columns?.isSome

/-- The line looks like a header, and is no row. -/
structure IsHeaderLike (cs : List Char) : Prop where
  noRow : isRow cs = false
  looks : unitMark <+: Text.trim cs ∨ ":".toList <:+ Text.trim cs ∨ ":[++]".toList <:+ Text.trim cs

/-- A line that sets the directory looks like a header. -/
theorem isHeaderLike_of_directory? {cs : List Char} {directory : String}
    (h : (DumpLine.ofLine cs).directory? = some directory) : IsHeaderLike cs := by
  rw [DumpLine.directory?_eq_some_iff] at h
  constructor
  · rw [isRow, h]
    rfl
  · rcases exists_ofLine_eq_header_iff.mp ⟨directory, h⟩ with hunit | hpath
    · exact .inl hunit
    · exact .inr hpath.ending

/-- After a header, and lines that do not look like one, the directory is that of the header. -/
theorem directory_readingOf_header {earlier between : List (List Char)} {cs : List Char}
    {heading : Heading} (hcs : Text.trim cs = heading.chars)
    (hbetween : ∀ other ∈ between, ¬ IsHeaderLike other) :
    (readingOf ((earlier ++ cs :: between).map DumpLine.ofLine)).directory = heading.directory := by
  have hheader : DumpLine.ofLine cs = .header heading.directory := by
    rw [DumpLine.ofLine, hcs, Heading.ofTrimmed_chars]
  have hnone : ∀ line ∈ between.map DumpLine.ofLine, line.directory? = none := by
    intro line hline
    obtain ⟨other, hother, rfl⟩ := List.mem_map.mp hline
    by_contra hsome
    obtain ⟨directory, hdirectory⟩ := Option.ne_none_iff_exists'.mp hsome
    exact hbetween other hother (isHeaderLike_of_directory? hdirectory)
  rw [List.map_append, List.map_cons, readingOf_append, List.foldl_cons, hheader,
    directory_foldl_step hnone]
  rfl

/-- Each row of a dump comes from a line of its own. -/
theorem exists_line_of_rows {text : String} {i : Nat} {row : Row}
    (h : (rows text)[i]? = some row) :
    ∃ before line after, Text.lines text.toList = before ++ line :: after ∧
      before.countP isRow = i ∧
      DumpLine.ofLine line = .row row.fileName row.line row.address ∧
      row.directory = (readingOf (before.map DumpLine.ofLine)).directory := by
  rw [rows_eq_readingOf] at h
  obtain ⟨before, line, after, hlines, hcount, hcolumns, hdirectory⟩ := exists_line_of_readingOf h
  obtain ⟨before, rest, htext, rfl, hrest⟩ := List.map_eq_append_iff.mp hlines
  obtain ⟨line, after, rfl, rfl, rfl⟩ := List.map_eq_cons_iff.mp hrest
  refine ⟨before, line, after, htext, ?_, ?_, hdirectory⟩
  · rw [List.filterMap_map, List.length_filterMap_eq_countP] at hcount
    exact hcount
  · exact DumpLine.columns?_eq_some_iff.mp hcolumns

/-- A row comes from a line of its own, and where the last line before it that looks like a header is
one, the row has the directory of that header and of none before it. -/
theorem directory_eq_of_last_header {text : String} {i : Nat} {row : Row}
    (h : (rows text)[i]? = some row) :
    ∃ before line after, Text.lines text.toList = before ++ line :: after ∧
      before.countP isRow = i ∧
      DumpLine.ofLine line = .row row.fileName row.line row.address ∧
      ∀ earlier cs between, before = earlier ++ cs :: between →
        (∀ other ∈ between, ¬ IsHeaderLike other) →
        ∀ heading : Heading, Text.trim cs = heading.chars → row.directory = heading.directory := by
  obtain ⟨before, line, after, htext, hcount, hline, hdirectory⟩ := exists_line_of_rows h
  refine ⟨before, line, after, htext, hcount, hline, ?_⟩
  rintro earlier cs between rfl hbetween heading hcs
  rw [hdirectory, directory_readingOf_header hcs hbetween]

/-- The row below the column headings has the path of the unit's header, blank and all. -/
theorem directory_eq_of_last_header_sample :
    (rows sample.text)[0]? = some ⟨"./src/main file", "main.c", 0x401a0, 12⟩ ∧
      ∃ before line after, Text.lines sample.text.toList = before ++ line :: after ∧
        before.countP isRow = 0 ∧ DumpLine.ofLine line = .row "main.c" 12 0x401a0 ∧
        ∀ earlier cs between, before = earlier ++ cs :: between →
          (∀ other ∈ between, ¬ IsHeaderLike other) →
          ∀ heading : Heading, Text.trim cs = heading.chars →
            "./src/main file" = heading.directory := by
  have hrow : (rows sample.text)[0]? = some ⟨"./src/main file", "main.c", 0x401a0, 12⟩ := by decide
  exact ⟨hrow, directory_eq_of_last_header hrow⟩

/-- A unit, and a file that it includes from a directory with a blank in its name. -/
def blankPath : String := "CU: a.c:\nmy dir/b.h:[++]\nb.h 2 0x20"

/-- The header of the included file is the last before the row, and the row keeps the directory of
the header before it. -/
theorem directory_ne_of_blank_path :
    Text.lines blankPath.toList =
        ["CU: a.c:".toList, "my dir/b.h:[++]".toList, "b.h 2 0x20".toList] ∧
      IsHeaderLike "my dir/b.h:[++]".toList ∧
      Text.trim "my dir/b.h:[++]".toList = "my dir/b.h".toList ++ ":[++]".toList ∧
      Text.IsTrimmed "my dir/b.h".toList ∧
      ¬ unitMark <+: "my dir/b.h:[++]".toList ∧
      ¬ "File name".toList <+: "my dir/b.h:[++]".toList ∧
      ∃ row, (rows blankPath)[0]? = some row ∧
        DumpLine.ofLine "b.h 2 0x20".toList = .row row.fileName row.line row.address ∧
        row.directory = "a.c" ∧ row.directory ≠ "my dir/b.h" := by
  refine ⟨by decide, ⟨by decide, by decide⟩, by decide, ⟨by decide, by decide⟩, by decide, by decide,
    ⟨"a.c", "b.h", 0x20, 2⟩, by decide, by decide, rfl, by decide⟩

end LineDump

end Symbolication
