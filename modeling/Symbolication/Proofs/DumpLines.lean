import Symbolication.Proofs.HeaderLines

namespace Symbolication

namespace LineDump

section Kinds

variable {line : List Char}

/-- The columns that are read are those that the line shows. -/
theorem columns?_eq_some_iff {fileName : String} {number : Word} {address : Address} :
    (DumpLine.ofLine line).columns? = some (fileName, number, address) ↔
      Shows line fileName number address :=
  DumpLine.columns?_eq_some_iff.trans ofLine_eq_row_iff

theorem isRow_iff : isRow line = true ↔ IsRowLine line := by
  rw [isRow, Option.isSome_iff_exists]
  simp only [Prod.exists, columns?_eq_some_iff]
  rfl

/-- The directory is set by headers and by no other line. -/
theorem isSome_directory?_iff :
    (DumpLine.ofLine line).directory?.isSome = true ↔ IsHeader line := by
  rw [Option.isSome_iff_exists, ← exists_ofLine_eq_header_iff]
  simp only [DumpLine.directory?_eq_some_iff]

instance (line : List Char) : Decidable (IsRowLine line) := decidable_of_iff _ isRow_iff

instance (line : List Char) : Decidable (IsHeader line) := decidable_of_iff _ isSome_directory?_iff

instance (line : List Char) : Decidable (IsSkipped line) :=
  decidable_of_iff _ ofLine_eq_foreign_iff

end Kinds

/-! ## The rows and notes of a dump -/

/-- Lines show the columns that are read from them, one after the other. -/
theorem forall₂_shows (lines : List (List Char)) :
    List.Forall₂ (fun line (columns : String × Word × Address) =>
      Shows line columns.1 columns.2.1 columns.2.2)
      (lines.filter fun line => IsRowLine line)
      ((lines.map DumpLine.ofLine).filterMap DumpLine.columns?) := by
  induction lines with
  | nil => exact .nil
  | cons line lines ih =>
    rw [List.map_cons, List.filterMap_cons]
    cases hcolumns : (DumpLine.ofLine line).columns? with
    | none =>
      have hrow : ¬ IsRowLine line := by
        rw [← isRow_iff, isRow, hcolumns]
        exact Bool.false_ne_true
      rw [List.filter_cons_of_neg (by simpa using hrow)]
      exact ih
    | some columns =>
      have hshows := columns?_eq_some_iff.mp hcolumns
      have hrow : IsRowLine line := ⟨_, _, _, hshows⟩
      rw [List.filter_cons_of_pos (by simpa using hrow)]
      exact .cons hshows ih

theorem forall₂_shows_rows (text : String) :
    List.Forall₂ (fun line row => Shows line row.fileName row.line row.address)
      ((Text.lines text.toList).filter fun line => IsRowLine line) (rows text) := by
  have hlines := forall₂_shows (Text.lines text.toList)
  change List.Forall₂ _ _ ((lines text).filterMap DumpLine.columns?) at hlines
  rw [← map_columns_rows, List.forall₂_map_right_iff] at hlines
  exact hlines

theorem notes_eq (text : String) : notes text =
    ((Text.numberedLines text.toList).filter fun line => IsSkipped line.1).map
      fun line => skipNote line.1 line.2 := by
  rw [← List.filterMap_eq_map, List.filterMap_filter, notes]
  apply List.filterMap_congr
  rintro ⟨line, number⟩ -
  simp only [ofLine_eq_foreign_iff, decide_eq_true_eq, Function.comp_apply]

end LineDump

/-- Every line of a dump is accounted for once. The rows come from the lines that show their
columns, one from each, in order. Of the other lines, those that are neither blank nor column
headings nor headers are noted, each once, in order and under its own number, and the rest say
nothing. -/
theorem LineTable.ofDump_lines (text : String) :
    (ofDump text).value = ofRows (LineDump.rows text) ∧
    List.Forall₂ (fun line row => LineDump.Shows line row.fileName row.line row.address)
      ((Text.lines text.toList).filter fun line => LineDump.IsRowLine line) (LineDump.rows text) ∧
    (ofDump text).notes =
      (((Text.lines text.toList).zipIdx 1).filter fun line => LineDump.IsSkipped line.1).map
        fun line => ⟨.trace, "Skipping line " ++ Numeral.decimal line.2 ++ " of line dump: " ++
          String.ofList (Text.trim line.1)⟩ :=
  ⟨rfl, LineDump.forall₂_shows_rows text, LineDump.notes_eq text⟩

example :
    (LineTable.ofDump "CU: a.c:\n a.c +07 0x10 x\na.c 0 0x20\n\na.h:\nfoo bar").notes =
      [⟨.trace, "Skipping line 3 of line dump: a.c 0 0x20"⟩,
        ⟨.trace, "Skipping line 6 of line dump: foo bar"⟩] := by
  decide

end Symbolication
