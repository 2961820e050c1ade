import Symbolication.Proofs.DumpLines
import Symbolication.Proofs.Lookups

namespace Symbolication

namespace LineDump

/-- Every row comes after a header. -/
def HeadersFirst (lines : List (List Char)) : Prop :=
  ∀ before line after, lines = before ++ line :: after → IsRowLine line →
    ∃ header ∈ before, IsHeader header

section

variable {line : List Char} {lines : List (List Char)}

theorem headersFirst_of_header (h : IsHeader line) : HeadersFirst (line :: lines) := by
  intro before row after hlines hrow
  cases before with
  | nil =>
    obtain ⟨rfl, -⟩ := List.cons.inj hlines
    exact absurd h hrow.not_isHeader
  | cons first before =>
    obtain ⟨rfl, -⟩ := List.cons.inj hlines
    exact ⟨line, List.mem_cons_self, h⟩

theorem headersFirst_cons_iff (h : ¬ IsHeader line) :
    HeadersFirst (line :: lines) ↔ ¬ IsRowLine line ∧ HeadersFirst lines := by
  constructor
  · intro hfirst
    refine ⟨fun hrow => ?_, fun before row after hlines hrow => ?_⟩
    · obtain ⟨header, hheader, -⟩ := hfirst [] line lines rfl hrow
      cases hheader
    · obtain ⟨header, hmem, hheader⟩ := hfirst (line :: before) row after (by rw [hlines]; rfl) hrow
      rcases List.mem_cons.mp hmem with rfl | hmem
      · exact absurd hheader h
      · exact ⟨header, hmem, hheader⟩
  · rintro ⟨hline, hfirst⟩ before row after hlines hrow
    cases before with
    | nil =>
      obtain ⟨rfl, -⟩ := List.cons.inj hlines
      exact absurd hrow hline
    | cons first before =>
      obtain ⟨header, hmem, hheader⟩ := hfirst before row after (List.cons.inj hlines).2 hrow
      exact ⟨header, List.mem_cons_of_mem first hmem, hheader⟩

end

/-! ## Reading on -/

/-- Rows that were read before stay in front, and nothing else of the earlier lines is left but the
directory. -/
theorem rows_foldl_step (reading : Reading) (lines : List DumpLine) :
    (lines.foldl Reading.step reading).rows.toList = reading.rows.toList ++
      (lines.foldl Reading.step ⟨reading.directory, #[]⟩).rows.toList := by
  induction lines generalizing reading with
  | nil => simp
  | cons line lines ih =>
    rw [List.foldl_cons, List.foldl_cons, ih, ih (Reading.step ⟨reading.directory, #[]⟩ line)]
    cases line <;> simp [Reading.step]

/-- Where each row comes after a header, the directory before the first line is not used. -/
theorem rows_foldl_step_of_headersFirst {lines : List (List Char)} (h : HeadersFirst lines)
    (directory other : String) :
    ((lines.map DumpLine.ofLine).foldl Reading.step ⟨directory, #[]⟩).rows =
      ((lines.map DumpLine.ofLine).foldl Reading.step ⟨other, #[]⟩).rows := by
  induction lines with
  | nil => rfl
  | cons line lines ih =>
    rw [List.map_cons, List.foldl_cons, List.foldl_cons]
    have hrest (hheader : ¬ IsHeader line) := (headersFirst_cons_iff hheader).mp h
    have hreads := reads_ofLine line
    generalize DumpLine.ofLine line = kind at hreads
    cases hreads with
    | header => rfl
    | blank hblank => exact ih (hrest fun hheader => hheader.filled hblank).2
    | heads hheads => exact ih (hrest fun hheader => hheader.not_isHeads hheads).2
    | foreign hskipped => exact ih (hrest hskipped.notHeader).2
    | row hshows =>
      have hrow : IsRowLine line := ⟨_, _, _, hshows⟩
      exact absurd hrow (hrest hrow.not_isHeader).1

theorem lines_joined (first second : String) :
    lines (first ++ "\n" ++ second) = lines first ++ lines second := by
  have htext : (first ++ "\n" ++ second).toList = first.toList ++ '\n' :: second.toList := by simp
  rw [lines, htext, Text.lines_append, List.map_append, lines, lines]

/-- The rows of the second dump follow those of the first. -/
theorem rows_joined (first : String) {second : String}
    (h : HeadersFirst (Text.lines second.toList)) :
    rows (first ++ "\n" ++ second) = rows first ++ rows second := by
  have hsecond : ((lines second).foldl Reading.step
      ⟨(readingOf (lines first)).directory, #[]⟩).rows = (readingOf (lines second)).rows :=
    rows_foldl_step_of_headersFirst h (readingOf (lines first)).directory ""
  rw [rows_eq_readingOf, lines_joined, readingOf_append, rows_foldl_step, hsecond,
    ← rows_eq_readingOf, ← rows_eq_readingOf]

end LineDump

/-- Where the rows of a dump come after its headers, it may be appended to another one: the rows of
both are kept in order, and an address belongs to that row of the two tables that is nearer to it,
and to that of the second table where both are as near. -/
theorem LineTable.ofDump_joined {first second : String}
    (h : LineDump.HeadersFirst (Text.lines second.toList)) :
    LineDump.rows (first ++ "\n" ++ second) = LineDump.rows first ++ LineDump.rows second ∧
    ∀ a, ((ofDump (first ++ "\n" ++ second)).value.rowAt? a = none ↔
        (ofDump first).value.rowAt? a = none ∧ (ofDump second).value.rowAt? a = none) ∧
      ∀ row, (ofDump (first ++ "\n" ++ second)).value.rowAt? a = some row ↔
        (ofDump second).value.rowAt? a = some row ∧
            (∀ other, (ofDump first).value.rowAt? a = some other → other.address ≤ row.address) ∨
          (ofDump first).value.rowAt? a = some row ∧
            ∀ other, (ofDump second).value.rowAt? a = some other → other.address < row.address := by
  have hrows := LineDump.rows_joined first h
  have htable : (ofDump (first ++ "\n" ++ second)).value =
      ofRows (LineDump.rows first ++ LineDump.rows second) := congrArg ofRows hrows
  refine ⟨hrows, fun a => ⟨?_, fun row => ?_⟩⟩
  · rw [htable, rowAt?_eq_none_iff]
    change _ ↔ (ofRows (LineDump.rows first)).rowAt? a = none ∧
      (ofRows (LineDump.rows second)).rowAt? a = none
    rw [rowAt?_eq_none_iff, rowAt?_eq_none_iff]
    simp only [not_exists, not_and, List.forall_mem_append]
  · rw [htable]
    exact rowAt?_ofRows_append

/-- The second dump answers where the two meet, and the first one above that. The first ends with a
carriage return and without a line feed. -/
theorem LineTable.ofDump_joined_meeting :
    LineDump.HeadersFirst (Text.lines "\nCU: b.c:\nb.c 2 0x10\n".toList) ∧
    (ofDump ("CU: a.c:\na.c 1 0x10\na.c 3 0x30\r" ++ "\n" ++
      "\nCU: b.c:\nb.c 2 0x10\n")).value.rowAt? 0x2f = some ⟨"b.c", "b.c", 0x10, 2⟩ ∧
    (ofDump ("CU: a.c:\na.c 1 0x10\na.c 3 0x30\r" ++ "\n" ++
      "\nCU: b.c:\nb.c 2 0x10\n")).value.rowAt? 0x30 = some ⟨"a.c", "a.c", 0x30, 3⟩ := by
  have hlines : Text.lines "\nCU: b.c:\nb.c 2 0x10\n".toList =
      ["".toList, "CU: b.c:".toList, "b.c 2 0x10".toList, "".toList] := by decide
  have hheaders : LineDump.HeadersFirst (Text.lines "\nCU: b.c:\nb.c 2 0x10\n".toList) := by
    rw [hlines, LineDump.headersFirst_cons_iff (by decide)]
    exact ⟨by decide, LineDump.headersFirst_of_header (by decide)⟩
  have hjoined := (@ofDump_joined "CU: a.c:\na.c 1 0x10\na.c 3 0x30\r" _ hheaders).2
  have hfirst : (ofDump "CU: a.c:\na.c 1 0x10\na.c 3 0x30\r").value =
      ofRows [⟨"a.c", "a.c", 0x10, 1⟩, ⟨"a.c", "a.c", 0x30, 3⟩] := congrArg ofRows (by decide)
  have hsecond : (ofDump "\nCU: b.c:\nb.c 2 0x10\n").value =
      ofRows [⟨"b.c", "b.c", 0x10, 2⟩] := congrArg ofRows (by decide)
  rw [hfirst, hsecond] at hjoined
  refine ⟨hheaders, ((hjoined 0x2f).2 _).mpr (.inl ⟨?_, fun other hother => ?_⟩),
    ((hjoined 0x30).2 _).mpr (.inr ⟨?_, fun other hother => ?_⟩)⟩
  · exact rowAt?_eq_some_iff.mpr ⟨[], [], rfl, by decide, by decide, by decide⟩
  · have hlast : (ofRows [⟨"a.c", "a.c", 0x10, 1⟩, ⟨"a.c", "a.c", 0x30, 3⟩]).rowAt? 0x2f =
        some ⟨"a.c", "a.c", 0x10, 1⟩ :=
      rowAt?_eq_some_iff.mpr ⟨[], [_], rfl, by decide, by decide, by decide⟩
    cases hlast.symm.trans hother
    decide
  · exact rowAt?_eq_some_iff.mpr ⟨[_], [], rfl, by decide, by decide, by decide⟩
  · have hlast : (ofRows [⟨"b.c", "b.c", 0x10, 2⟩]).rowAt? 0x30 = some ⟨"b.c", "b.c", 0x10, 2⟩ :=
      rowAt?_eq_some_iff.mpr ⟨[], [], rfl, by decide, by decide, by decide⟩
    cases hlast.symm.trans hother
    decide

end Symbolication
