import Mathlib.Logic.Relation
import Symbolication.Proofs.DumpLayout
import Symbolication.Proofs.RoutineLines

/-! Edits of a text that touch blanks only: the line ends, blanks around lines, blank lines, and in
a routine file blanks around semicolons. What is read from each line that is not blank stays the
same, and so does the order of these lines. Their numbers change. -/

namespace Symbolication

namespace Text

/-- A line starts after this part of a text. -/
def AtLineStart (before : List Char) : Prop := before = [] ∨ ∃ cs, before = cs ++ ['\n']

/-- A line ends before this part of a text. -/
def AtLineEnd (after : List Char) : Prop :=
  after = [] ∨ (∃ cs, after = '\n' :: cs) ∨ ∃ cs, after = '\r' :: '\n' :: cs

/-- A text and the same text with blanks put in. -/
inductive Edit : List Char → List Char → Prop
  | carriageReturn (before after : List Char) :
      Edit (before ++ '\n' :: after) (before ++ '\r' :: '\n' :: after)
  | lineStart {before : List Char} (after : List Char) (blanks : LineDump.Blanks)
      (h : AtLineStart before) : Edit (before ++ after) (before ++ blanks.chars ++ after)
  | lineEnd (before : List Char) {after : List Char} (blanks : LineDump.Blanks)
      (h : AtLineEnd after) : Edit (before ++ after) (before ++ blanks.chars ++ after)
  | blankLine {before : List Char} (after : List Char) (blanks : LineDump.Blanks)
      (h : AtLineStart before) : Edit (before ++ after) (before ++ (blanks.chars ++ '\n' :: after))
  | finalLineFeed (cs : List Char) : Edit cs (cs ++ ['\n'])

/-- The lines that are not blank. -/
def filled (cs : List Char) : List (List Char) :=
  (lines cs).filter fun line => !(trim line).isEmpty

/-- Blanks at the ends of a line make no difference to its form. -/
def IgnoresMargins {β : Type} (form : List Char → β) : Prop :=
  ∀ before blanks after : List Char, (∀ c ∈ blanks, isBlank c = true) →
    ((∀ c ∈ before, isBlank c = true) ∨ ∀ c ∈ after, isBlank c = true) →
    form (before ++ blanks ++ after) = form (before ++ after)

theorem ignoresMargins_trim : IgnoresMargins trim :=
  fun _ _ _ hblanks h => trim_append_append_of_blank hblanks h

section Filled

variable {β : Type} {form : List Char → β} {before after : List Char}

/-- Blanks that make no difference to their line make none to the lines of the text. -/
theorem map_filled_of_blanks (blanks : LineDump.Blanks)
    (h : ∀ last first, last <:+ before → first <+: after → '\n' ∉ last → '\n' ∉ first →
      form (last ++ blanks.chars ++ first) = form (last ++ first)) :
    (filled (before ++ blanks.chars ++ after)).map form = (filled (before ++ after)).map form := by
  obtain ⟨above, last, first, below, hlast, hfirst, hlast_in, hfirst_in, hlines⟩ :=
    exists_splitOn_append_append '\n' before after
  have hold : lines (before ++ after) = above ++ (last ++ first) :: below := by
    simpa only [List.append_nil, lines] using hlines [] List.not_mem_nil
  have hnew : lines (before ++ blanks.chars ++ after) =
      above ++ (last ++ blanks.chars ++ first) :: below := hlines blanks.chars blanks.inLine
  have hblank :
      (trim (last ++ blanks.chars ++ first)).isEmpty = (trim (last ++ first)).isEmpty := by
    have hiff : trim (last ++ blanks.chars ++ first) = [] ↔ trim (last ++ first) = [] := by
      simp only [trim_eq_nil_iff, List.forall_mem_append]
      constructor
      · rintro ⟨⟨hl, -⟩, hf⟩
        exact ⟨hl, hf⟩
      · rintro ⟨hl, hf⟩
        exact ⟨⟨hl, blanks.blank⟩, hf⟩
    rw [Bool.eq_iff_iff, List.isEmpty_iff, List.isEmpty_iff, hiff]
  have hform := h last first hlast hfirst hlast_in hfirst_in
  rw [filled, filled, hold, hnew, List.filter_append, List.filter_append, List.filter_cons,
    List.filter_cons, hblank]
  split
  · simp only [List.map_append, List.map_cons, hform]
  · rfl

theorem eq_nil_of_suffix {last : List Char} (h : AtLineStart before) (hlast : last <:+ before)
    (hin : '\n' ∉ last) : last = [] := by
  rcases h with rfl | ⟨cs, rfl⟩
  · exact List.suffix_nil.mp hlast
  · rcases List.suffix_concat_iff.mp hlast with rfl | ⟨rest, rfl, -⟩
    · rfl
    · exact absurd (by simp) hin

/-- Before the end of a line there can be a carriage return, which is a blank. -/
theorem isBlank_of_leading {first : List Char} (h : AtLineEnd after) (hfirst : first <+: after)
    (hin : '\n' ∉ first) : ∀ c ∈ first, isBlank c = true := by
  have hfeed {cs piece : List Char} (hpiece : piece <+: '\n' :: cs) (hin : '\n' ∉ piece) :
      piece = [] := by
    rcases List.prefix_cons_iff.mp hpiece with rfl | ⟨rest, rfl, -⟩
    · rfl
    · exact absurd List.mem_cons_self hin
  rcases h with rfl | ⟨cs, rfl⟩ | ⟨cs, rfl⟩
  · simp [List.prefix_nil.mp hfirst]
  · simp [hfeed hfirst hin]
  · rcases List.prefix_cons_iff.mp hfirst with rfl | ⟨rest, rfl, hrest⟩
    · simp
    · obtain rfl := hfeed hrest fun hmem => hin (List.mem_cons_of_mem _ hmem)
      decide

theorem map_filled_lineStart (hform : IgnoresMargins form) (after : List Char)
    (blanks : LineDump.Blanks) (h : AtLineStart before) :
    (filled (before ++ blanks.chars ++ after)).map form = (filled (before ++ after)).map form := by
  apply map_filled_of_blanks blanks
  intro last first hlast _ hlast_in _
  obtain rfl := eq_nil_of_suffix h hlast hlast_in
  exact hform _ _ _ blanks.blank (.inl (by simp))

theorem map_filled_lineEnd (hform : IgnoresMargins form) (before : List Char)
    (blanks : LineDump.Blanks) (h : AtLineEnd after) :
    (filled (before ++ blanks.chars ++ after)).map form = (filled (before ++ after)).map form := by
  apply map_filled_of_blanks blanks
  intro last first _ hfirst _ hfirst_in
  exact hform _ _ _ blanks.blank (.inr (isBlank_of_leading h hfirst hfirst_in))

/-- A line feed parts the lines that are not blank too. -/
theorem filled_append (cs ds : List Char) : filled (cs ++ '\n' :: ds) = filled cs ++ filled ds := by
  rw [filled, lines_append, List.filter_append, ← filled, ← filled]

theorem filled_blanks (blanks : LineDump.Blanks) : filled blanks.chars = [] := by
  rw [filled, lines, List.splitOn_eq_singleton blanks.inLine, List.filter_cons_of_neg,
    List.filter_nil]
  simp [trim_eq_nil_iff.mpr blanks.blank]

theorem filled_blankLine (after : List Char) (blanks : LineDump.Blanks) (h : AtLineStart before) :
    filled (before ++ (blanks.chars ++ '\n' :: after)) = filled (before ++ after) := by
  have hbelow : filled (blanks.chars ++ '\n' :: after) = filled after := by
    rw [filled_append, filled_blanks, List.nil_append]
  rcases h with rfl | ⟨cs, rfl⟩
  · exact hbelow
  · rw [List.append_assoc, List.append_assoc, List.singleton_append, List.singleton_append,
      filled_append, hbelow, filled_append]

end Filled

/-- One edit leaves the lines that are not blank as they are, but for blanks around them. -/
theorem Edit.map_filled {β : Type} {form : List Char → β} (hform : IgnoresMargins form)
    {old new : List Char} (h : Edit old new) : (filled new).map form = (filled old).map form := by
  cases h with
  | carriageReturn before after =>
    have hreturn := map_filled_lineEnd hform before ⟨['\r'], by decide, by decide⟩
      (.inr (.inl ⟨after, rfl⟩))
    rwa [List.append_assoc] at hreturn
  | lineStart after blanks hstart => exact map_filled_lineStart hform after blanks hstart
  | lineEnd before blanks hend => exact map_filled_lineEnd hform before blanks hend
  | blankLine after blanks hstart => rw [filled_blankLine after blanks hstart]
  | finalLineFeed cs =>
    have hnone : filled [] = [] := filled_blanks ⟨[], by simp, by simp⟩
    rw [filled_append, hnone, List.append_nil]

/-- What is the same before and after each of some edits is the same before and after all of
them. -/
theorem eq_of_eqvGen {α β : Type} {edit : α → α → Prop} {f : α → β}
    (h : ∀ old new, edit old new → f new = f old) {old new : α}
    (hedits : Relation.EqvGen edit old new) : f new = f old := by
  induction hedits with
  | rel old new hedit => exact h old new hedit
  | refl => rfl
  | symm _ _ _ ih => exact ih.symm
  | trans _ _ _ _ _ ih ih' => exact ih'.trans ih

end Text

/-! ## Dumps -/

namespace LineDump

theorem foldl_step_filter (reading : Reading) (lines : List (List Char)) :
    ((lines.filter fun line => !(Text.trim line).isEmpty).map DumpLine.ofLine).foldl Reading.step
        reading =
      (lines.map DumpLine.ofLine).foldl Reading.step reading := by
  induction lines generalizing reading with
  | nil => rfl
  | cons line lines ih =>
    by_cases hblank : Text.trim line = []
    · have hempty : DumpLine.ofLine line = .empty := by
        rw [DumpLine.ofLine, hblank]
        rfl
      rw [List.filter_cons_of_neg (by simp [hblank]), List.map_cons, List.foldl_cons, hempty]
      exact ih reading
    · rw [List.filter_cons_of_pos (by simp [hblank]), List.map_cons, List.map_cons,
        List.foldl_cons, List.foldl_cons, ih]

/-- The rows of a dump rest on its trimmed lines. -/
theorem rows_eq_of_map_trim {old new : String}
    (h : (Text.filled new.toList).map Text.trim = (Text.filled old.toList).map Text.trim) :
    rows new = rows old := by
  have hrows (text : String) : rows text = (((Text.filled text.toList).map Text.trim).map
      DumpLine.ofTrimmed |>.foldl Reading.step ⟨"", #[]⟩).rows.toList := by
    rw [List.map_map]
    exact congrArg (·.rows.toList) (foldl_step_filter ⟨"", #[]⟩ (Text.lines text.toList)).symm
  rw [hrows, hrows, h]

end LineDump

/-! ## Routine files -/

namespace RoutineFile

/-- A routine file and the same file with blanks put in. -/
inductive Edit : List Char → List Char → Prop
  | text {old new : List Char} (h : Text.Edit old new) : Edit old new
  | beforeSemicolon (before after : List Char) (blanks : LineDump.Blanks) :
      Edit (before ++ ';' :: after) (before ++ blanks.chars ++ ';' :: after)
  | afterSemicolon (before after : List Char) (blanks : LineDump.Blanks) :
      Edit (before ++ [';'] ++ after) (before ++ [';'] ++ blanks.chars ++ after)

def trimmedFields (line : List Char) : List (List Char) := (Text.fields line).map Text.trim

/-- Blanks at the end of a field make no difference to it. -/
theorem trimmedFields_of_blanks {before blanks after : List Char}
    (hblanks : ∀ c ∈ blanks, Text.isBlank c = true)
    (h : ∀ last first, last <:+ before → first <+: after → ';' ∉ last → ';' ∉ first →
      (∀ c ∈ last, Text.isBlank c = true) ∨ ∀ c ∈ first, Text.isBlank c = true) :
    trimmedFields (before ++ blanks ++ after) = trimmedFields (before ++ after) := by
  obtain ⟨above, last, first, below, hlast, hfirst, hlast_in, hfirst_in, hfields⟩ :=
    Text.exists_splitOn_append_append ';' before after
  have hold : Text.fields (before ++ after) = above ++ (last ++ first) :: below := by
    simpa only [List.append_nil, Text.fields] using hfields [] List.not_mem_nil
  have hsolid : ';' ∉ blanks := fun hmem => absurd (hblanks ';' hmem) (by decide)
  have hnew : Text.fields (before ++ blanks ++ after) =
      above ++ (last ++ blanks ++ first) :: below := hfields blanks hsolid
  have htrim := Text.trim_append_append_of_blank hblanks
    (h last first hlast hfirst hlast_in hfirst_in)
  simp only [trimmedFields, hold, hnew, List.map_append, List.map_cons, htrim]

theorem ignoresMargins_trimmedFields : Text.IgnoresMargins trimmedFields := by
  intro before blanks after hblanks h
  refine trimmedFields_of_blanks hblanks fun last first hlast hfirst _ _ => ?_
  exact h.imp (fun hbefore c hc => hbefore c (hlast.subset hc))
    fun hafter c hc => hafter c (hfirst.subset hc)

theorem Edit.map_filled {old new : List Char} (h : Edit old new) :
    (Text.filled new).map trimmedFields = (Text.filled old).map trimmedFields := by
  cases h with
  | text h => exact h.map_filled ignoresMargins_trimmedFields
  | beforeSemicolon before after blanks =>
    apply Text.map_filled_of_blanks blanks
    intro last first _ hfirst _ _
    refine trimmedFields_of_blanks blanks.blank fun _ piece _ hpiece _ hin => .inr ?_
    rcases List.prefix_cons_iff.mp (hpiece.trans hfirst) with rfl | ⟨rest, rfl, -⟩
    · simp
    · exact absurd List.mem_cons_self hin
  | afterSemicolon before after blanks =>
    apply Text.map_filled_of_blanks blanks
    intro last first hlast _ _ _
    refine trimmedFields_of_blanks blanks.blank fun piece _ hpiece _ hin _ => .inl ?_
    rcases List.suffix_concat_iff.mp (hpiece.trans hlast) with rfl | ⟨rest, rfl, -⟩
    · simp
    · exact absurd (by simp) hin

/-- A line is read by its trimmed fields. -/
theorem routine_congr {line other : List Char} (h : trimmedFields line = trimmedFields other) :
    routine line = routine other := by
  rw [trimmedFields, trimmedFields] at h
  rw [routine, routine, h]

theorem map_fst_filledLines (text : String) :
    (filledLines text).map Prod.fst = Text.filled text.toList := by
  have htest : (fun line : List Char × Nat => !(Text.trim line.1).isEmpty) =
      (fun line => !(Text.trim line).isEmpty) ∘ Prod.fst := rfl
  rw [filledLines, Text.filled, Text.numberedLines, htest, ← List.filter_map, List.zipIdx_map_fst]

/-- Lines with the same fields are read alike, whatever their numbers are: as the same routines, or
up to the same line, which is refused for the same reason. -/
theorem routines_of_map_eq {source : String} {lines others : List (List Char × Nat)}
    (h : others.map (trimmedFields ·.1) = lines.map (trimmedFields ·.1)) :
    (∃ rs, routines source lines = .ok rs ∧ routines source others = .ok rs) ∨
      ∃ (k : Nat) (line line' : List Char) (number number' : Nat) (fault : RoutineFault),
        lines[k]? = some (line, number) ∧ others[k]? = some (line', number') ∧
          trimmedFields line' = trimmedFields line ∧
          routines source lines = .error (.badLine source number fault) ∧
          routines source others = .error (.badLine source number' fault) := by
  induction lines generalizing others with
  | nil =>
    obtain rfl := List.map_eq_nil_iff.mp h
    exact .inl ⟨[], rfl, rfl⟩
  | cons first lines ih =>
    obtain ⟨first', others, rfl, hfields, hrest⟩ := List.map_eq_cons_iff.mp h
    obtain ⟨line, number⟩ := first
    obtain ⟨line', number'⟩ := first'
    have hsame : routine line' = routine line := routine_congr hfields
    cases hline : routine line with
    | error fault =>
      exact .inr ⟨0, line, line', number, number', fault, rfl, rfl, hfields,
        routines_of_error hline, routines_of_error (hsame.trans hline)⟩
    | ok r =>
      rw [routines_of_ok hline, routines_of_ok (hsame.trans hline)]
      rcases ih hrest with ⟨rs, hlines, hothers⟩ |
        ⟨k, bad, bad', n, n', fault, hk, hk', hbad, hlines, hothers⟩
      · exact .inl ⟨r :: rs, by rw [hlines]; rfl, by rw [hothers]; rfl⟩
      · exact .inr ⟨k + 1, bad, bad', n, n', fault, hk, hk', hbad, by rw [hlines]; rfl,
          by rw [hothers]; rfl⟩

end RoutineFile

/-- Edits of blanks make no difference to what a text file is read as. A dump gives the same table.
A routine file gives the same map, or it is refused for the same reason, in the same line: as many
lines that are not blank come before it, whatever its number has become. -/
theorem Text.tables_of_edits :
    (∀ old new : String, Relation.EqvGen Text.Edit old.toList new.toList →
      (LineTable.ofDump new).value = (LineTable.ofDump old).value) ∧
    ∀ old new source : String, Relation.EqvGen RoutineFile.Edit old.toList new.toList →
      (∃ map, RoutineMap.read old source = .ok map ∧ RoutineMap.read new source = .ok map) ∨
      ∃ (k : Nat) (line line' : List Char) (number number' : Nat) (fault : RoutineFault),
        (RoutineFile.filledLines old)[k]? = some (line, number) ∧
          (RoutineFile.filledLines new)[k]? = some (line', number') ∧
          (Text.fields line').map Text.trim = (Text.fields line).map Text.trim ∧
          RoutineMap.read old source = .error (.badLine source number fault) ∧
          RoutineMap.read new source = .error (.badLine source number' fault) := by
  refine ⟨fun old new hedits => ?_, fun old new source hedits => ?_⟩
  · have hlines := Text.eq_of_eqvGen (fun _ _ h => h.map_filled Text.ignoresMargins_trim) hedits
    exact congrArg LineTable.ofRows (LineDump.rows_eq_of_map_trim hlines)
  · have hfields := Text.eq_of_eqvGen (fun _ _ h => h.map_filled) hedits
    simp only [← RoutineFile.map_fst_filledLines, List.map_map] at hfields
    rcases RoutineFile.routines_of_map_eq hfields with ⟨rs, hold, hnew⟩ |
      ⟨k, line, line', number, number', fault, hk, hk', hsame, hold, hnew⟩
    · refine .inl ⟨.ofList rs, ?_, ?_⟩
      · rw [RoutineMap.read, hold]
        rfl
      · rw [RoutineMap.read, hnew]
        rfl
    · refine .inr ⟨k, line, line', number, number', fault, hk, hk', hsame, ?_, ?_⟩
      · rw [RoutineMap.read, hold]
        rfl
      · rw [RoutineMap.read, hnew]
        rfl

/-- A carriage return and a last line feed are put into a dump, and a blank line and a blank before
a semicolon into a routine file, of which the last line is refused. -/
theorem Text.tables_of_edits_refused :
    Relation.EqvGen Text.Edit "CU: a.c:\na.c 1 0x10".toList "CU: a.c:\r\na.c 1 0x10\n".toList ∧
    (LineTable.ofDump "CU: a.c:\r\na.c 1 0x10\n").value =
      (LineTable.ofDump "CU: a.c:\na.c 1 0x10").value ∧
    Relation.EqvGen RoutineFile.Edit "10;m;f\nzz;m;g".toList "10;m;f\n\nzz\t;m;g".toList ∧
    RoutineMap.read "10;m;f\nzz;m;g" "r.txt" = .error (.badLine "r.txt" 2 (.badStart "zz")) ∧
    RoutineMap.read "10;m;f\n\nzz\t;m;g" "r.txt" =
      .error (.badLine "r.txt" 3 (.badStart "zz")) := by
  have hdump : Relation.EqvGen Text.Edit "CU: a.c:\na.c 1 0x10".toList
      "CU: a.c:\r\na.c 1 0x10\n".toList :=
    .trans _ _ _ (.rel _ _ (.carriageReturn "CU: a.c:".toList "a.c 1 0x10".toList))
      (.rel _ _ (.finalLineFeed _))
  have hroutines : Relation.EqvGen RoutineFile.Edit "10;m;f\nzz;m;g".toList
      "10;m;f\n\nzz\t;m;g".toList :=
    .trans _ _ _
      (.rel _ _ (.text (.blankLine "zz;m;g".toList ⟨[], by decide, by decide⟩
        (.inr ⟨"10;m;f".toList, rfl⟩))))
      (.rel _ _
        (.beforeSemicolon "10;m;f\n\nzz".toList "m;g".toList ⟨['\t'], by decide, by decide⟩))
  have hold : RoutineMap.read "10;m;f\nzz;m;g" "r.txt" =
      .error (.badLine "r.txt" 2 (.badStart "zz")) := by
    have hlines : RoutineFile.routines "r.txt" (RoutineFile.filledLines "10;m;f\nzz;m;g") =
        .error (.badLine "r.txt" 2 (.badStart "zz")) := by decide
    rw [RoutineMap.read, hlines]
    rfl
  obtain ⟨hdumps, hfiles⟩ := Text.tables_of_edits
  refine ⟨hdump, hdumps _ _ hdump, hroutines, hold, ?_⟩
  rcases hfiles _ _ "r.txt" hroutines with ⟨map, hmap, -⟩ |
    ⟨k, line, line', number, number', fault, hk, hk', -, hfault, hnew⟩
  · rw [hold] at hmap
    cases hmap
  · rw [hold, Except.error.injEq, Failure.badLine.injEq] at hfault
    obtain ⟨-, rfl, rfl⟩ := hfault
    have hlines : RoutineFile.filledLines "10;m;f\nzz;m;g" =
        [("10;m;f".toList, 1), ("zz;m;g".toList, 2)] := by decide
    have hlines' : RoutineFile.filledLines "10;m;f\n\nzz\t;m;g" =
        [("10;m;f".toList, 1), ("zz\t;m;g".toList, 3)] := by decide
    obtain rfl : k = 1 := by
      rw [hlines] at hk
      match k with
      | 0 => simp at hk
      | 1 => rfl
      | k + 2 => simp at hk
    rw [hlines', List.getElem?_cons_succ, List.getElem?_cons_zero, Option.some.injEq,
      Prod.mk.injEq] at hk'
    rw [hnew, ← hk'.2]

end Symbolication
