import Symbolication.Proofs.Floors
import Symbolication.Proofs.HexAddresses
import Symbolication.Proofs.RoutineLines

namespace Symbolication

/-- A decimal word is written in digits and a plus sign. -/
theorem Word.IsDecimal.digit_or_plus {cs : List Char} {w : Word} (h : IsDecimal cs w) :
    ∀ c ∈ cs, c.isDigit = true ∨ c = '+' := by
  obtain ⟨digits, rfl | rfl, -, hdigits, -⟩ := h
  · intro c hc
    exact .inl (hdigits c hc)
  · intro c hc
    rcases List.mem_cons.mp hc with rfl | hc
    · exact .inr rfl
    · exact .inl (hdigits c hc)

theorem Word.isDecimal_decimal (w : Word) : IsDecimal (decimal w).toList w := by
  rw [toList_decimal]
  exact read?_eq_some_iff.mp (LineDump.Column.read?_decimal w)

namespace RoutineFile

/-- A text that one field of a line can hold. -/
structure IsField (cs : List Char) : Prop where
  trimmed : Text.IsTrimmed cs
  inField : ';' ∉ cs
  inLine : '\n' ∉ cs

instance (cs : List Char) : Decidable (IsField cs) :=
  decidable_of_iff (Text.IsTrimmed cs ∧ ';' ∉ cs ∧ '\n' ∉ cs)
    ⟨fun ⟨htrimmed, hfield, hline⟩ => ⟨htrimmed, hfield, hline⟩,
      fun ⟨htrimmed, hfield, hline⟩ => ⟨htrimmed, hfield, hline⟩⟩

/-- A routine that one line can hold. -/
structure IsWritable (r : Routine) : Prop where
  image : IsField r.image.toList
  name : IsField r.name.toList
  named : r.name.toList ≠ []

instance (r : Routine) : Decidable (IsWritable r) :=
  decidable_of_iff (IsField r.image.toList ∧ IsField r.name.toList ∧ r.name.toList ≠ [])
    ⟨fun ⟨himage, hname, hnamed⟩ => ⟨himage, hname, hnamed⟩,
      fun ⟨himage, hname, hnamed⟩ => ⟨himage, hname, hnamed⟩⟩

/-- A line gives the start of a routine, its image, its name, and its size or nothing. -/
def Spells (line : List Char) (r : Routine) : Prop :=
  ∃ start size, Address.IsHexadecimal start r.start.toNat ∧ GivesSize (some size) r.size ∧
    line = [';'].intercalate [start, r.image.toList, r.name.toList, size]

/-- A text gives routines, each in a line. A line feed may end the last line or not. -/
def Lists (text : String) (routines : List Routine) : Prop :=
  ∃ lines, List.Forall₂ Spells lines routines ∧
    (text.toList = ['\n'].intercalate lines ∨ text.toList = lines.flatMap (· ++ ['\n']))

def line (r : Routine) : String :=
  Address.marked r.start ++ ";" ++ r.image ++ ";" ++ r.name ++ ";" ++
    (r.size.map Word.decimal).getD ""

def file (routines : List Routine) : String :=
  String.ofList (routines.flatMap fun r => (line r).toList ++ ['\n'])

/-! ## Fields -/

theorem isField_of_solid {cs : List Char} (hsolid : ∀ c ∈ cs, Text.isBlank c = false)
    (hfield : ';' ∉ cs) : IsField cs where
  trimmed := Text.isTrimmed_of_solid hsolid
  inField := hfield
  inLine h := absurd (hsolid '\n' h) (by decide)

theorem isField_of_isHexadecimal {cs : List Char} {n : Nat} (h : Address.IsHexadecimal cs n) :
    IsField cs :=
  isField_of_solid h.solid (h.notMem (by decide) (by decide) (by decide))

theorem isField_of_isDecimal {cs : List Char} {w : Word} (h : Word.IsDecimal cs w) :
    IsField cs := by
  apply isField_of_solid
  · intro c hc
    rcases h.digit_or_plus c hc with hdigit | rfl
    · have hread := Numeral.digit?_ten_eq_some_iff.mpr ⟨hdigit, rfl⟩
      exact Numeral.isBlank_of_digit? (Option.isSome_of_eq_some hread)
    · decide
  · intro hsemicolon
    rcases h.digit_or_plus ';' hsemicolon with hdigit | hplus
    · cases hdigit
    · cases hplus

theorem isField_of_givesSize {cs : List Char} {size : Option Word}
    (h : GivesSize (some cs) size) : IsField cs := by
  cases h with
  | empty => exact isField_of_solid (by simp) (by simp)
  | decimal hdecimal => exact isField_of_isDecimal hdecimal

/-- Fields are read back from the line that they make up. -/
theorem fields_intercalate {fields : List (List Char)} (hne : fields ≠ [])
    (h : ∀ cs ∈ fields, IsField cs) :
    (Text.fields ([';'].intercalate fields)).map Text.trim = fields := by
  rw [Text.fields, List.splitOn_intercalate ';' (fun cs hcs => (h cs hcs).inField) hne]
  have htrim : ∀ cs ∈ fields, Text.trim cs = id cs := fun cs hcs => (h cs hcs).trimmed.trim
  rw [List.map_congr_left htrim, List.map_id]

/-! ## Lines -/

section Line

variable {line : List Char} {r : Routine}

/-- The fields that a line spells are those that it is cut into. -/
theorem Spells.fields (hr : IsWritable r) (h : Spells line r) : ∃ start size,
    (Text.fields line).map Text.trim = [start, r.image.toList, r.name.toList, size] ∧
      Address.read? start = some r.start ∧ GivesSize (some size) r.size := by
  obtain ⟨start, size, hstart, hsize, rfl⟩ := h
  refine ⟨start, size, ?_, hstart.read?, hsize⟩
  apply fields_intercalate (List.cons_ne_nil _ _)
  simp only [List.forall_mem_cons, List.not_mem_nil, false_imp_iff, implies_true, and_true]
  exact ⟨isField_of_isHexadecimal hstart, hr.image, hr.name, isField_of_givesSize hsize⟩

/-- A line that spells a routine is one line. -/
theorem Spells.inLine (hr : IsWritable r) (h : Spells line r) : '\n' ∉ line := by
  obtain ⟨start, size, hstart, hsize, rfl⟩ := h
  have hstart := (isField_of_isHexadecimal hstart).inLine
  have hsize := (isField_of_givesSize hsize).inLine
  simp [hstart, hr.image.inLine, hr.name.inLine, hsize]

theorem Spells.filled (h : Spells line r) : isBlank line = false := by
  obtain ⟨start, size, -, -, rfl⟩ := h
  rw [isBlank, List.all_eq_false]
  exact ⟨';', by simp, by decide⟩

/-- A line that spells a routine names it. -/
theorem Spells.describes (hr : IsWritable r) (h : Spells line r) : Describes line r := by
  obtain ⟨start, size, hfields, hstart, hsize⟩ := h.fields hr
  constructor
  · refine ⟨start, ?_, hstart⟩
    rw [field?_eq_getElem?, hfields]
    rfl
  · rw [field?_eq_getElem?, hfields]
    rfl
  · rw [field?_eq_getElem?, hfields]
    rfl
  · exact hr.named
  · rw [field?_eq_getElem?, hfields]
    exact hsize

/-- A field holds nothing that its line does not, and no semicolon. -/
theorem isField_of_field? {cs : List Char} {n : Nat} (hline : '\n' ∉ line)
    (h : field? line n = some cs) : IsField cs := by
  obtain ⟨piece, hpiece, rfl⟩ := Option.map_eq_some_iff.mp h
  have hmem : piece ∈ line.splitOn ';' := List.mem_of_getElem? hpiece
  have htrim : Text.trim piece ⊆ piece := Text.trim_subset piece
  constructor
  · exact Text.isTrimmed_trim piece
  · intro hsemicolon
    exact Text.notMem_of_mem_splitOn hmem (htrim hsemicolon)
  · intro hfeed
    exact hline (Text.subset_of_mem_splitOn hmem (htrim hfeed))

/-- A routine that a line names can be written in a line. -/
theorem isWritable_of_describes (hline : '\n' ∉ line) (h : Describes line r) : IsWritable r where
  image := isField_of_field? hline h.image
  name := isField_of_field? hline h.name
  named := h.named

/-- The line of a routine spells it. -/
theorem spells_line (r : Routine) : Spells (RoutineFile.line r).toList r := by
  have hstart := Address.IsHexadecimal.append_write
    (by decide : ['0', 'x'] ∈ Address.marks) r.start.toNat
  rw [← Word.toList_hex] at hstart
  have hsize : GivesSize (some ((r.size.map Word.decimal).getD "").toList) r.size := by
    cases r.size with
    | none => exact .empty
    | some w => exact .decimal (Word.isDecimal_decimal w)
  refine ⟨_, _, hstart, hsize, ?_⟩
  simp [RoutineFile.line, Address.marked]

end Line

/-! ## Files -/

/-- A file with a line for each routine lists these routines. -/
theorem lists_file (routines : List Routine) : Lists (file routines) routines := by
  refine ⟨routines.map fun r => (line r).toList, ?_, .inr ?_⟩
  · rw [List.forall₂_map_left_iff, List.forall₂_same]
    intro r _
    exact spells_line r
  · rw [file, String.toList_ofList, List.flatMap_map]

/-- Lines that spell routines name them one by one, and none of them is blank or more than one. -/
theorem forall₂_describes {lines : List (List Char)} {routines : List Routine}
    (h : List.Forall₂ Spells lines routines) (hw : ∀ r ∈ routines, IsWritable r) :
    List.Forall₂ (fun line r => ('\n' ∉ line ∧ isBlank line = false) ∧ Describes line r)
      lines routines := by
  induction h with
  | nil => exact .nil
  | cons hspells _ ih =>
    obtain ⟨hr, hrest⟩ := List.forall_mem_cons.mp hw
    exact .cons ⟨⟨hspells.inLine hr, hspells.filled⟩, hspells.describes hr⟩ (ih hrest)

/-- Lines that are not blank are those that are read, whether a line feed ends the last of them or
not. -/
theorem filter_lines {text : String} {lines : List (List Char)}
    (hlines : ∀ line ∈ lines, '\n' ∉ line ∧ isBlank line = false)
    (htext : text.toList = ['\n'].intercalate lines ∨
      text.toList = lines.flatMap (· ++ ['\n'])) :
    (Text.lines text.toList).filter (fun line => !isBlank line) = lines := by
  have hinLine : ∀ line ∈ lines, '\n' ∉ line := fun line hline => (hlines line hline).1
  have hfilter : lines.filter (fun line => !isBlank line) = lines := by
    rw [List.filter_eq_self]
    intro line hline
    rw [(hlines line hline).2]
    rfl
  rcases htext with htext | htext
  · by_cases hnil : lines = []
    · rw [htext, hnil]
      rfl
    · rw [htext, Text.lines, List.splitOn_intercalate '\n' hinLine hnil, hfilter]
  · rw [htext, Text.lines_flatMap hinLine, List.filter_append, hfilter]
    exact List.append_nil _

/-- Routines that single lines name can be written. -/
theorem isWritable_of_forall₂ {lines : List (List Char)} {routines : List Routine}
    (hlines : ∀ line ∈ lines, '\n' ∉ line) (h : List.Forall₂ Describes lines routines) :
    ∀ r ∈ routines, IsWritable r := by
  induction h with
  | nil => simp
  | cons hdescribes _ ih =>
    obtain ⟨hline, hrest⟩ := List.forall_mem_cons.mp hlines
    exact List.forall_mem_cons.mpr ⟨isWritable_of_describes hline hdescribes, ih hrest⟩

end RoutineFile

namespace RoutineMap

open RoutineFile

/-- A file that lists routines is read as their map. -/
theorem read_of_lists {text source : String} {routines : List Routine} (h : Lists text routines)
    (hw : ∀ r ∈ routines, IsWritable r) : read text source = .ok (ofList routines) := by
  obtain ⟨lines, hspells, htext⟩ := h
  obtain ⟨hlines, hdescribes⟩ := (List.forall₂_and_left _ _).mp (forall₂_describes hspells hw)
  rw [read_eq_ok_iff]
  refine ⟨routines, ?_, rfl⟩
  rw [filter_lines hlines htext]
  exact hdescribes

/-- The routines of a map that was read can be written again. -/
theorem isWritable_of_read {text source : String} {map : RoutineMap}
    (h : read text source = .ok map) : ∀ r ∈ map.toList, IsWritable r := by
  obtain ⟨routines, hdescribes, rfl⟩ := read_eq_ok_iff.mp h
  intro r hr
  refine isWritable_of_forall₂ ?_ hdescribes r (mem_of_mem_toList_ofList hr)
  intro line hline
  exact Text.notMem_of_mem_splitOn (List.mem_of_mem_filter hline)

/-- A file that lists routines gives the map of these routines, whatever spelling of their numbers
it has. The routines of a map that was read can be listed again, and then give the same map. -/
theorem read_listed :
    (∀ routines, Lists (file routines) routines) ∧
    (∀ routines text source, (∀ r ∈ routines, IsWritable r) → Lists text routines →
      read text source = .ok (ofList routines)) ∧
    ∀ text source map, read text source = .ok map →
      ∀ again other, Lists again map.toList → read again other = .ok map := by
  refine ⟨lists_file, ?_, ?_⟩
  · intro routines text source hw hlists
    exact read_of_lists hlists hw
  · intro text source map hmap again other hlists
    rw [read_of_lists hlists (isWritable_of_read hmap)]
    obtain ⟨routines, -, rfl⟩ := read_eq_ok_iff.mp hmap
    rw [ofList_toList_ofList]

/-- Two routines with one start, and one of which no end is known. -/
def spelled : List Routine :=
  [⟨"f g", "", 0x1a, none⟩, ⟨"h", "lib m.so", 0xa0, some 7⟩, ⟨"alias", "lib m.so", 0xa0, none⟩]

theorem lists_spelled : Lists "1A;;f g;\n0X00a0;lib m.so;h;007\nA0;lib m.so;alias;" spelled := by
  refine ⟨["1A;;f g;".toList, "0X00a0;lib m.so;h;007".toList, "A0;lib m.so;alias;".toList], ?_,
    .inl (by decide)⟩
  refine .cons ⟨"1A".toList, [], ?_, .empty, by decide⟩ <|
    .cons ⟨"0X00a0".toList, "007".toList, ?_, .decimal ?_, by decide⟩ <|
    .cons ⟨"A0".toList, [], ?_, .empty, by decide⟩ .nil
  · exact ⟨[], by decide, "1A".toList, by decide⟩
  · exact ⟨['0', 'X'], by decide, "00a0".toList, by decide⟩
  · exact ⟨"007".toList, by decide⟩
  · exact ⟨[], by decide, "A0".toList, by decide⟩

/-- The spelling of the numbers makes no difference, and the routines are read back once more. -/
theorem read_listed_spelled :
    (∀ r ∈ spelled, IsWritable r) ∧
      read "1A;;f g;\n0X00a0;lib m.so;h;007\nA0;lib m.so;alias;" "r.txt" = .ok (ofList spelled) ∧
      read (file (ofList spelled).toList) "again.txt" = .ok (ofList spelled) := by
  have hw : ∀ r ∈ spelled, IsWritable r := by decide
  obtain ⟨hfile, hread, hagain⟩ := read_listed
  have hspelled := hread spelled _ "r.txt" hw lists_spelled
  exact ⟨hw, hspelled, hagain _ _ _ hspelled _ _ (hfile _)⟩

end RoutineMap

end Symbolication
