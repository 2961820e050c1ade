import Symbolication.Proofs.WrittenNumbers
import Symbolication.RoutineFile

namespace Symbolication

namespace RoutineFile

def isBlank (line : List Char) : Bool := line.all Text.isBlank

/-- A field of a line without the blanks around it. Fields are counted from 0. -/
def field? (line : List Char) (n : Nat) : Option (List Char) :=
  ((Text.fields line)[n]?).map Text.trim

/-- The size that a field gives. It is left open where there is no field, or an empty one. -/
inductive GivesSize : Option (List Char) → Option Word → Prop
  | absent : GivesSize none none
  | empty : GivesSize (some []) none
  | decimal {cs : List Char} {w : Word} (h : Word.IsDecimal cs w) : GivesSize (some cs) (some w)

/-- A line names a routine: an address, an image, a name and a size, and any more fields. -/
structure Describes (line : List Char) (r : Routine) : Prop where
  start : ∃ cs, field? line 0 = some cs ∧ Address.read? cs = some r.start
  image : field? line 1 = some r.image.toList
  name : field? line 2 = some r.name.toList
  named : r.name.toList ≠ []
  size : GivesSize (field? line 3) r.size

/-- The first check that a line fails. The checks before it are passed. -/
inductive Fails (line : List Char) : RoutineFault → Prop
  | start {cs : List Char} (hfield : field? line 0 = some cs) (hcs : Address.read? cs = none) :
      Fails line (.badStart (String.ofList cs))
  | count {cs : List Char} {start : Address} (hfield : field? line 0 = some cs)
      (hcs : Address.read? cs = some start) (hfew : field? line 2 = none) : Fails line .missingField
  | name {cs : List Char} {start : Address} (hfield : field? line 0 = some cs)
      (hcs : Address.read? cs = some start) (hempty : field? line 2 = some []) :
      Fails line .emptyName
  | size {cs name size : List Char} {start : Address} (hfield : field? line 0 = some cs)
      (hcs : Address.read? cs = some start) (hname : field? line 2 = some name) (hnamed : name ≠ [])
      (hsize : field? line 3 = some size) (hfilled : size ≠ [])
      (hnot : ∀ w, ¬ Word.IsDecimal size w) : Fails line (.badSize (String.ofList size))

/-! ## Fields -/

theorem field?_eq_getElem? (line : List Char) (n : Nat) :
    field? line n = ((Text.fields line).map Text.trim)[n]? := by
  rw [field?, List.getElem?_map]

theorem exists_first_field (line : List Char) :
    ∃ first rest, (Text.fields line).map Text.trim = first :: rest ∧
      field? line 0 = some first := by
  have hfields : (Text.fields line).map Text.trim ≠ [] := by
    rw [ne_eq, List.map_eq_nil_iff]
    exact List.splitOn_ne_nil ';' line
  obtain ⟨first, rest, hfirst⟩ := List.exists_cons_of_ne_nil hfields
  exact ⟨first, rest, hfirst, by rw [field?_eq_getElem?, hfirst, List.getElem?_cons_zero]⟩

/-- The fields before a field are there too. -/
theorem exists_field?_of_lt {line cs : List Char} {m n : Nat} (h : field? line n = some cs)
    (hlt : m < n) : ∃ before, field? line m = some before := by
  rw [field?_eq_getElem?] at h
  obtain ⟨hn, -⟩ := List.getElem?_eq_some_iff.mp h
  rw [field?_eq_getElem?]
  exact ⟨_, List.getElem?_eq_getElem (by omega)⟩

/-- A line with a third field starts with three fields. -/
theorem fields_of_third {line first image name : List Char} (hfirst : field? line 0 = some first)
    (himage : field? line 1 = some image) (hname : field? line 2 = some name) :
    ∃ rest, (Text.fields line).map Text.trim = first :: image :: name :: rest ∧
      field? line 3 = rest.head? := by
  simp only [field?_eq_getElem?] at *
  match hfields : (Text.fields line).map Text.trim with
  | [] | [_] | [_, _] => simp [hfields] at hname
  | a :: b :: c :: rest =>
    simp only [hfields, List.getElem?_cons_zero, List.getElem?_cons_succ, Option.some.injEq] at *
    subst hfirst himage hname
    exact ⟨rest, rfl, List.head?_eq_getElem?.symm⟩

/-! ## One line -/

theorem routine_of_describes {line : List Char} {r : Routine} (h : Describes line r) :
    routine line = .ok r := by
  obtain ⟨name, image, start, given⟩ := r
  obtain ⟨⟨first, hfirst, hstart⟩, himage, hname, hnamed, hsize⟩ := h
  obtain ⟨rest, hfields, hfourth⟩ := fields_of_third hfirst himage hname
  rw [hfourth] at hsize
  dsimp only at *
  simp only [routine, hfields, List.headD_cons, hstart, List.tail_cons,
    List.isEmpty_eq_false_iff.mpr hnamed, String.ofList_toList, Bool.false_eq_true, if_false]
  rw [List.headD_eq_head?_getD]
  generalize rest.head? = field at hsize
  cases hsize with
  | absent | empty => rfl
  | decimal hdecimal =>
    have hread := Word.read?_eq_some_iff.mpr hdecimal
    have hfilled := List.isEmpty_eq_false_iff.mpr hdecimal.ne_nil
    simp only [Option.getD_some, hfilled, hread, Bool.false_eq_true, if_false]

theorem routine_of_fails {line : List Char} {fault : RoutineFault} (h : Fails line fault) :
    routine line = .error fault := by
  obtain ⟨first, rest, hfields, hzero⟩ := exists_first_field line
  cases h with
  | start hfield hcs =>
    rw [hzero, Option.some.injEq] at hfield
    subst hfield
    simp only [routine, hfields, List.headD_cons, hcs]
  | count hfield hcs hfew =>
    rw [hzero, Option.some.injEq] at hfield
    subst hfield
    rw [field?_eq_getElem?, hfields] at hfew
    simp only [routine, hfields, List.headD_cons, hcs, List.tail_cons]
    match rest with
    | [] | [_] => rfl
    | _ :: _ :: _ => simp at hfew
  | name hfield hcs hempty =>
    obtain ⟨image, himage⟩ := exists_field?_of_lt hempty (show 1 < 2 by omega)
    obtain ⟨rest, hfields, -⟩ := fields_of_third hfield himage hempty
    simp [routine, hfields, hcs]
  | @size _ name size start hfield hcs hname hnamed hsize hfilled hnot =>
    obtain ⟨image, himage⟩ := exists_field?_of_lt hname (show 1 < 2 by omega)
    obtain ⟨rest, hfields, hfourth⟩ := fields_of_third hfield himage hname
    have hread : Word.read? size = none := by
      rw [Option.eq_none_iff_forall_ne_some]
      intro w hw
      exact hnot w (Word.read?_eq_some_iff.mp hw)
    have hhead : rest.head?.getD [] = size := by rw [← hfourth, hsize, Option.getD_some]
    simp [routine, hfields, hcs, hnamed, List.headD_eq_head?_getD, hhead, hfilled, hread]

/-- Every line names a routine, or there is a first check that it fails. -/
theorem describes_or_fails (line : List Char) :
    (∃ r, Describes line r) ∨ ∃ fault, Fails line fault := by
  obtain ⟨first, _, _, hzero⟩ := exists_first_field line
  cases hstart : Address.read? first with
  | none => exact .inr ⟨_, .start hzero hstart⟩
  | some start =>
    cases hname : field? line 2 with
    | none => exact .inr ⟨_, .count hzero hstart hname⟩
    | some name =>
      by_cases hnamed : name = []
      · exact .inr ⟨_, .name hzero hstart (hnamed ▸ hname)⟩
      · obtain ⟨image, himage⟩ := exists_field?_of_lt hname (show 1 < 2 by omega)
        have hdescribes (given : Option Word) (hgiven : GivesSize (field? line 3) given) :
            ∃ r, Describes line r := by
          refine ⟨⟨String.ofList name, String.ofList image, start, given⟩, ⟨first, hzero, hstart⟩,
            ?_, ?_, ?_, hgiven⟩
          · rw [String.toList_ofList, himage]
          · rw [String.toList_ofList, hname]
          · rw [String.toList_ofList]
            exact hnamed
        cases hsize : field? line 3 with
        | none => exact .inl (hdescribes none (hsize ▸ .absent))
        | some size =>
          by_cases hfilled : size = []
          · exact .inl (hdescribes none (by rw [hsize, hfilled]; exact .empty))
          · by_cases hdecimal : ∃ w, Word.IsDecimal size w
            · obtain ⟨w, hw⟩ := hdecimal
              exact .inl (hdescribes (some w) (hsize ▸ .decimal hw))
            · exact .inr ⟨_, .size hzero hstart hname hnamed hsize hfilled (not_exists.mp hdecimal)⟩

/-- A line is read exactly as the routine that it names. -/
theorem routine_eq_ok_iff {line : List Char} {r : Routine} :
    routine line = .ok r ↔ Describes line r := by
  constructor
  · intro h
    rcases describes_or_fails line with ⟨other, hother⟩ | ⟨fault, hfault⟩
    · rw [routine_of_describes hother, Except.ok.injEq] at h
      exact h ▸ hother
    · rw [routine_of_fails hfault] at h
      cases h
  · exact routine_of_describes

/-- A line is refused exactly for the first check that it fails. -/
theorem routine_eq_error_iff {line : List Char} {fault : RoutineFault} :
    routine line = .error fault ↔ Fails line fault := by
  constructor
  · intro h
    rcases describes_or_fails line with ⟨r, hr⟩ | ⟨other, hother⟩
    · rw [routine_of_describes hr] at h
      cases h
    · rw [routine_of_fails hother, Except.error.injEq] at h
      exact h ▸ hother
  · exact routine_of_fails

example : routine "0x10;m;f;four".toList = .error (.badSize "four") := by decide

/-! ## The lines of a file -/

section Routines

variable {source : String} {line : List Char} {number : Nat} {lines : List (List Char × Nat)}

theorem routines_of_ok {r : Routine} (h : routine line = .ok r) :
    routines source ((line, number) :: lines) = (routines source lines).map (r :: ·) := by
  simp only [routines, List.mapM_cons, h]
  rfl

theorem routines_of_error {fault : RoutineFault} (h : routine line = .error fault) :
    routines source ((line, number) :: lines) = .error (.badLine source number fault) := by
  simp only [routines, List.mapM_cons, h]
  rfl

end Routines

def routinesFrom (source : String) (number : Nat) (lines : List (List Char)) :
    Except Failure (List Routine) :=
  routines source ((lines.zipIdx number).filter fun (line, _) => !(Text.trim line).isEmpty)

theorem read_eq_map_routinesFrom (text source : String) :
    RoutineMap.read text source =
      (routinesFrom source 1 (Text.lines text.toList)).map RoutineMap.ofList := rfl

theorem isEmpty_trim (line : List Char) : (Text.trim line).isEmpty = isBlank line := by
  rw [Bool.eq_iff_iff, List.isEmpty_iff, Text.trim_eq_nil_iff, isBlank, List.all_eq_true]

section Steps

variable {source : String} {number : Nat} {line : List Char} {lines : List (List Char)}

theorem routinesFrom_of_blank (h : isBlank line = true) :
    routinesFrom source number (line :: lines) = routinesFrom source (number + 1) lines := by
  simp [routinesFrom, isEmpty_trim, h]

theorem routinesFrom_of_filled (h : isBlank line = false) :
    routinesFrom source number (line :: lines) = routines source ((line, number) ::
      (lines.zipIdx (number + 1)).filter fun (line, _) => !(Text.trim line).isEmpty) := by
  simp only [routinesFrom, List.zipIdx_cons, List.filter_cons, isEmpty_trim, h, Bool.not_false,
    if_true]

theorem routinesFrom_of_describes {r : Routine} (h : isBlank line = false)
    (hr : Describes line r) : routinesFrom source number (line :: lines) =
      (routinesFrom source (number + 1) lines).map (r :: ·) := by
  rw [routinesFrom_of_filled h, routines_of_ok (routine_of_describes hr), routinesFrom]

theorem routinesFrom_of_fails {fault : RoutineFault} (h : isBlank line = false)
    (hfault : Fails line fault) : routinesFrom source number (line :: lines) =
      .error (.badLine source number fault) := by
  rw [routinesFrom_of_filled h, routines_of_error (routine_of_fails hfault)]

end Steps

def Readable (line : List Char) : Prop := isBlank line = false → ∃ r, Describes line r

/-- A line that ends the reading of a file: it is not blank and fails a check, and no line before it
does so. -/
structure FirstBad (before : List (List Char)) (line : List Char) (fault : RoutineFault) : Prop where
  readable : ∀ other ∈ before, Readable other
  filled : isBlank line = false
  fails : Fails line fault

theorem readable_or_firstBad (lines : List (List Char)) :
    (∀ line ∈ lines, Readable line) ∨
      ∃ before line after fault, lines = before ++ line :: after ∧ FirstBad before line fault := by
  induction lines with
  | nil => exact .inl fun _ h => nomatch h
  | cons line lines ih =>
    by_cases hline : Readable line
    · rcases ih with hlines | ⟨before, bad, after, fault, rfl, hreadable, hfilled, hfails⟩
      · exact .inl (List.forall_mem_cons.mpr ⟨hline, hlines⟩)
      · exact .inr ⟨line :: before, bad, after, fault, rfl,
          List.forall_mem_cons.mpr ⟨hline, hreadable⟩, hfilled, hfails⟩
    · obtain ⟨hfilled, hnot⟩ := Classical.not_imp.mp hline
      obtain ⟨fault, hfails⟩ := (describes_or_fails line).resolve_left hnot
      exact .inr ⟨[], line, lines, fault, rfl, fun _ h => (nomatch h), hfilled, hfails⟩

section Lines

variable {source : String} {number : Nat} {lines : List (List Char)}

theorem routinesFrom_of_forall₂ {rs : List Routine}
    (h : List.Forall₂ Describes (lines.filter fun line => !isBlank line) rs) :
    routinesFrom source number lines = .ok rs := by
  induction lines generalizing number rs with
  | nil =>
    cases h
    rfl
  | cons line lines ih =>
    cases hblank : isBlank line with
    | true =>
      rw [List.filter_cons_of_neg (by simp [hblank])] at h
      rw [routinesFrom_of_blank hblank]
      exact ih h
    | false =>
      rw [List.filter_cons_of_pos (by simp [hblank])] at h
      cases h with
      | cons hline hlines =>
        rw [routinesFrom_of_describes hblank hline, ih hlines]
        rfl

theorem exists_routines (h : ∀ line ∈ lines, Readable line) :
    ∃ rs, List.Forall₂ Describes (lines.filter fun line => !isBlank line) rs := by
  induction lines with
  | nil => exact ⟨[], .nil⟩
  | cons line lines ih =>
    obtain ⟨hline, hlines⟩ := List.forall_mem_cons.mp h
    obtain ⟨rs, hrs⟩ := ih hlines
    cases hblank : isBlank line with
    | true =>
      rw [List.filter_cons_of_neg (by simp [hblank])]
      exact ⟨rs, hrs⟩
    | false =>
      obtain ⟨r, hr⟩ := hline hblank
      rw [List.filter_cons_of_pos (by simp [hblank])]
      exact ⟨r :: rs, .cons hr hrs⟩

/-- Blank lines are counted, and the lines after a bad one are not read. -/
theorem routinesFrom_of_firstBad {before after : List (List Char)} {line : List Char}
    {fault : RoutineFault} (h : FirstBad before line fault) :
    routinesFrom source number (before ++ line :: after) =
      .error (.badLine source (number + before.length) fault) := by
  obtain ⟨hreadable, hfilled, hfails⟩ := h
  induction before generalizing number with
  | nil => exact routinesFrom_of_fails hfilled hfails
  | cons other before ih =>
    obtain ⟨hother, hbefore⟩ := List.forall_mem_cons.mp hreadable
    have hnumber : number + 1 + before.length = number + (other :: before).length := by
      rw [List.length_cons]
      omega
    rw [List.cons_append]
    cases hblank : isBlank other with
    | true => rw [routinesFrom_of_blank hblank, ih hbefore, hnumber]
    | false =>
      obtain ⟨r, hr⟩ := hother hblank
      rw [routinesFrom_of_describes hblank hr, ih hbefore, hnumber]
      rfl

theorem routinesFrom_eq_ok_iff {rs : List Routine} : routinesFrom source number lines = .ok rs ↔
    List.Forall₂ Describes (lines.filter fun line => !isBlank line) rs := by
  constructor
  · intro h
    rcases readable_or_firstBad lines with hreadable | ⟨_, _, _, _, rfl, hbad⟩
    · obtain ⟨routines, hroutines⟩ := exists_routines hreadable
      rw [routinesFrom_of_forall₂ hroutines, Except.ok.injEq] at h
      exact h ▸ hroutines
    · rw [routinesFrom_of_firstBad hbad] at h
      cases h
  · exact routinesFrom_of_forall₂

theorem routinesFrom_eq_error_iff {failure : Failure} :
    routinesFrom source number lines = .error failure ↔
      ∃ before line after fault, lines = before ++ line :: after ∧ FirstBad before line fault ∧
        failure = .badLine source (number + before.length) fault := by
  constructor
  · intro h
    rcases readable_or_firstBad lines with hreadable | ⟨before, line, after, fault, rfl, hbad⟩
    · obtain ⟨routines, hroutines⟩ := exists_routines hreadable
      rw [routinesFrom_of_forall₂ hroutines] at h
      cases h
    · rw [routinesFrom_of_firstBad hbad, Except.error.injEq] at h
      exact ⟨before, line, after, fault, rfl, hbad, h.symm⟩
  · rintro ⟨before, line, after, fault, rfl, hbad, rfl⟩
    exact routinesFrom_of_firstBad hbad

theorem exists_routinesFrom_eq_ok_iff :
    (∃ rs, routinesFrom source number lines = .ok rs) ↔ ∀ line ∈ lines, Readable line := by
  constructor
  · rintro ⟨rs, hrs⟩
    rcases readable_or_firstBad lines with hreadable | ⟨_, _, _, _, rfl, hbad⟩
    · exact hreadable
    · rw [routinesFrom_of_firstBad hbad] at hrs
      cases hrs
  · intro h
    obtain ⟨rs, hrs⟩ := exists_routines h
    exact ⟨rs, routinesFrom_of_forall₂ hrs⟩

end Lines

end RoutineFile

namespace RoutineMap

open RoutineFile

theorem read_eq_ok_iff {text source : String} {map : RoutineMap} :
    read text source = .ok map ↔ ∃ rs,
      List.Forall₂ Describes ((Text.lines text.toList).filter fun line => !isBlank line) rs ∧
        map = ofList rs := by
  simp only [← @routinesFrom_eq_ok_iff source 1]
  rw [read_eq_map_routinesFrom]
  cases routinesFrom source 1 (Text.lines text.toList) with
  | error failure => simp [Except.map]
  | ok rs => simp [Except.map, eq_comm]

theorem read_eq_error_iff {text source : String} {failure : Failure} :
    read text source = .error failure ↔ ∃ before line after fault,
      Text.lines text.toList = before ++ line :: after ∧ FirstBad before line fault ∧
        failure = .badLine source (before.length + 1) fault := by
  simp only [Nat.add_comm _ 1]
  rw [← routinesFrom_eq_error_iff, read_eq_map_routinesFrom]
  cases routinesFrom source 1 (Text.lines text.toList) <;> simp [Except.map]

theorem exists_read_eq_ok_iff {text source : String} : (∃ map, read text source = .ok map) ↔
    ∀ line ∈ Text.lines text.toList, Readable line := by
  rw [← exists_routinesFrom_eq_ok_iff, read_eq_map_routinesFrom]
  cases routinesFrom source 1 (Text.lines text.toList) <;> simp [Except.map]

/-- A file is read when every line that is not blank names a routine, and its routines are those of
these lines in order. Otherwise the first other line is to blame, and what follows it is not read. -/
theorem read_exact (text source : String) :
    ((∃ map, read text source = .ok map) ↔
      ∀ line ∈ Text.lines text.toList, isBlank line = false → ∃ r, Describes line r) ∧
    (∀ map, read text source = .ok map ↔ ∃ rs,
      List.Forall₂ Describes ((Text.lines text.toList).filter fun line => !isBlank line) rs ∧
        map = ofList rs) ∧
    (∀ failure, read text source = .error failure ↔ ∃ before line after fault,
      Text.lines text.toList = before ++ line :: after ∧ FirstBad before line fault ∧
        failure = .badLine source (before.length + 1) fault) ∧
    (∀ before line after fault, Text.lines text.toList = before ++ line :: after →
      FirstBad before line fault → ∀ other rest,
        Text.lines other.toList = before ++ line :: rest →
          read other source = read text source) := by
  refine ⟨exists_read_eq_ok_iff, fun map => read_eq_ok_iff, fun failure => read_eq_error_iff, ?_⟩
  intro before line after fault htext hbad other rest hother
  rw [read_eq_error_iff.mpr ⟨before, line, after, fault, htext, hbad, rfl⟩]
  exact read_eq_error_iff.mpr ⟨before, line, rest, fault, hother, hbad, rfl⟩

end RoutineMap

end Symbolication
