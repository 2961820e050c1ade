import Symbolication.Proofs.DumpLayout
import Symbolication.Proofs.WrittenNumbers

namespace Symbolication.Address

theorem isHexDigit_of_isBlank {c : Char} (h : Text.isBlank c = true) :
    Numeral.isHexDigit c = false := by
  by_contra hdigit
  rw [Bool.not_eq_false] at hdigit
  rw [Numeral.isBlank_of_digit? (Numeral.isSome_digit?_sixteen hdigit)] at h
  cases h

theorem isHexDigit_of_not_ascii {c : Char} (h : 0x80 ≤ c.toNat) : Numeral.isHexDigit c = false := by
  by_contra hdigit
  rw [Bool.not_eq_false] at hdigit
  have := Numeral.toNat_of_digit? (Numeral.isSome_digit?_sixteen hdigit)
  omega

/-- What may stand before the digits of an address. -/
def marks : List (List Char) := [[], ['0', 'x'], ['0', 'X']]

/-- One hexadecimal digit or more, with a mark before them or none, and their value. -/
def IsHexadecimal (cs : List Char) (n : Nat) : Prop :=
  ∃ mark ∈ marks, ∃ digits, cs = mark ++ digits ∧ digits ≠ [] ∧
    (∀ c ∈ digits, Numeral.isHexDigit c = true) ∧
    Nat.ofDigits 16 (digits.map Numeral.hexValue).reverse = n

theorem exists_mark (cs : List Char) : ∃ mark ∈ marks, cs = mark ++ unmarked cs := by
  rw [unmarked.eq_def]
  split
  · exact ⟨['0', 'x'], by decide, rfl⟩
  · exact ⟨['0', 'X'], by decide, rfl⟩
  · exact ⟨[], by decide, rfl⟩

theorem read?_sixteen_eq_some_iff {cs : List Char} {n : Nat} : Numeral.read? 16 cs = some n ↔
    cs ≠ [] ∧ (∀ c ∈ cs, Numeral.isHexDigit c = true) ∧
      Nat.ofDigits 16 (cs.map Numeral.hexValue).reverse = n :=
  Numeral.read?_eq_some_iff_of_digit? fun _ _ => Numeral.digit?_sixteen_eq_some_iff

/-- What stands after the mark is a numeral, of any length. -/
theorem read?_unmarked_eq_some_iff {cs : List Char} {n : Nat} :
    Numeral.read? 16 (unmarked cs) = some n ↔ IsHexadecimal cs n := by
  constructor
  · intro h
    obtain ⟨mark, hmark, hcs⟩ := exists_mark cs
    exact ⟨mark, hmark, unmarked cs, hcs, read?_sixteen_eq_some_iff.mp h⟩
  · rintro ⟨mark, hmark, digits, rfl, hne, hdigits, hvalue⟩
    rw [unmarked_append hmark fun c hc => Numeral.isSome_digit?_sixteen (hdigits c hc)]
    exact read?_sixteen_eq_some_iff.mpr ⟨hne, hdigits, hvalue⟩

/-- An address is read exactly from its spellings. -/
theorem read?_eq_some_iff {cs : List Char} {a : Address} :
    read? cs = some a ↔ IsHexadecimal (Text.trim cs) a.toNat := by
  rw [read?, Word.bind_ofNat?_eq_some_iff, read?_unmarked_eq_some_iff]

namespace IsHexadecimal

variable {cs : List Char} {n : Nat}

/-- A spelling is that of one number. -/
theorem value_unique {m : Nat} (hm : IsHexadecimal cs m) (hn : IsHexadecimal cs n) : m = n := by
  rw [← read?_unmarked_eq_some_iff] at hm hn
  exact Option.some.inj (hm.symm.trans hn)

/-- No character but the digits and the mark stands in a hexadecimal number. -/
theorem notMem {c : Char} (h : IsHexadecimal cs n) (hdigit : Numeral.isHexDigit c = false)
    (hx : c ≠ 'x') (hX : c ≠ 'X') : c ∉ cs := by
  obtain ⟨mark, hmark, digits, rfl, -, hdigits, -⟩ := h
  have hzero : c ≠ '0' := by
    rintro rfl
    cases hdigit
  intro hc
  rcases List.mem_append.mp hc with hc | hc
  · simp only [marks, List.mem_cons, List.not_mem_nil, or_false] at hmark
    rcases hmark with rfl | rfl | rfl <;> simp_all
  · rw [hdigits c hc] at hdigit
    cases hdigit

theorem solid (h : IsHexadecimal cs n) : ∀ c ∈ cs, Text.isBlank c = false := by
  intro c hc
  cases hblank : Text.isBlank c with
  | false => rfl
  | true =>
    have hne (d : Char) (hd : Text.isBlank d = false) : c ≠ d := by
      rintro rfl
      rw [hblank] at hd
      cases hd
    exact absurd hc (h.notMem (isHexDigit_of_isBlank hblank) (hne 'x' (by decide))
      (hne 'X' (by decide)))

theorem read? {a : Address} (h : IsHexadecimal cs a.toNat) : read? cs = some a := by
  rw [read?_eq_some_iff, (Text.isTrimmed_of_solid h.solid).trim]
  exact h

/-- A number is written in such digits. -/
theorem append_write {mark : List Char} (hmark : mark ∈ marks) (n : Nat) :
    IsHexadecimal (mark ++ Numeral.write 16 n) n :=
  ⟨mark, hmark, _, rfl,
    read?_sixteen_eq_some_iff.mp (Numeral.read?_write n (by decide) (by decide))⟩

end IsHexadecimal

/-- A sign, a blank or a character that is not ASCII. -/
def IsStray (c : Char) : Prop :=
  c = '+' ∨ c = '-' ∨ Text.isBlank c = true ∨ 0x80 ≤ c.toNat

theorem read?_eq_none_of_stray {cs : List Char} {c : Char} (hc : c ∈ Text.trim cs)
    (h : IsStray c) : read? cs = none := by
  rw [Option.eq_none_iff_forall_ne_some]
  intro a ha
  have hcs := read?_eq_some_iff.mp ha
  rcases h with rfl | rfl | hblank | hascii
  · exact hcs.notMem (by decide) (by decide) (by decide) hc
  · exact hcs.notMem (by decide) (by decide) (by decide) hc
  · rw [hcs.solid c hc] at hblank
    cases hblank
  · refine hcs.notMem (isHexDigit_of_not_ascii hascii) ?_ ?_ hc
    · rintro rfl
      exact absurd hascii (by decide)
    · rintro rfl
      exact absurd hascii (by decide)

/-- A mark alone has no digits. -/
theorem read?_eq_none_of_mark {cs : List Char} (h : Text.trim cs ∈ marks) : read? cs = none := by
  have hdigits := @unmarked_append (Text.trim cs) [] h (by simp)
  rw [List.append_nil] at hdigits
  rw [read?, hdigits]
  rfl

/-- What stands after the mark does not start with a mark again. -/
theorem read?_eq_none_of_marks {cs mark again rest : List Char} (hmark : mark ∈ marks.tail)
    (hagain : again ∈ marks.tail) (h : Text.trim cs = mark ++ (again ++ rest)) :
    read? cs = none := by
  have hunmarked : unmarked (mark ++ (again ++ rest)) = again ++ rest := by
    simp only [marks, List.tail_cons, List.mem_cons, List.not_mem_nil, or_false] at hmark
    rcases hmark with rfl | rfl <;> rfl
  have hletter : ∃ c ∈ again, Numeral.isHexDigit c = false := by
    simp only [marks, List.tail_cons, List.mem_cons, List.not_mem_nil, or_false] at hagain
    rcases hagain with rfl | rfl
    · exact ⟨'x', by decide, by decide⟩
    · exact ⟨'X', by decide, by decide⟩
  rw [Option.eq_none_iff_forall_ne_some]
  intro a ha
  rw [read?, Word.bind_ofNat?_eq_some_iff, h, hunmarked, read?_sixteen_eq_some_iff] at ha
  obtain ⟨c, hc, hnot⟩ := hletter
  rw [ha.2.1 c (List.mem_append_left rest hc)] at hnot
  cases hnot

/-- No word holds the number. -/
theorem read?_eq_none_of_size_le {cs : List Char} {n : Nat} (h : IsHexadecimal (Text.trim cs) n)
    (hn : UInt64.size ≤ n) : read? cs = none := by
  rw [Option.eq_none_iff_forall_ne_some]
  intro a ha
  have hvalue := (read?_eq_some_iff.mp ha).value_unique h
  have := a.toNat_lt_size
  omega

/-- An address is read exactly where a text, without the blanks around it, is a mark or none and
then hexadecimal digits whose number a word holds. So every address reads back as it is written,
with a mark or without, and nothing is read where there is a sign, a blank between characters, a
character that is not ASCII, a mark without digits or with another one, or a number that no word
holds. -/
theorem read?_exact :
    (∀ cs a, read? cs = some a ↔ IsHexadecimal (Text.trim cs) a.toNat) ∧
    (∀ a, read? (Word.hex a).toList = some a ∧ read? (marked a).toList = some a) ∧
    (∀ cs, (∃ c ∈ Text.trim cs, IsStray c) → read? cs = none) ∧
    (∀ cs, Text.trim cs ∈ marks → read? cs = none) ∧
    (∀ cs mark again rest, mark ∈ marks.tail → again ∈ marks.tail →
      Text.trim cs = mark ++ (again ++ rest) → read? cs = none) ∧
    ∀ cs n, IsHexadecimal (Text.trim cs) n → UInt64.size ≤ n → read? cs = none := by
  refine ⟨fun cs a => read?_eq_some_iff, fun a => ⟨?_, ?_⟩, ?_, ?_, ?_, ?_⟩
  · rw [Word.toList_hex]
    exact (IsHexadecimal.append_write (by decide : [] ∈ marks) a.toNat).read?
  · rw [marked, String.toList_append, Word.toList_hex]
    exact (IsHexadecimal.append_write (by decide : ['0', 'x'] ∈ marks) a.toNat).read?
  · rintro cs ⟨c, hc, hstray⟩
    exact read?_eq_none_of_stray hc hstray
  · intro cs hmark
    exact read?_eq_none_of_mark hmark
  · intro cs mark again rest hmark hagain hcs
    exact read?_eq_none_of_marks hmark hagain hcs
  · intro cs n hcs hn
    exact read?_eq_none_of_size_le hcs hn

example : read? " 0X00008b1C0\r".toList = some 0x8b1c0 := by decide

end Symbolication.Address
