import Symbolication.Numeral
import Symbolication.Text.Blank

namespace Symbolication

abbrev Word := UInt64

abbrev Address := Word

namespace Word

/-- The word of a number below `2 ^ 64`. -/
def ofNat? (n : Nat) : Option Word := if n < UInt64.size then some (UInt64.ofNat n) else none

/-- The sum of two words, where a word holds it. -/
def sum? (a b : Word) : Option Word := ofNat? (a.toNat + b.toNat)

/-- The difference of two words, where it is not negative. -/
def difference? (a b : Word) : Option Word := if b ≤ a then some (a - b) else none

/-- A decimal word: digits, with a plus sign before them or none. -/
def read? (cs : List Char) : Option Word :=
  let digits := match cs with
    | '+' :: rest => rest
    | _ => cs
  (Numeral.read? 10 digits).bind ofNat?

def decimal (w : Word) : String := Numeral.decimal w.toNat

/-- A word in small hexadecimal digits. -/
def hex (w : Word) : String := String.ofList (Numeral.write 16 w.toNat)

theorem read?_plus (digits : List Char) :
    read? ('+' :: digits) = (Numeral.read? 10 digits).bind ofNat? := rfl

theorem read?_of_unsigned {cs : List Char} (h : ∀ rest, cs ≠ '+' :: rest) :
    read? cs = (Numeral.read? 10 cs).bind ofNat? := by
  unfold read?
  split
  · next rest => exact absurd rfl (h rest)
  · rfl

theorem ofNat?_eq_some_iff {n : Nat} {w : Word} : ofNat? n = some w ↔ w.toNat = n := by
  unfold ofNat?
  constructor
  · intro h
    split at h
    · next hn => cases h; rw [UInt64.toNat_ofNat_of_lt' hn]
    · cases h
  · rintro rfl
    simp [UInt64.toNat_lt_size]

/-- The sum of two words is their sum as numbers. -/
theorem sum?_eq_some_iff {a b c : Word} : sum? a b = some c ↔ c.toNat = a.toNat + b.toNat :=
  ofNat?_eq_some_iff

theorem sum?_eq_none_iff {a b : Word} : sum? a b = none ↔ UInt64.size ≤ a.toNat + b.toNat := by
  unfold sum? ofNat?
  split
  · next hlt => simpa using hlt
  · next hsize => simpa using Nat.not_lt.mp hsize

/-- The difference of two words is what the second one lacks to the first. -/
theorem difference?_eq_some_iff {a b c : Word} :
    difference? a b = some c ↔ b.toNat + c.toNat = a.toNat := by
  unfold difference?
  constructor
  · intro h
    split at h
    · next hle =>
      cases h
      have := UInt64.toNat_sub_of_le _ _ hle
      have := UInt64.le_iff_toNat_le.mp hle
      omega
    · cases h
  · intro h
    have hle : b ≤ a := UInt64.le_iff_toNat_le.mpr (by omega)
    rw [if_pos hle]
    congr 1
    apply UInt64.toNat_inj.mp
    rw [UInt64.toNat_sub_of_le _ _ hle]
    omega

theorem difference?_eq_none_iff {a b : Word} : difference? a b = none ↔ a < b := by
  unfold difference?
  split
  · next hle => simpa using hle
  · next hlt => simpa using UInt64.not_le.mp hlt

/-! ### Written words -/

theorem toList_decimal (w : Word) : (decimal w).toList = Numeral.write 10 w.toNat :=
  String.toList_ofList

theorem toList_hex (w : Word) : (hex w).toList = Numeral.write 16 w.toNat := String.toList_ofList

theorem decimal_inj {v w : Word} (h : (decimal v).toList = (decimal w).toList) : v = w := by
  rw [toList_decimal, toList_decimal] at h
  exact UInt64.toNat_inj.mp (Numeral.write_injective (by decide) (by decide) h)

theorem hex_inj {v w : Word} (h : (hex v).toList = (hex w).toList) : v = w := by
  rw [toList_hex, toList_hex] at h
  exact UInt64.toNat_inj.mp (Numeral.write_injective (by decide) (by decide) h)

/-- A word is written in digits only. -/
theorem notMem_decimal {c : Char} (hc : Numeral.digit? 10 c = none) (w : Word) :
    c ∉ (decimal w).toList := by
  rw [toList_decimal]
  exact Numeral.notMem_write (by decide) (by decide) hc

theorem notMem_hex {c : Char} (hc : Numeral.digit? 16 c = none) (w : Word) :
    c ∉ (hex w).toList := by
  rw [toList_hex]
  exact Numeral.notMem_write (by decide) (by decide) hc

end Word

namespace Address

/-- What follows the mark `0x` or `0X`, where a text starts with one. -/
def unmarked : List Char → List Char
  | '0' :: 'x' :: rest => rest
  | '0' :: 'X' :: rest => rest
  | cs => cs

/-- Digits do not start with a mark. -/
theorem unmarked_append {mark digits : List Char} (hmark : mark ∈ [[], ['0', 'x'], ['0', 'X']])
    (hdigits : ∀ c ∈ digits, (Numeral.digit? 16 c).isSome) :
    unmarked (mark ++ digits) = digits := by
  have hunmarked : unmarked digits = digits := by
    have hx {c : Char} {cs : List Char} (h : digits = '0' :: c :: cs) : c ≠ 'x' ∧ c ≠ 'X' := by
      have hc := hdigits c (by simp [h])
      constructor <;> rintro rfl <;> cases hc
    rw [unmarked.eq_def]
    split
    · next rest => exact absurd rfl (hx rfl).1
    · next rest => exact absurd rfl (hx rfl).2
    · rfl
  simp only [List.mem_cons, List.not_mem_nil, or_false] at hmark
  rcases hmark with rfl | rfl | rfl
  · exact hunmarked
  · rfl
  · rfl

/-- A hexadecimal address, with blanks around it and a mark before it or not. -/
def read? (cs : List Char) : Option Address :=
  (Numeral.read? 16 (unmarked (Text.trim cs))).bind Word.ofNat?

def marked (a : Address) : String := "0x" ++ Word.hex a

theorem append_plus_marked (text : String) (a : Address) :
    text ++ "+" ++ marked a = text ++ "+0x" ++ Word.hex a := by
  have hmark : "+0x" = "+" ++ "0x" := rfl
  rw [hmark, marked, String.append_assoc, String.append_assoc, String.append_assoc]

end Address

end Symbolication
