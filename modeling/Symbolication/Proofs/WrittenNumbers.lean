import Mathlib.Data.List.Forall2
import Mathlib.Data.Nat.Digits.Defs
import Symbolication.Address

namespace Symbolication

namespace Numeral

def Digits (base : Nat) (cs : List Char) (ds : List Nat) : Prop :=
  List.Forall₂ (fun c d => digit? base c = some d) cs ds

/-- A digit moves the value before it up by one place. -/
theorem ofDigits_append_pair (base acc d : Nat) (ds : List Nat) :
    Nat.ofDigits base (ds ++ [d, acc]) = Nat.ofDigits base (ds ++ [acc * base + d]) := by
  rw [Nat.ofDigits_append, Nat.ofDigits_append, Nat.ofDigits_cons, Nat.ofDigits_singleton,
    Nat.ofDigits_singleton, Nat.mul_comm acc base, Nat.add_comm]
  simp [Nat.add_comm]

theorem continue?_eq_some_iff {base acc n : Nat} {cs : List Char} :
    continue? base acc cs = some n ↔
      ∃ ds, Digits base cs ds ∧ Nat.ofDigits base (ds.reverse ++ [acc]) = n := by
  induction cs generalizing acc with
  | nil => simp [continue?, Digits]
  | cons c cs ih =>
    rw [continue?]
    cases hd : digit? base c with
    | none =>
      constructor
      · intro h
        cases h
      · rintro ⟨ds, hds, -⟩
        cases hds with
        | cons hc _ =>
          rw [hd] at hc
          cases hc
    | some d =>
      simp only [ih, ← ofDigits_append_pair]
      constructor
      · rintro ⟨ds, hds, hvalue⟩
        exact ⟨d :: ds, .cons hd hds, by simpa using hvalue⟩
      · rintro ⟨ds, hds, hvalue⟩
        cases hds with
        | cons hc hrest =>
          rw [hd, Option.some.injEq] at hc
          subst hc
          exact ⟨_, hrest, by simpa using hvalue⟩

/-- A numeral is one digit or more, and nothing else. -/
theorem read?_eq_some_iff {base n : Nat} {cs : List Char} :
    read? base cs = some n ↔
      cs ≠ [] ∧ ∃ ds, Digits base cs ds ∧ Nat.ofDigits base ds.reverse = n := by
  cases cs with
  | nil => simp [read?]
  | cons c cs =>
    rw [read?, continue?_eq_some_iff]
    simp only [Nat.ofDigits_append_zero, ne_eq, reduceCtorEq, not_false_eq_true, true_and]

/-- Where a test tells the digits and a function their values, a numeral is read through both. -/
theorem read?_eq_some_iff_of_digit? {base n : Nat} {isDigit : Char → Bool} {value : Char → Nat}
    (hdigit : ∀ c d, digit? base c = some d ↔ isDigit c = true ∧ value c = d) {cs : List Char} :
    read? base cs = some n ↔ cs ≠ [] ∧ (∀ c ∈ cs, isDigit c = true) ∧
      Nat.ofDigits base (cs.map value).reverse = n := by
  have hdigits (ds : List Nat) :
      Digits base cs ds ↔ (∀ c ∈ cs, isDigit c = true) ∧ cs.map value = ds := by
    induction cs generalizing ds with
    | nil =>
      rw [Digits, List.forall₂_nil_left_iff]
      exact ⟨fun h => ⟨by simp, h.symm⟩, fun h => h.2.symm⟩
    | cons c cs ih =>
      cases ds with
      | nil => simp [Digits]
      | cons d ds =>
        rw [Digits, List.forall₂_cons, ← Digits, ih, hdigit]
        simp only [List.forall_mem_cons, List.map_cons, List.cons.injEq]
        tauto
  rw [read?_eq_some_iff]
  refine and_congr_right fun _ => ?_
  constructor
  · rintro ⟨ds, hds, hvalue⟩
    obtain ⟨hall, rfl⟩ := (hdigits ds).mp hds
    exact ⟨hall, hvalue⟩
  · rintro ⟨hall, hvalue⟩
    exact ⟨_, (hdigits _).mpr ⟨hall, rfl⟩, hvalue⟩

/-! ## Decimal digits -/

/-- The decimal digits are the ASCII ones. -/
theorem digit?_ten_eq_some_iff {c : Char} {d : Nat} :
    digit? 10 c = some d ↔ c.isDigit = true ∧ c.toNat - 0x30 = d := by
  rw [Char.isDigit_iff_toNat]
  change _ ↔ (0x30 ≤ c.toNat ∧ c.toNat ≤ 0x39) ∧ _
  rw [digit?, Option.filter_eq_some_iff, decide_eq_true_eq]
  by_cases hdigit : 0x30 ≤ c.toNat ∧ c.toNat ≤ 0x39
  · rw [if_pos hdigit, Option.some.injEq]
    omega
  · rw [if_neg hdigit]
    split
    · rw [Option.some.injEq]
      omega
    · split
      · rw [Option.some.injEq]
        omega
      · simp [hdigit]

/-! ## Hexadecimal digits -/

/-- The sixteen digits in the order of their values. -/
def hexDigits : List Char := "0123456789abcdef".toList

def isHexDigit (c : Char) : Bool := hexDigits.contains c.toLower

/-- The place of a digit among the sixteen. -/
def hexValue (c : Char) : Nat := hexDigits.idxOf c.toLower

/-- A digit that is no capital is the one that is written for its value. -/
theorem eq_digitChar_of_digit? {c : Char} {d : Nat} (h : digit? 16 c = some d)
    (hlower : ¬ (0x41 ≤ c.toNat ∧ c.toNat ≤ 0x5a)) : d < 16 ∧ c = d.digitChar := by
  rw [digit?, Option.filter_eq_some_iff, decide_eq_true_eq] at h
  obtain ⟨hvalue, hd⟩ := h
  have hletter : ∀ d < 16, 10 ≤ d → d.digitChar.toNat = 0x57 + d := by decide
  refine ⟨hd, Char.toNat_inj.mp ?_⟩
  split at hvalue
  · rw [Option.some.injEq] at hvalue
    rw [Nat.toNat_digitChar_of_lt_ten (by omega)]
    omega
  · split at hvalue
    · rw [Option.some.injEq] at hvalue
      rw [hletter d hd (by omega)]
      omega
    · rw [if_neg (by omega)] at hvalue
      cases hvalue

/-- A hexadecimal digit stands for its place among the sixteen. -/
theorem digit?_sixteen_eq_some_iff {c : Char} {d : Nat} :
    digit? 16 c = some d ↔ isHexDigit c = true ∧ hexValue c = d := by
  have hlower : ¬ (0x41 ≤ c.toLower.toNat ∧ c.toLower.toNat ≤ 0x5a) := by
    rw [toNat_toLower]
    split <;> omega
  rw [← digit?_toLower, isHexDigit, hexValue, List.contains_iff_mem]
  generalize c.toLower = l at hlower
  constructor
  · intro h
    obtain ⟨hd, rfl⟩ := eq_digitChar_of_digit? h hlower
    have hplace : ∀ d < 16, d.digitChar ∈ hexDigits ∧ hexDigits.idxOf d.digitChar = d := by decide
    exact hplace d hd
  · rintro ⟨hmem, rfl⟩
    have hread : ∀ l ∈ hexDigits, digit? 16 l = some (hexDigits.idxOf l) := by decide
    exact hread l hmem

theorem isSome_digit?_sixteen {c : Char} (h : isHexDigit c = true) : (digit? 16 c).isSome :=
  Option.isSome_iff_exists.mpr ⟨hexValue c, digit?_sixteen_eq_some_iff.mpr ⟨h, rfl⟩⟩

end Numeral

namespace Word

/-- A number is read as a word where the word is that number. -/
theorem bind_ofNat?_eq_some_iff {n? : Option Nat} {w : Word} :
    n?.bind ofNat? = some w ↔ n? = some w.toNat := by
  simp only [Option.bind_eq_some_iff, ofNat?_eq_some_iff]
  constructor
  · rintro ⟨n, hn, rfl⟩
    exact hn
  · intro h
    exact ⟨_, h, rfl⟩

/-- A text of one decimal digit or more, with a plus sign before them or none, and its value. -/
def IsDecimal (cs : List Char) (w : Word) : Prop :=
  ∃ digits, (cs = digits ∨ cs = '+' :: digits) ∧ digits ≠ [] ∧ (∀ c ∈ digits, c.isDigit = true) ∧
    Nat.ofDigits 10 (digits.map fun c => c.toNat - 0x30).reverse = w.toNat

theorem IsDecimal.ne_nil {cs : List Char} {w : Word} (h : IsDecimal cs w) : cs ≠ [] := by
  obtain ⟨digits, rfl | rfl, hne, -⟩ := h
  · exact hne
  · exact List.cons_ne_nil _ _

/-- The digits of a decimal word are what is left without a plus sign. -/
theorem read?_of_digits {digits : List Char} {w : Word} :
    (Numeral.read? 10 digits).bind ofNat? = some w ↔
      digits ≠ [] ∧ (∀ c ∈ digits, c.isDigit = true) ∧
        Nat.ofDigits 10 (digits.map fun c => c.toNat - 0x30).reverse = w.toNat := by
  rw [bind_ofNat?_eq_some_iff]
  exact Numeral.read?_eq_some_iff_of_digit? fun _ _ => Numeral.digit?_ten_eq_some_iff

/-- A decimal word is read exactly from its spellings. -/
theorem read?_eq_some_iff {cs : List Char} {w : Word} : read? cs = some w ↔ IsDecimal cs w := by
  have hplus (rest : List Char) : ¬ ∀ c ∈ '+' :: rest, c.isDigit = true := by
    intro h
    have := h '+' List.mem_cons_self
    cases this
  by_cases hsign : ∃ rest, cs = '+' :: rest
  · obtain ⟨rest, rfl⟩ := hsign
    rw [read?_plus, read?_of_digits]
    constructor
    · intro h
      exact ⟨rest, .inr rfl, h⟩
    · rintro ⟨digits, hcs | hcs, h⟩
      · exact absurd h.2.1 (hcs ▸ hplus rest)
      · rw [List.cons.injEq] at hcs
        exact hcs.2 ▸ h
  · rw [read?_of_unsigned (not_exists.mp hsign), read?_of_digits]
    constructor
    · intro h
      exact ⟨cs, .inl rfl, h⟩
    · rintro ⟨digits, rfl | rfl, h⟩
      · exact h
      · exact absurd ⟨digits, rfl⟩ hsign

end Word

end Symbolication
