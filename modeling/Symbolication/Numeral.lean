namespace Symbolication.Numeral

/-- The value of an ASCII digit below `base`. -/
def digit? (base : Nat) (c : Char) : Option Nat :=
  let n := c.toNat
  let value? : Option Nat :=
    if 0x30 ≤ n ∧ n ≤ 0x39 then some (n - 0x30)
    else if 0x61 ≤ n ∧ n ≤ 0x66 then some (n - 0x61 + 10)
    else if 0x41 ≤ n ∧ n ≤ 0x46 then some (n - 0x41 + 10)
    else none
  value?.filter (· < base)

/-- The value of a numeral that continues the value `acc`. -/
def continue? (base acc : Nat) : List Char → Option Nat
  | [] => some acc
  | c :: cs =>
    match digit? base c with
    | none => none
    | some d => continue? base (acc * base + d) cs

/-- The value of one digit or more, and of nothing else. -/
def read? (base : Nat) : List Char → Option Nat
  | [] => none
  | c :: cs => continue? base 0 (c :: cs)

/-- A number in digits, without leading zeros. -/
def write (base n : Nat) : List Char := Nat.toDigits base n

def decimal (n : Nat) : String := String.ofList (write 10 n)

theorem digit?_digitChar {base d : Nat} (hd : d < base) (hb : base ≤ 16) :
    digit? base d.digitChar = some d := by
  have h : d < 16 := by omega
  have key : ∀ d < 16, digit? 16 d.digitChar = some d := by decide
  have hk := key d h
  simp only [digit?, Option.filter_eq_some_iff] at hk ⊢
  exact ⟨hk.1, by simpa using hd⟩

theorem continue?_append {base acc : Nat} (xs ys : List Char) :
    continue? base acc (xs ++ ys) = (continue? base acc xs).bind (continue? base · ys) := by
  induction xs generalizing acc with
  | nil => rfl
  | cons x xs ih =>
    simp only [List.cons_append, continue?]
    cases digit? base x with
    | none => rfl
    | some d => exact ih

theorem continue?_write {base n : Nat} (h1 : 1 < base) (hb : base ≤ 16) :
    continue? base 0 (write base n) = some n := by
  induction n using Nat.strongRecOn with
  | ind n ih =>
    by_cases h : n < base
    · simp [write, Nat.toDigits_of_lt_base h, continue?, digit?_digitChar h hb]
    · have hdiv : n / base < n := Nat.div_lt_self (by omega) h1
      have hmod : n % base < base := Nat.mod_lt _ (by omega)
      rw [write, Nat.toDigits_of_base_le h1 (by omega), continue?_append]
      have := ih _ hdiv
      simp only [write] at this
      simp only [this, Option.bind_some, continue?, digit?_digitChar hmod hb]
      rw [Nat.div_add_mod']

theorem write_ne_nil (base n : Nat) : write base n ≠ [] := Nat.toDigits_ne_nil

/-- What is written reads back. -/
theorem read?_write {base : Nat} (n : Nat) (h1 : 1 < base) (hb : base ≤ 16) :
    read? base (write base n) = some n := by
  have h := continue?_write (n := n) h1 hb
  cases hw : write base n with
  | nil => exact absurd hw (write_ne_nil base n)
  | cons c cs => rw [hw] at h; exact h

theorem write_injective {base m n : Nat} (h1 : 1 < base) (hb : base ≤ 16)
    (h : write base m = write base n) : m = n := by
  have hm := read?_write m h1 hb
  rw [h, read?_write n h1 hb] at hm
  exact (Option.some.inj hm).symm

/-! ## Other spellings -/

/-- A small letter lies 32 places after its capital. -/
theorem toNat_toLower (c : Char) : c.toLower.toNat =
    if 0x41 ≤ c.toNat ∧ c.toNat ≤ 0x5a then c.toNat + 0x20 else c.toNat := by
  have hiff : (c.val ≥ 'A'.val ∧ c.val ≤ 'Z'.val) ↔ (0x41 ≤ c.toNat ∧ c.toNat ≤ 0x5a) := by
    simp only [ge_iff_le, UInt32.le_iff_toNat_le]
    rfl
  by_cases h : c.val ≥ 'A'.val ∧ c.val ≤ 'Z'.val
  · rw [if_pos (hiff.mp h)]
    have hadd : (c.val + ('a'.val - 'A'.val)).toNat = c.toNat + 0x20 := by
      have : ('a'.val - 'A'.val).toNat = 0x20 := rfl
      rw [UInt32.toNat_add, this]
      have := hiff.mp h
      exact Nat.mod_eq_of_lt (by change c.toNat + 0x20 < 2 ^ 32; omega)
    have hlower : c.toLower.val = c.val + ('a'.val - 'A'.val) := congrArg Char.val (dif_pos h)
    rw [Char.toNat, hlower, hadd]
  · rw [if_neg (mt hiff.mpr h)]
    exact congrArg Char.toNat (dif_neg h)

theorem digit?_toLower (base : Nat) (c : Char) : digit? base c.toLower = digit? base c := by
  simp only [digit?, toNat_toLower]
  congr 1
  by_cases h : 0x41 ≤ c.toNat ∧ c.toNat ≤ 0x5a
  · rw [if_pos h]
    by_cases hf : c.toNat ≤ 0x46
    · rw [if_neg (by omega), if_pos (by omega), if_neg (by omega), if_neg (by omega),
        if_pos (by omega)]
      congr 2
    · rw [if_neg (by omega), if_neg (by omega), if_neg (by omega), if_neg (by omega),
        if_neg (by omega), if_neg (by omega)]
  · rw [if_neg h]

theorem continue?_map_toLower (base acc : Nat) (cs : List Char) :
    continue? base acc (cs.map Char.toLower) = continue? base acc cs := by
  induction cs generalizing acc with
  | nil => rfl
  | cons c cs ih =>
    simp only [List.map_cons, continue?, digit?_toLower]
    cases digit? base c with
    | none => rfl
    | some d => exact ih _

/-- The case of its letters makes no difference to a numeral. -/
theorem read?_map_toLower (base : Nat) (cs : List Char) :
    read? base (cs.map Char.toLower) = read? base cs := by
  cases cs with
  | nil => rfl
  | cons c cs => exact continue?_map_toLower base 0 (c :: cs)

theorem continue?_replicate_zero {base : Nat} (h : 0 < base) (zeros : Nat) (cs : List Char) :
    continue? base 0 (List.replicate zeros '0' ++ cs) = continue? base 0 cs := by
  induction zeros with
  | zero => rfl
  | succ zeros ih =>
    have hzero : digit? base '0' = some 0 := by simpa [digit?] using h
    rw [List.replicate_succ, List.cons_append, continue?, hzero]
    simpa using ih

/-- Zeros before it make no difference to a numeral. -/
theorem read?_replicate_zero {base : Nat} (h : 0 < base) (zeros : Nat) {cs : List Char}
    (hcs : cs ≠ []) : read? base (List.replicate zeros '0' ++ cs) = read? base cs := by
  have hread {xs : List Char} (hxs : xs ≠ []) : read? base xs = continue? base 0 xs := by
    cases xs with
    | nil => exact absurd rfl hxs
    | cons => rfl
  rw [hread (by simp [hcs]), hread hcs, continue?_replicate_zero h]

/-- The digits are ASCII characters. -/
theorem toNat_of_digit? {base : Nat} {c : Char} (h : (digit? base c).isSome) :
    0x30 ≤ c.toNat ∧ c.toNat ≤ 0x39 ∨ 0x61 ≤ c.toNat ∧ c.toNat ≤ 0x66 ∨
      0x41 ≤ c.toNat ∧ c.toNat ≤ 0x46 := by
  rw [digit?] at h
  split at h
  · next hnumber => exact .inl hnumber
  · split at h
    · next hsmall => exact .inr (.inl hsmall)
    · split at h
      · next hcapital => exact .inr (.inr hcapital)
      · cases h

/-- A numeral consists of digits. -/
theorem isSome_digit?_of_continue? {base acc n : Nat} {cs : List Char}
    (h : continue? base acc cs = some n) : ∀ c ∈ cs, (digit? base c).isSome := by
  induction cs generalizing acc with
  | nil => simp
  | cons c cs ih =>
    rw [continue?] at h
    cases hd : digit? base c with
    | none => simp [hd] at h
    | some d =>
      simp only [hd] at h
      intro x hx
      rcases List.mem_cons.mp hx with rfl | hx
      · simp [hd]
      · exact ih h x hx

theorem isSome_digit?_of_mem_write {base n : Nat} (h1 : 1 < base) (hb : base ≤ 16) {c : Char}
    (h : c ∈ write base n) : (digit? base c).isSome :=
  isSome_digit?_of_continue? (continue?_write h1 hb) c h

theorem notMem_write {base n : Nat} {c : Char} (h1 : 1 < base) (hb : base ≤ 16)
    (hc : digit? base c = none) : c ∉ write base n := by
  intro h
  have := isSome_digit?_of_mem_write h1 hb h
  simp [hc] at this

end Symbolication.Numeral
