import Symbolication.Text.Utf8

namespace Symbolication.Text.Utf8

def encode (text : String) : Bytes := text.toUTF8.data.toList

theorem encode_ofList (cs : List Char) :
    encode (String.ofList cs) = cs.flatMap String.utf8EncodeChar := by
  simp [encode, String.toByteArray_ofList, List.utf8Encode]

/-! ## First bytes -/

/-- What the first byte of a character says about the others: how many they are, between what the
next one lies, and what the value of the character starts with. -/
structure Starts (first owed next value : Nat) (p : Pending) : Prop where
  lead : Utf8.lead (UInt8.ofNat first) = .first p
  owed : p.owed = owed
  low : p.low ≤ next
  high : next ≤ p.high
  value : p.value = value

theorem toNat_ofNat_of_lt {n : Nat} (h : n < 0x100) : (UInt8.ofNat n).toNat = n := by
  rw [UInt8.toNat_ofNat']
  exact Nat.mod_eq_of_lt h

theorem exists_starts_two {n : Nat} (hlow : 0x80 ≤ n) (hhigh : n ≤ 0x7ff) :
    ∃ p, Starts (n / 64 % 32 + 192) 1 (n % 64 + 128) (n / 64) p := by
  have hfirst := @toNat_ofNat_of_lt (n / 64 % 32 + 192) (by omega)
  refine ⟨_, by simp (disch := omega) only [lead, hfirst, if_pos, if_neg]; rfl, rfl, ?_, ?_, ?_⟩ <;>
    simp only <;> omega

theorem exists_starts_three {n : Nat} (hlow : 0x800 ≤ n) (hhigh : n ≤ 0xffff)
    (hvalid : n < 0xd800 ∨ 0xdfff < n) :
    ∃ p, Starts (n / 4096 % 16 + 224) 2 (n / 64 % 64 + 128) (n / 4096) p := by
  have hfirst := @toNat_ofNat_of_lt (n / 4096 % 16 + 224) (by omega)
  -- The least first byte leaves out what two bytes can say, and 0xed leaves out the surrogates.
  obtain h | h | h : n / 4096 = 0 ∨ n / 4096 = 0xd ∨ n / 4096 ≠ 0 ∧ n / 4096 ≠ 0xd := by omega
  all_goals
    refine ⟨_, by simp (disch := omega) only [lead, hfirst, if_pos, if_neg]; rfl, rfl, ?_, ?_, ?_⟩
      <;> simp only <;> omega

theorem exists_starts_four {n : Nat} (hlow : 0x10000 ≤ n) (hhigh : n < 0x110000) :
    ∃ p, Starts (n / 262144 % 8 + 240) 3 (n / 4096 % 64 + 128) (n / 262144) p := by
  have hfirst := @toNat_ofNat_of_lt (n / 262144 % 8 + 240) (by omega)
  -- Likewise for three bytes, and 0xf4 leaves out what lies past the last code point.
  obtain h | h | h : n / 262144 = 0 ∨ n / 262144 = 4 ∨ n / 262144 ≠ 0 ∧ n / 262144 < 4 := by omega
  all_goals
    refine ⟨_, by simp (disch := omega) only [lead, hfirst, if_pos, if_neg]; rfl, rfl, ?_, ?_, ?_⟩
      <;> simp only <;> omega

/-! ## Characters -/

section Reading

variable {p : Pending} {n first owed next value : Nat} (rest : Bytes)

theorem parts_first (h : Starts first owed next value p) :
    parts none (UInt8.ofNat first :: rest) = parts (some p) rest := by
  simp [parts, start, h.lead]

theorem parts_more (owed : Nat) (howed : p.owed = owed + 2) (hlow : p.low ≤ next)
    (hhigh : next ≤ p.high) (hbyte : next < 0x100) :
    parts (some p) (UInt8.ofNat next :: rest) =
      parts (some ⟨owed + 1, 0x80, 0xbf, p.value * 64 + (next - 0x80)⟩) rest := by
  simp [parts, toNat_ofNat_of_lt hbyte, howed, hlow, hhigh]

theorem parts_last (howed : p.owed = 1) (hlow : p.low ≤ next) (hhigh : next ≤ p.high)
    (hbyte : next < 0x100) (hvalue : p.value * 64 + (next - 0x80) = n) :
    parts (some p) (UInt8.ofNat next :: rest) = some (Char.ofNat n) :: parts none rest := by
  simp [parts, toNat_ofNat_of_lt hbyte, howed, hlow, hhigh, hvalue]

theorem parts_one (h : n ≤ 0x7f) :
    parts none (UInt8.ofNat n :: rest) = some (Char.ofNat n) :: parts none rest := by
  have hlead : lead (UInt8.ofNat n) = .whole (Char.ofNat n) := by
    rw [lead, toNat_ofNat_of_lt (by omega), if_pos (by omega)]
  simp only [parts, start, hlead]

theorem parts_two (hlow : 0x80 ≤ n) (hhigh : n ≤ 0x7ff) :
    parts none (UInt8.ofNat (n / 64 % 32 + 192) :: UInt8.ofNat (n % 64 + 128) :: rest) =
      some (Char.ofNat n) :: parts none rest := by
  obtain ⟨p, hp⟩ := exists_starts_two hlow hhigh
  rw [parts_first _ hp]
  exact parts_last rest hp.owed hp.low hp.high (by omega) (by rw [hp.value]; omega)

theorem parts_three (hlow : 0x800 ≤ n) (hhigh : n ≤ 0xffff) (hvalid : n < 0xd800 ∨ 0xdfff < n) :
    parts none (UInt8.ofNat (n / 4096 % 16 + 224) :: UInt8.ofNat (n / 64 % 64 + 128) ::
        UInt8.ofNat (n % 64 + 128) :: rest) =
      some (Char.ofNat n) :: parts none rest := by
  obtain ⟨p, hp⟩ := exists_starts_three hlow hhigh hvalid
  rw [parts_first _ hp, parts_more _ 0 hp.owed hp.low hp.high (by omega), hp.value]
  exact parts_last rest rfl (by simp) (by simp only; omega) (by omega) (by simp only; omega)

theorem parts_four (hlow : 0x10000 ≤ n) (hhigh : n < 0x110000) :
    parts none (UInt8.ofNat (n / 262144 % 8 + 240) :: UInt8.ofNat (n / 4096 % 64 + 128) ::
        UInt8.ofNat (n / 64 % 64 + 128) :: UInt8.ofNat (n % 64 + 128) :: rest) =
      some (Char.ofNat n) :: parts none rest := by
  obtain ⟨p, hp⟩ := exists_starts_four hlow hhigh
  rw [parts_first _ hp, parts_more _ 1 hp.owed hp.low hp.high (by omega), hp.value,
    parts_more _ 0 rfl (by simp) (by simp only; omega) (by omega)]
  exact parts_last rest rfl (by simp) (by simp only; omega) (by omega) (by simp only; omega)

/-- A character is read from its own bytes. -/
theorem parts_utf8EncodeChar (c : Char) :
    parts none (String.utf8EncodeChar c ++ rest) = some c :: parts none rest := by
  have hvalid : c.val.toNat < 0xd800 ∨ 0xdfff < c.val.toNat ∧ c.val.toNat < 0x110000 := c.valid
  have hc : Char.ofNat c.val.toNat = c := Char.ofNat_toNat c
  rw [String.utf8EncodeChar.eq_1]
  by_cases hone : c.val.toNat ≤ 0x7f
  · rw [if_pos hone]
    exact (parts_one rest hone).trans (by rw [hc])
  rw [if_neg hone]
  by_cases htwo : c.val.toNat ≤ 0x7ff
  · rw [if_pos htwo]
    exact (parts_two rest (by omega) htwo).trans (by rw [hc])
  rw [if_neg htwo]
  by_cases hthree : c.val.toNat ≤ 0xffff
  · rw [if_pos hthree]
    exact (parts_three rest (by omega) hthree (by omega)).trans (by rw [hc])
  · rw [if_neg hthree]
    exact (parts_four rest (by omega) (by omega)).trans (by rw [hc])

end Reading

/-! ## Texts -/

theorem parts_encode (cs : List Char) :
    parts none (encode (String.ofList cs)) = cs.map some := by
  rw [encode_ofList]
  induction cs with
  | nil => rfl
  | cons c cs ih => rw [List.flatMap_cons, parts_utf8EncodeChar, ih, List.map_cons]

theorem decode?_encode (cs : List Char) :
    decode? (encode (String.ofList cs)) = some (String.ofList cs) := by
  have hall : (cs.map some).mapM id = some cs := by
    induction cs with
    | nil => rfl
    | cons c cs ih => simp [List.mapM_cons, ih]
  rw [decode?, parts_encode, hall, Option.map_some]

/-- Only a character of one byte has a byte below `0x80`. -/
theorem toNat_of_mem_utf8EncodeChar {c : Char} {byte : UInt8}
    (h : byte ∈ String.utf8EncodeChar c) : byte.toNat = c.toNat ∨ 0x80 ≤ byte.toNat := by
  change _ = c.val.toNat ∨ _
  rw [String.utf8EncodeChar.eq_1] at h
  repeat' split at h
  all_goals
    simp only [List.mem_cons, List.not_mem_nil, or_false, ← UInt8.toNat_inj, UInt8.toNat_ofNat'] at h
    omega

theorem notMem_encode {cs : List Char} (h : '\n' ∉ cs) : 0x0a ∉ encode (String.ofList cs) := by
  rw [encode_ofList, List.mem_flatMap]
  rintro ⟨c, hc, hbyte⟩
  obtain heq | hlow := toNat_of_mem_utf8EncodeChar hbyte
  · have hfeed : Char.ofNat c.toNat = '\n' := by rw [← heq]; rfl
    rw [Char.ofNat_toNat] at hfeed
    exact h (hfeed ▸ hc)
  · exact absurd hlow (by decide)

theorem encode_intercalate (lines : List (List Char)) :
    encode (String.ofList (['\n'].intercalate lines)) =
      [0x0a].intercalate (lines.map fun line => encode (String.ofList line)) := by
  have hfeed : String.utf8EncodeChar '\n' = [0x0a] := rfl
  simp only [encode_ofList]
  induction lines with
  | nil => rfl
  | cons line lines ih =>
    cases lines with
    | nil => simp
    | cons next lines =>
      rw [List.intercalate_cons_cons, List.flatMap_append, List.flatMap_append, ih]
      simp [List.intercalate_cons_cons, hfeed]

/-- The lines of a text are those of its bytes. -/
theorem splitOn_encode {lines : List (List Char)} (hlines : ∀ line ∈ lines, '\n' ∉ line)
    (hne : lines ≠ []) :
    (encode (String.ofList (['\n'].intercalate lines))).splitOn 0x0a =
      lines.map fun line => encode (String.ofList line) := by
  have hbytes : ∀ bytes ∈ lines.map fun line => encode (String.ofList line), 0x0a ∉ bytes := by
    intro bytes hmem
    obtain ⟨line, hline, rfl⟩ := List.mem_map.mp hmem
    exact notMem_encode (hlines line hline)
  rw [encode_intercalate, List.splitOn_intercalate 0x0a hbytes (by simpa using hne)]

end Symbolication.Text.Utf8
