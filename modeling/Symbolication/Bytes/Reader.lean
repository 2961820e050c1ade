import Symbolication.Bytes

/-! A reader takes a value off the front of some bytes, or finds them malformed. Repetition that the
bytes themselves end is bounded by their length, since every step takes a byte at least. -/

namespace Symbolication

abbrev Reader (α : Type) := StateT Bytes Option α

namespace Reader

def fail {α : Type} : Reader α := fun _ => none

def byte : Reader UInt8
  | [] => none
  | b :: rest => some (b, rest)

def take (length : Nat) : Reader Bytes := fun bytes =>
  let part := bytes.take length
  if part.length = length then some (part, bytes.drop length) else none

def number (order : ByteOrder) (width : Nat) : Reader Nat := order.value <$> take width

theorem take_eq_some_iff {length : Nat} {bytes part rest : Bytes} :
    (take length).run bytes = some (part, rest) ↔ part.length = length ∧ bytes = part ++ rest := by
  change (if (bytes.take length).length = length then some (bytes.take length, bytes.drop length)
    else none) = some (part, rest) ↔ _
  constructor
  · intro h
    split at h
    · next hlength =>
      cases h
      exact ⟨hlength, (List.take_append_drop length bytes).symm⟩
    · cases h
  · rintro ⟨rfl, rfl⟩
    rw [List.take_left, List.drop_left, if_pos rfl]

theorem number_eq_some_iff {order : ByteOrder} {width n : Nat} {bytes rest : Bytes} :
    (number order width).run bytes = some (n, rest) ↔
      ∃ part, part.length = width ∧ order.value part = n ∧ bytes = part ++ rest := by
  rw [number, StateT.run_map, Option.map_eq_map, Option.map_eq_some_iff]
  constructor
  · rintro ⟨⟨part, left⟩, htake, hvalue⟩
    cases hvalue
    obtain ⟨hlength, hbytes⟩ := take_eq_some_iff.mp htake
    exact ⟨part, hlength, rfl, hbytes⟩
  · rintro ⟨part, hlength, rfl, hbytes⟩
    exact ⟨(part, rest), take_eq_some_iff.mpr ⟨hlength, hbytes⟩, rfl⟩

/-- The bytes before the next zero byte, which is taken too. -/
def untilZero : Reader Bytes := fun bytes =>
  match bytes.dropWhile (· ≠ 0) with
  | [] => none
  | _ :: rest => some (bytes.takeWhile (· ≠ 0), rest)

/-- Seven bits of a number, and whether more follow. -/
def septet (b : UInt8) : Nat × Bool := (b.toNat % 128, 128 ≤ b.toNat)

/-- An unsigned number in groups of seven bits, of which `shift` bits have the value `low`. It has
64 bits at most. -/
def unsignedFrom (shift low : Nat) : Bytes → Option (Nat × Bytes)
  | [] => none
  | b :: rest =>
    let (bits, more) := septet b
    if shift = 63 ∧ 1 < b.toNat then none
    else
      let value := low + bits <<< shift
      if more then unsignedFrom (shift + 7) value rest else some (value, rest)

def unsigned : Reader Nat := unsignedFrom 0 0

/-- The number that the lowest 64 bits of another spell in two's complement. -/
def signedWord (n : Nat) : Int := Int.bmod n UInt64.size

/-- A signed number in groups of seven bits, of which `shift` bits have the value `low`. -/
def signedFrom (shift low : Nat) : Bytes → Option (Int × Bytes)
  | [] => none
  | b :: rest =>
    let (bits, more) := septet b
    if shift = 63 ∧ b ≠ 0 ∧ b ≠ 0x7f then none
    else
      let value := low + bits <<< shift
      if more then signedFrom (shift + 7) value rest
      else if shift + 7 < 64 ∧ 64 ≤ bits then some ((value : Int) - (1 <<< (shift + 7) : Nat), rest)
      else some (signedWord value, rest)

/-- A signed number in groups of seven bits, the lowest first and the sign in the last. -/
def signed : Reader Int := signedFrom 0 0

/-- An unsigned number of 16 bits in three groups of seven bits at most. -/
def unsigned16 : Reader Nat := do
  let (low, more) := septet (← byte)
  if !more then return low
  let (middle, more) := septet (← byte)
  let value := low + middle <<< 7
  if !more then return value
  let high := (← byte).toNat
  if 3 < high then fail
  return value + high <<< 14

def times {α : Type} (item : Reader α) : Nat → Reader (List α)
  | 0 => return []
  | n + 1 => do
    let a ← item
    return a :: (← times item n)

/-- The values before the first `none`, of which there are fewer than `bound`. -/
def untilNone {α : Type} (item : Reader (Option α)) : (bound : Nat) → Reader (List α)
  | 0 => fail
  | bound + 1 => do
    match ← item with
    | none => return []
    | some a => return a :: (← untilNone item bound)

def rest : Reader Bytes := get

def left : Reader Nat := do return (← rest).length

/-- Reads a part on its own. What the reader leaves of the part is dropped. -/
def within {α : Type} (part : Bytes) (item : Reader α) : Reader α := StateT.lift (item.run' part)

end Reader

end Symbolication
