import Symbolication.Bytes

/-! Bytes become text in two ways: strictly, where one ill-formed part refuses the whole, and
leniently, where each ill-formed part becomes the replacement character. An ill-formed part is a
longest start of a character that the next byte cannot continue, or one byte that starts no
character. -/

namespace Symbolication

namespace Text.Utf8

/-- A character of several bytes whose last `owed` bytes are still to come. The next of them lies
between `low` and `high`. -/
structure Pending where
  owed : Nat
  low : Nat
  high : Nat
  value : Nat

/-- What a byte starts. -/
inductive Lead where
  | whole (c : Char)
  | first (p : Pending)
  | stray

/-- The bytes that start a character, with the limits that keep out overlong forms, surrogates and
values past the last code point. -/
def lead (byte : UInt8) : Lead :=
  let b := byte.toNat
  if b < 0x80 then .whole (Char.ofNat b)
  else if b < 0xc2 then .stray
  else if b < 0xe0 then .first ⟨1, 0x80, 0xbf, b - 0xc0⟩
  else if b = 0xe0 then .first ⟨2, 0xa0, 0xbf, 0⟩
  else if b = 0xed then .first ⟨2, 0x80, 0x9f, 0xd⟩
  else if b < 0xf0 then .first ⟨2, 0x80, 0xbf, b - 0xe0⟩
  else if b = 0xf0 then .first ⟨3, 0x90, 0xbf, 0⟩
  else if b < 0xf4 then .first ⟨3, 0x80, 0xbf, b - 0xf0⟩
  else if b = 0xf4 then .first ⟨3, 0x80, 0x8f, 4⟩
  else .stray

/-- The parts that follow a byte at which a character may start. -/
def start (byte : UInt8) (parts : Option Pending → List (Option Char)) : List (Option Char) :=
  match lead byte with
  | .whole c => some c :: parts none
  | .first p => parts (some p)
  | .stray => none :: parts none

/-- The characters of a byte sequence, with `none` for each ill-formed part. -/
def parts (pending : Option Pending) : Bytes → List (Option Char)
  | [] => if pending.isSome then [none] else []
  | byte :: rest =>
    match pending with
    | none => start byte fun p => parts p rest
    | some p =>
      if p.low ≤ byte.toNat ∧ byte.toNat ≤ p.high then
        let value := p.value * 64 + (byte.toNat - 0x80)
        if p.owed ≤ 1 then some (Char.ofNat value) :: parts none rest
        else parts (some ⟨p.owed - 1, 0x80, 0xbf, value⟩) rest
      else none :: start byte fun p => parts p rest

/-- The text of well-formed bytes. -/
def decode? (bytes : Bytes) : Option String := ((parts none bytes).mapM id).map String.ofList

/-- The text of any bytes. -/
def decodeLossy (bytes : Bytes) : String :=
  String.ofList ((parts none bytes).map (·.getD '\ufffd'))

end Text.Utf8

end Symbolication
