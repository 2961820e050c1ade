import Symbolication.Bytes.Reader

/-! Finite state entropy: a symbol is a state of a table, and the bits that follow tell the state
that comes next. A table is described by the number of states that each symbol has. The description
is read from its start, what is coded by it from its end. -/

namespace Symbolication.Compression

abbrev BitReader (α : Type) := StateT (List Bool) Option α

namespace BitReader

/-- The bits of some bytes, the lowest bit of a byte first. -/
def ofBytes (bytes : Bytes) : List Bool :=
  bytes.flatMap fun b => (List.range 8).map b.toNat.testBit

/-- The bits of a stream that is read from its end. The first bit that is set ends the padding, and
the last byte has one. -/
def backward? (bytes : Bytes) : Option (List Bool) :=
  if bytes.getLastD 0 = 0 then none
  else some ((ofBytes bytes).reverse.dropWhile (!·)).tail

def fail {α : Type} : BitReader α := fun _ => none

def bit : BitReader Bool
  | [] => none
  | b :: rest => some (b, rest)

/-- A number of so many bits, the lowest first. -/
def low : Nat → BitReader Nat
  | 0 => return 0
  | width + 1 => do
    let b ← bit
    return b.toNat + 2 * (← low width)

/-- A number of so many bits, the highest first. The bits before them spell `n`. -/
def highFrom (n : Nat) : Nat → BitReader Nat
  | 0 => return n
  | width + 1 => do highFrom (2 * n + (← bit).toNat) width

def high : Nat → BitReader Nat := highFrom 0

end BitReader

/-- A state of an entropy table. As many bits as `width` tells lead to the states from `base` on. -/
structure EntropyState where
  symbol : Nat
  width : Nat
  base : Nat
  deriving DecidableEq, Repr

/-- A table of `2 ^ accuracy` states. -/
structure EntropyTable where
  accuracy : Nat
  states : Array EntropyState

namespace EntropyTable

/-! ## States -/

/-- The symbols of the states. Rare symbols have the last states, in reverse. The others are spread
over the states before, in steps that reach each of them. -/
def symbols (accuracy : Nat) (shares : List Int) : List Nat :=
  let size := 1 <<< accuracy
  let rare := shares.zipIdx.filterMap fun (n, symbol) => if n = -1 then some symbol else none
  let common := shares.zipIdx.flatMap fun (n, symbol) => List.replicate n.toNat symbol
  let spread := size - rare.length
  let places := (List.range size).map (· * (size / 2 + size / 8 + 3) % size)
  let placed := ((places.filter (· < spread)).zip common).foldl
    (fun states (place, symbol) => states.setIfInBounds place symbol) (Array.replicate spread 0)
  placed.toList ++ rare.reverse

/-- The states of some symbols in their order. The states of one symbol are counted from the number
of them on, and the count tells the width. -/
def statesFrom (accuracy : Nat) (counts : Array Nat) : List Nat → List EntropyState
  | [] => []
  | symbol :: rest =>
    let count := counts[symbol]?.getD 1
    let width := accuracy - count.log2
    ⟨symbol, width, count <<< width - 1 <<< accuracy⟩ ::
      statesFrom accuracy (counts.setIfInBounds symbol (count + 1)) rest

/-- The table in which each symbol has its share of the states: so many, or -1 for a rare symbol,
which has one. -/
def ofShares (accuracy : Nat) (shares : List Int) : EntropyTable :=
  ⟨accuracy,
    (statesFrom accuracy (shares.map Int.natAbs).toArray (symbols accuracy shares)).toArray⟩

/-- The table of one symbol, which takes no bits. -/
def constant (symbol : Nat) : EntropyTable := ⟨0, #[⟨symbol, 0, 0⟩]⟩

/-! ## Descriptions -/

/-- The next share where `left` states are left. It has one of `left + 2` values, and the lowest of
them take a bit less than the others. -/
def share (left : Nat) : BitReader Int := do
  let width := (left + 1).log2
  let spare := 2 <<< width - (left + 2)
  let short ← BitReader.low width
  if short < spare then return short - 1
  if ← BitReader.bit then return (short + 1 <<< width - spare : Nat) - 1
  return short - 1

/-- How many more symbols have no states. -/
def zeros : (bound : Nat) → BitReader Nat
  | 0 => BitReader.fail
  | bound + 1 => do
    let n ← BitReader.low 2
    if n < 3 then return n
    return 3 + (← zeros bound)

/-- The shares until no states are left. There are fewer of them than `bound`. -/
def sharesOf (left : Nat) : (bound : Nat) → BitReader (List Int)
  | 0 => BitReader.fail
  | bound + 1 => do
    if left = 0 then return []
    let n ← share left
    let run ← if n = 0 then zeros bound else pure 0
    return n :: List.replicate run 0 ++ (← sharesOf (left - n.natAbs) bound)

/-- Reads the description of a table for so many symbols, with `2 ^ maxAccuracy` states at most. The
rest of its last byte is left out. -/
def read (symbolCount maxAccuracy : Nat) : Reader EntropyTable := fun bytes => do
  let bits := BitReader.ofBytes bytes
  let (low, bits) ← (BitReader.low 4).run bits
  let accuracy := low + 5
  let (shares, bits) ← (sharesOf (1 <<< accuracy) (symbolCount + 1)).run bits
  if maxAccuracy < accuracy ∨ symbolCount < shares.length then none
  else some (ofShares accuracy shares, bytes.drop (bytes.length - bits.length / 8))

/-! ## Coded symbols -/

def state (table : EntropyTable) (index : Nat) : BitReader EntropyState :=
  StateT.lift table.states[index]?

def start (table : EntropyTable) : BitReader EntropyState := do
  table.state (← BitReader.high table.accuracy)

def next (table : EntropyTable) (s : EntropyState) : BitReader EntropyState := do
  table.state (s.base + (← BitReader.high s.width))

end EntropyTable

end Symbolication.Compression
