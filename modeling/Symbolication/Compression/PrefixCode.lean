/-! The canonical prefix code of some symbols: shorter codewords come first, and those of one length
stand in the order of their symbols. A code is given by the length of each symbol's codeword, with 0
for a symbol that has none. -/

namespace Symbolication.Compression

structure PrefixCode where
  /-- The number of codewords of 1 bit, of 2 bits and so on. -/
  counts : List Nat
  /-- The symbols in the order of their codewords. -/
  symbols : Array Nat

namespace PrefixCode

def maxLength : Nat := 15

def symbolsOfLength (lengths : List Nat) (length : Nat) : List Nat :=
  lengths.zipIdx.filterMap fun (l, symbol) => if l = length then some symbol else none

/-- The share of all sequences of `maxLength` bits that codewords of these lengths take. -/
def weight (lengths : List Nat) : Nat :=
  ((lengths.filter (· ≠ 0)).map fun l => 1 <<< (maxLength - l)).foldl (· + ·) 0

/-- Every bit sequence starts with one codeword. -/
def isComplete (lengths : List Nat) : Bool := weight lengths = 1 <<< maxLength

/-- Only a code without codewords, or with one of a single bit, may leave sequences without a
codeword. -/
def isUsable (lengths : List Nat) : Bool :=
  match lengths.filter (· ≠ 0) with
  | [] | [1] => true
  | _ => isComplete lengths

def ofLengths (lengths : List Nat) : PrefixCode :=
  let groups := (List.range maxLength).map fun l => symbolsOfLength lengths (l + 1)
  ⟨groups.map List.length, groups.flatten.toArray⟩

end PrefixCode

end Symbolication.Compression
