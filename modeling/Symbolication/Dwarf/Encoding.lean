import Symbolication.Bytes.Reader

namespace Symbolication.Dwarf

structure Encoding where
  order : ByteOrder
  /-- Offsets and lengths have 64 bits, not 32. -/
  wide : Bool
  version : Nat
  addressSize : Nat
  deriving DecidableEq, Repr

namespace Encoding

/-- The bytes of an offset or length. -/
def wordSize (e : Encoding) : Nat := if e.wide then 8 else 4

def number (e : Encoding) (width : Nat) : Reader Nat := Reader.number e.order width

def word (e : Encoding) : Reader Nat := e.number e.wordSize

def address (e : Encoding) : Reader Nat := e.number e.addressSize

/-- The greatest address, which as an address stands for none. -/
def lastAddress (e : Encoding) : Nat := (1 <<< (8 * e.addressSize)) - 1

end Encoding

/-- A length and as many bytes, with the size of offsets in them. A length of 32 bits is below
`0xfffffff0`; one of 64 bits follows a mark. -/
def frame (order : ByteOrder) : Reader (Bool × Bytes) := do
  let length ← Reader.number order 4
  if length < 0xfffffff0 then return (false, ← Reader.take length)
  if length ≠ 0xffffffff then Reader.fail
  let length ← Reader.number order 8
  return (true, ← Reader.take length)

/-- The size of addresses, of which four are in use. -/
def addressSize : Reader Nat := do
  let size := (← Reader.byte).toNat
  if size ∉ [1, 2, 4, 8] then Reader.fail
  return size

end Symbolication.Dwarf
