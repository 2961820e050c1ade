import Symbolication.Compression.Zlib
import Symbolication.Compression.Zstandard
import Symbolication.Elf.ObjectFile

/-! The bytes of a section, plain or compressed. A compressed section starts with a header that
tells the size of its contents, and it is readable only if it gives as many bytes. There are two
such headers: a record of the file's layout under a flag, and a mark with a size under a section
name. Neither needs a place of some alignment. -/

namespace Symbolication.Elf

/-- What starts the compressed form of a section with a name of its own. -/
def compressedName : Bytes := Bytes.ofAscii ".zdebug_"

/-- The mark of such a section. The size follows in four bytes, which the mark's zeros extend. -/
def compressedMark : Bytes := Bytes.ofAscii "ZLIB" ++ [0, 0, 0, 0]

/-- The contents of a zlib stream, which must have the size that was announced. -/
def inflate? (bytes : Bytes) (size : Nat) : Option Bytes :=
  (Compression.Zlib.inflate? bytes size).filter (·.length = size)

def expand? (method : Nat) (bytes : Bytes) (size : Nat) : Option Bytes :=
  if method = methodZlib then inflate? bytes size
  else if method = methodZstandard then
    (Compression.Zstandard.expand? bytes).filter (·.length = size)
  else none

def SectionHeader.stored? (bytes : Bytes) (header : SectionHeader) : Option Bytes :=
  if header.kind = kindNoBits then some [] else bytes.slice? header.offset header.size

def Layout.compressed? (layout : Layout) (stored : Bytes) : Option Bytes := do
  let ((method, size), data) ← layout.compression.run stored
  expand? method data size

def marked? (stored : Bytes) : Option Bytes := do
  let ((mark, size), data) ← (do
    let mark ← Reader.take compressedMark.length
    let size ← Reader.number .big 4
    return (mark, size) : Reader (Bytes × Nat)).run stored
  guard (mark = compressedMark)
  inflate? data size

def ObjectFile.contents? (file : ObjectFile) (s : Section) : Option Bytes := do
  let stored ← s.header.stored? file.bytes
  if s.header.flags.testBit flagCompressed then
    guard (s.header.kind ≠ kindNoBits)
    file.layout.compressed? stored
  else if s.name.any (compressedName.isPrefixOf ·) then
    guard (s.header.kind ≠ kindNoBits)
    marked? stored
  else return stored

/-- The contents of a section of debug information, nothing where there is no such section. -/
def ObjectFile.debugContents? (file : ObjectFile) (name : String) : Option Bytes :=
  match file.debugSection? name with
  | some s => file.contents? s
  | none => some []

end Symbolication.Elf
