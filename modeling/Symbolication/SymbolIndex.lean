import Std.Data.HashMap
import Symbolication.Address

namespace Symbolication

/-- A name with its place in the binary. -/
structure Symbol where
  name : String
  value : Address
  size : Word
  deriving DecidableEq, Repr

/-- A name without the blanks around it. -/
def trimmedName (name : String) : String := String.ofList (Text.trim name.toList)

theorem trimmedName_trimmedName (name : String) :
    trimmedName (trimmedName name) = trimmedName name := by
  rw [trimmedName, trimmedName, String.toList_ofList, Text.trim_trim]

/-- The symbol has the address in its range, or as its value where the range is empty. -/
def Symbol.holds (s : Symbol) (a : Address) : Bool :=
  (Word.difference? a s.value).any (· < max s.size 1)

/-- The name of a symbol and the offset of an address into it. -/
def Symbol.label (s : Symbol) (a : Address) : String :=
  s.name ++ "+" ++ Address.marked (a - s.value)

/-- Symbols in the order of their table, with the first place of each name. -/
structure SymbolIndex where
  symbols : Array Symbol
  places : Std.HashMap String Nat

namespace SymbolIndex

def empty : SymbolIndex := ⟨#[], ∅⟩

def push (index : SymbolIndex) (s : Symbol) : SymbolIndex :=
  let name := trimmedName s.name
  ⟨index.symbols.push { s with name }, index.places.insertIfNew name index.symbols.size⟩

def ofList (symbols : List Symbol) : SymbolIndex := symbols.foldl push empty

/-- The symbols in the order of their table. -/
def toList (index : SymbolIndex) : List Symbol := index.symbols.toList

def size (index : SymbolIndex) : Nat := index.symbols.size

def isEmpty (index : SymbolIndex) : Bool := index.symbols.isEmpty

/-- The first symbol of a name. -/
def named? (index : SymbolIndex) (name : String) : Option Symbol :=
  index.places[trimmedName name]?.bind (index.symbols[·]?)

/-- The later of two symbols, the first one where they start together. -/
def later (best : Option Symbol) (s : Symbol) : Option Symbol :=
  match best with
  | none => some s
  | some b => if b.value < s.value then some s else some b

/-- The symbol that holds an address: of several the one that starts closest to it, and of those the
first. -/
def holder? (index : SymbolIndex) (a : Address) : Option Symbol :=
  (index.toList.filter (·.holds a)).foldl later none

end SymbolIndex

end Symbolication
