import Symbolication.LineTable
import Symbolication.Log
import Symbolication.Routine
import Symbolication.SymbolIndex

/-! Where code lies in memory differs from run to run, and the names of routines do not. A runtime
address is taken back to the binary by way of the routine that holds it: the offset into the routine
is added to the value of the symbol of the same name, and the sum is looked up in the line table. -/

namespace Symbolication

/-- Why an address has no source line. A miss is an answer, not a failure. -/
inductive Miss where
  | noRoutine (a : Address)
  | offsetUnderflow (a : Address) (routine : String) (start : Address)
  | unknownSymbol (routine : String)
  | addressOverflow (routine : String) (offset : Word)
  | noLineInfo (a : Address)
  deriving DecidableEq, Repr

def Miss.message : Miss → String
  | .noRoutine a => "no known routine contains " ++ Address.marked a
  | .offsetUnderflow a routine start =>
    Address.marked a ++ " lies before the start " ++ Address.marked start ++ " of routine " ++
      routine
  | .unknownSymbol routine => "routine " ++ routine ++ " is not in the static symbol table"
  | .addressOverflow routine offset =>
    "static address of " ++ routine ++ " + " ++ Address.marked offset ++ " overflows"
  | .noLineInfo a => "no line information at or before " ++ Address.marked a

def LineTable.lookUp (lines : LineTable) (a : Address) : Except Miss Row :=
  match lines.rowAt? a with
  | some row => .ok row
  | none => .error (.noLineInfo a)

/-- A line table, and any way to find a routine by address and a symbol by name. -/
structure Resolver where
  lines : LineTable
  symbolNamed : String → Option Symbol
  routineHolding : Address → Option Routine

namespace Resolver

/-- The static address of a runtime address. The routine found need not start at or below the
address. -/
def rebase (resolver : Resolver) (a : Address) : Noted (Except Miss Address) :=
  match resolver.routineHolding a with
  | none => ⟨.error (.noRoutine a), []⟩
  | some r =>
    match Word.difference? a r.start with
    | none =>
      ⟨.error (.offsetUnderflow a r.name r.start),
        [⟨.warn, "Routine registry placed " ++ Address.marked a ++ " in " ++ r.name ++
          " starting at " ++ Address.marked r.start⟩]⟩
    | some offset =>
      match resolver.symbolNamed r.name with
      | none => ⟨.error (.unknownSymbol r.name), []⟩
      | some s =>
        match Word.sum? s.value offset with
        | none => ⟨.error (.addressOverflow r.name offset), []⟩
        | some address =>
          ⟨.ok address,
            [⟨.trace, Address.marked a ++ " = " ++ r.name ++ "+" ++ Address.marked offset ++
              " -> static " ++ Address.marked address⟩]⟩

def staticOf (resolver : Resolver) (a : Address) : Except Miss Address :=
  (resolver.rebase a).value

def lookUp (resolver : Resolver) (a : Address) : Except Miss Row :=
  resolver.staticOf a >>= resolver.lines.lookUp

def row? (resolver : Resolver) (a : Address) : Option Row := (resolver.lookUp a).toOption

end Resolver

def Resolver.ofTables (lines : LineTable) (symbols : SymbolIndex) (routines : RoutineMap) :
    Resolver :=
  ⟨lines, symbols.named?, routines.holder?⟩

end Symbolication
