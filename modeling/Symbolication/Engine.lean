import Symbolication.Answer
import Symbolication.Binary

namespace Symbolication

inductive Engine where
  /-- The symbols only serve to label addresses. -/
  | static (lines : LineTable) (symbols : Option SymbolIndex)
  | runtime (tables : RunTables)

namespace Engine

def lookUp : Engine → Address → Except Miss Row
  | static lines _, a => lines.lookUp a
  | runtime tables, a => tables.resolver.lookUp a

/-- The symbol or routine that holds an address, with the offset into it. -/
def label? : Engine → Address → Option String
  | static _ symbols, a => symbols.bind fun index => (index.holder? a).map (·.label a)
  | runtime tables, a => tables.routines.label? a

def answer (engine : Engine) (a : Address) : Answer := ⟨a, engine.label? a, engine.lookUp a⟩

end Engine

end Symbolication
