import Symbolication.Resolver
import Symbolication.Text.Json

namespace Symbolication

/-- An address with what was found for it. -/
structure Answer where
  address : Address
  /-- The routine or symbol that holds the address. -/
  label : Option String
  outcome : Except Miss Row

namespace Row

def json (row : Row) : String := Text.Json.object [
  ("directory", Text.Json.string row.directory),
  ("file_name", Text.Json.string row.fileName),
  ("address", Word.decimal row.address),
  ("line_number", Word.decimal row.line)]

end Row

namespace Answer

def isHit (answer : Answer) : Bool := answer.outcome.isOk

/-- The row, or question marks and line 0 where there is none. -/
def text (answer : Answer) : String :=
  match answer.outcome with
  | .ok row => row.text
  | .error _ => "?? " ++ Word.hex answer.address ++ " 0"

def miss? (answer : Answer) : Option Miss :=
  match answer.outcome with
  | .ok _ => none
  | .error miss => some miss

theorem miss?_eq_some_iff {answer : Answer} {miss : Miss} :
    answer.miss? = some miss ↔ answer.outcome = .error miss := by
  rw [miss?]
  cases answer.outcome <;> simp

/-- All that was found. The label is left out where there is none. -/
def json (answer : Answer) : String := Text.Json.object <|
  [("address", Text.Json.string (Address.marked answer.address))] ++
  (answer.label.map fun label => ("routine", Text.Json.string label)).toList ++
  [("location", Text.Json.orNull (answer.outcome.toOption.map Row.json)),
    ("miss", Text.Json.orNull (answer.miss?.map fun miss => Text.Json.string miss.message))]

def line (asJson : Bool) (answer : Answer) : String :=
  (if asJson then answer.json else answer.text) ++ "\n"

end Answer

end Symbolication
