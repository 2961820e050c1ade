import Symbolication.Dwarf.Value

namespace Symbolication.Dwarf

/-- The name of an attribute and how its values are written. -/
structure AttributeForm where
  name : Nat
  form : Nat
  /-- The value that all entries share, where the form says so. -/
  implicit : Option Int
  deriving DecidableEq, Repr

/-- The attributes of the entries that start with a code. -/
structure Abbreviation where
  code : Nat
  attributes : List AttributeForm
  deriving DecidableEq, Repr

/-- Reads an attribute, or the end of them, which is a zero for the name and one for the form. -/
def AttributeForm.read : Reader (Option AttributeForm) := do
  let name ← Reader.unsigned16
  let form ← Reader.unsigned16
  if name = 0 ∧ form = 0 then return none
  if name = 0 ∨ form = 0 then Reader.fail
  let implicit ← if form = Form.implicit then some <$> Reader.signed else pure none
  return some ⟨name, form, implicit⟩

def AttributeForm.readValue (e : Encoding) (a : AttributeForm) : Reader Value :=
  match a.implicit with
  | some n => return .signed n
  | none => Form.readInEntry e a.form

namespace Abbreviation

/-- Reads an abbreviation, or the end of the table, which is a zero for the code. -/
def read : Reader (Option Abbreviation) := do
  let code ← Reader.unsigned
  if code = 0 then return none
  let tag ← Reader.unsigned16
  let children ← Reader.byte
  if tag = 0 ∨ 1 < children then Reader.fail
  let attributes ← Reader.untilNone AttributeForm.read ((← Reader.left) + 1)
  return some ⟨code, attributes⟩

/-- Reads a table, in which no code occurs twice. -/
def readTable : Reader (List Abbreviation) := do
  let table ← Reader.untilNone read ((← Reader.left) + 1)
  if ¬(table.map (·.code)).Nodup then Reader.fail
  return table

def readAttributes (e : Encoding) (abbreviation : Abbreviation) : Reader (List (Nat × Value)) :=
  abbreviation.attributes.mapM fun a => return (a.name, ← a.readValue e)

end Abbreviation

end Symbolication.Dwarf
