import Symbolication.Failure
import Symbolication.LineDump
import Symbolication.RoutineFile
import Symbolication.Text.Utf8

namespace Symbolication

/-- What a path leads to. -/
inductive Entry where
  | file (content : Bytes)
  | directory
  /-- A file that may not be read. -/
  | locked
  | unreachable (fault : ReadFault)

/-- What each path leads to. -/
abbrev Files := String → Entry

def Files.read (files : Files) (path : String) : Except ReadFault Bytes :=
  match files path with
  | .file content => .ok content
  | .directory => .error .isDirectory
  | .locked => .error .denied
  | .unreachable fault => .error fault

def Files.readText (files : Files) (path : String) : Except ReadFault String := do
  match Text.Utf8.decode? (← files.read path) with
  | some text => .ok text
  | none => .error .notUtf8

theorem mapError_eq_ok_iff {ε ε' α : Type} {f : ε → ε'} {result : Except ε α} {a : α} :
    result.mapError f = .ok a ↔ result = .ok a := by
  cases result with
  | error failure => constructor <;> intro h <;> cases h
  | ok value =>
    change Except.ok value = .ok a ↔ _
    rw [Except.ok.injEq, Except.ok.injEq]

namespace Loading

/-- A step that makes no notes. -/
def ofExcept {α : Type} (result : Except Failure α) : Loading α := ExceptT.mk (pure result)

def note (level : Level) (text : String) : Loading Unit := ExceptT.lift (Noted.note level text)

/-- A step that cannot fail. -/
def ofNoted {α : Type} (x : Noted α) : Loading α := ExceptT.lift x

def content (files : Files) (path : String) : Loading Bytes :=
  ofExcept ((files.read path).mapError (.unreadable path))

def text (files : Files) (path : String) : Loading String :=
  ofExcept ((files.readText path).mapError (.unreadable path))

/-- The table, without the notes. -/
def result {α : Type} (x : Loading α) : Except Failure α := x.run.value

@[simp] theorem result_pure {α : Type} (a : α) : (pure a : Loading α).result = .ok a := rfl

@[simp] theorem result_ofExcept {α : Type} (result : Except Failure α) :
    (ofExcept result).result = result := rfl

@[simp] theorem result_bind {α β : Type} (x : Loading α) (f : α → Loading β) :
    (x >>= f).result = x.result >>= fun a => (f a).result := by
  change (x.run >>= _).value = _
  rw [Noted.bind_value, result]
  cases x.run.value <;> rfl

/-- Only a file has a content. -/
theorem result_content_eq_ok_iff {files : Files} {path : String} {bytes : Bytes} :
    (content files path).result = .ok bytes ↔ files path = .file bytes := by
  rw [content, result_ofExcept, mapError_eq_ok_iff, Files.read]
  cases files path <;> simp

theorem content_of_file {files : Files} {path : String} {bytes : Bytes}
    (h : files path = .file bytes) : content files path = pure bytes := by
  rw [content, Files.read, h]
  rfl

/-- There is a table in the end if there is one after each step. -/
theorem result_bind_eq_ok_iff {α β : Type} {x : Loading α} {f : α → Loading β} {b : β} :
    (x >>= f).result = .ok b ↔ ∃ a, x.result = .ok a ∧ (f a).result = .ok b := by
  rw [result_bind]
  cases x.result <;> simp [bind, Except.bind]

theorem result_map_eq_ok_iff {α β : Type} {f : α → β} {x : Loading α} {b : β} :
    (f <$> x).result = .ok b ↔ ∃ a, x.result = .ok a ∧ f a = b := by
  simp only [map_eq_pure_bind, result_bind_eq_ok_iff, result_pure, Except.ok.injEq]

end Loading

def LineTable.ofDumpFile (files : Files) (path : String) : Loading LineTable := do
  let text ← Loading.text files path
  let table ← Loading.ofNoted (LineTable.ofDump text)
  Loading.note .debug
    ("Loaded " ++ Numeral.decimal table.size ++ " line table rows from dump " ++ path)
  return table

def RoutineMap.ofFile (files : Files) (path : String) : Loading RoutineMap := do
  let text ← Loading.text files path
  let routines ← Loading.ofExcept (RoutineMap.read text path)
  Loading.note .debug ("Loaded " ++ Numeral.decimal routines.size ++ " routines from " ++ path)
  return routines

end Symbolication
