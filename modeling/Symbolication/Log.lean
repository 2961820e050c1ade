namespace Symbolication

/-- How much a note matters. -/
inductive Level where
  | trace
  | debug
  | warn
  deriving DecidableEq, Repr

structure Note where
  level : Level
  text : String
  deriving DecidableEq, Repr

/-- A value with the notes made on the way to it. -/
structure Noted (α : Type) where
  value : α
  notes : List Note

namespace Noted

instance : Monad Noted where
  pure a := ⟨a, []⟩
  bind x f := ⟨(f x.value).value, x.notes ++ (f x.value).notes⟩

instance : LawfulMonad Noted := LawfulMonad.mk' Noted
  (by intro α x; cases x; simp [Functor.map])
  (by intro α β x f; simp [bind, pure])
  (by intro α β γ x f g; simp [bind, List.append_assoc])

def note (level : Level) (text : String) : Noted Unit := ⟨(), [⟨level, text⟩]⟩

@[simp] theorem bind_value {α β : Type} (x : Noted α) (f : α → Noted β) :
    (x >>= f).value = (f x.value).value := rfl

end Noted

end Symbolication
