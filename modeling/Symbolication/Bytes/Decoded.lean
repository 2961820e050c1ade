import Symbolication.Bytes.Reader

/-! Items decoded one after the other, to the end or to the first that is malformed. The items
before a malformed one are kept, since what came of them may have been noted already. -/

namespace Symbolication

/-- Items in order, and whether they are all that there are. -/
structure Decoded (α : Type) where
  items : List α
  complete : Bool

namespace Decoded

/-- Joins the parts of some items up to the first part that is not complete. -/
def join {α β : Type} (f : α → Decoded β) (complete : Bool) : List α → Decoded β
  | [] => ⟨[], complete⟩
  | a :: rest =>
    let part := f a
    if part.complete then
      let later := join f complete rest
      ⟨part.items ++ later.items, later.complete⟩
    else part

instance : Monad Decoded where
  pure a := ⟨[a], true⟩
  bind x f := join f x.complete x.items

def ofOption {α : Type} : Option α → Decoded α
  | some a => ⟨[a], true⟩
  | none => ⟨[], false⟩

/-- The items that a reader finds in some bytes, `bound` of them at most. -/
def read {α : Type} (item : Reader α) : (bound : Nat) → Bytes → Decoded α
  | 0, bytes => ⟨[], bytes.isEmpty⟩
  | _ + 1, [] => ⟨[], true⟩
  | bound + 1, bytes =>
    match item bytes with
    | none => ⟨[], false⟩
    | some (a, rest) =>
      let later := read item bound rest
      ⟨a :: later.items, later.complete⟩

/-- The items that a reader finds in some bytes. Every item takes a byte at least. -/
def ofBytes {α : Type} (item : Reader α) (bytes : Bytes) : Decoded α :=
  read item bytes.length bytes

/-- All items, where none is malformed. -/
def all? {α : Type} (x : Decoded α) : Option (List α) := if x.complete then some x.items else none

theorem join_complete_iff {α β : Type} (f : α → Decoded β) (complete : Bool) (items : List α) :
    (join f complete items).complete = true ↔
      complete = true ∧ ∀ a ∈ items, (f a).complete = true := by
  induction items with
  | nil => simp [join]
  | cons a rest ih =>
    by_cases ha : (f a).complete = true
    · simp [join, ha, ih]
    · simp [join, ha]

theorem items_join {α β : Type} (f : α → Decoded β) (complete : Bool) {items : List α}
    (h : ∀ a ∈ items, (f a).complete = true) :
    (join f complete items).items = items.flatMap fun a => (f a).items := by
  induction items with
  | nil => rfl
  | cons a rest ih =>
    have ha := h a List.mem_cons_self
    simp [join, ha, ih fun b hb => h b (List.mem_cons_of_mem a hb)]

/-- A composition is complete exactly if every part is. -/
theorem bind_complete_iff {α β : Type} (x : Decoded α) (f : α → Decoded β) :
    (x >>= f).complete = true ↔ x.complete = true ∧ ∀ a ∈ x.items, (f a).complete = true :=
  join_complete_iff f x.complete x.items

/-- A complete composition has the items of the parts in their order. -/
theorem items_bind {α β : Type} {x : Decoded α} {f : α → Decoded β}
    (h : (x >>= f).complete = true) : (x >>= f).items = x.items.flatMap fun a => (f a).items :=
  items_join f x.complete ((bind_complete_iff x f).mp h).2

theorem ofOption_complete {α : Type} (a : Option α) :
    (ofOption a).complete = a.isSome := by
  cases a <;> rfl

theorem items_ofOption {α : Type} (a : Option α) : (ofOption a).items = a.toList := by
  cases a <;> rfl

end Decoded

end Symbolication
