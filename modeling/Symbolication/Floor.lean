import Symbolication.Address

namespace Symbolication.Floor

variable {α : Type}

/-- Where a test turns false between two indices, if it holds below one index and fails from there
on. -/
def bisect (test : Nat → Bool) (low high : Nat) : Nat :=
  if low < high then
    let middle := (low + high) / 2
    if test middle then bisect test (middle + 1) high else bisect test low middle
  else low
termination_by high - low

/-- The entry is at or below the address. -/
def atOrBelow (key : α → Address) (a : Address) (x : α) : Bool := key x ≤ a

/-- The number of entries at or below an address. -/
def rank (key : α → Address) (entries : Array α) (a : Address) : Nat :=
  bisect (fun i => entries[i]?.any (atOrBelow key a)) 0 entries.size

/-- The last entry at or below an address. -/
def floor? (key : α → Address) (entries : Array α) (a : Address) : Option α :=
  match rank key entries a with
  | 0 => none
  | n + 1 => entries[n]?

/-- A test that turns false once turns false where the search ends. -/
theorem bisect_spec {test : Nat → Bool} {low high cut : Nat} (hlow : low ≤ cut) (hhigh : cut ≤ high)
    (h : ∀ i, low ≤ i → i < high → (test i = true ↔ i < cut)) : bisect test low high = cut := by
  fun_induction bisect test low high with
  | case1 low high hlt middle ht ih =>
    have := (h middle (by omega) (by omega)).mp ht
    exact ih (by omega) hhigh fun i hi => h i (by omega)
  | case2 low high hlt middle ht ih =>
    have : ¬ middle < cut := fun hm => ht ((h middle (by omega) (by omega)).mpr hm)
    exact ih hlow (by omega) fun i hi hj => h i hi (by omega)
  | case3 low high hlt => omega

/-- The entries are in ascending order of their addresses. -/
def Ascending (key : α → Address) (entries : List α) : Prop :=
  entries.Pairwise fun x y => key x ≤ key y

/-- The order by which entries are sorted. -/
def before (key : α → Address) (x y : α) : Bool := key x ≤ key y

theorem before_trans (key : α → Address) (x y z : α) (hxy : before key x y = true)
    (hyz : before key y z = true) : before key x z = true := by
  simp only [before, decide_eq_true_eq] at *
  exact UInt64.le_trans hxy hyz

theorem before_total (key : α → Address) (x y : α) :
    (before key x y || before key y x) = true := by
  simp only [before, Bool.or_eq_true, decide_eq_true_eq]
  exact UInt64.le_total _ _

theorem ascending_mergeSort (key : α → Address) (entries : List α) :
    Ascending key (entries.mergeSort (before key)) := by
  have := List.pairwise_mergeSort (before_trans key) (before_total key) entries
  exact this.imp fun h => by simpa [before] using h

/-- Above an address, an ascending list has nothing more at or below it. -/
theorem filter_eq_nil {key : α → Address} {x : α} {xs : List α} {a : Address}
    (h : Ascending key (x :: xs)) (hx : ¬ atOrBelow key a x = true) :
    (x :: xs).filter (atOrBelow key a) = [] := by
  apply List.filter_eq_nil_iff.mpr
  intro y hy hya
  rcases List.mem_cons.mp hy with rfl | hy
  · exact hx hya
  · have hxy := (List.pairwise_cons.mp h).1 y hy
    simp only [atOrBelow, decide_eq_true_eq] at hx hya
    exact hx (UInt64.le_trans hxy hya)

/-- In ascending order, the entries at or below an address are those of the lowest indices. -/
theorem atOrBelow_getElem_iff {key : α → Address} {entries : List α} (h : Ascending key entries)
    (a : Address) (i : Nat) (hi : i < entries.length) :
    atOrBelow key a entries[i] = true ↔ i < (entries.filter (atOrBelow key a)).length := by
  induction entries generalizing i with
  | nil => simp at hi
  | cons x xs ih =>
    by_cases hx : atOrBelow key a x = true
    · cases i with
      | zero => simp [hx]
      | succ i => simpa [hx] using ih (List.pairwise_cons.mp h).2 i (by simpa using hi)
    · rw [filter_eq_nil h hx]
      simpa using List.filter_eq_nil_iff.mp (filter_eq_nil h hx) _ (List.getElem_mem hi)

/-- In ascending order, the entries at or below an address come first. -/
theorem filter_eq_take {key : α → Address} {entries : List α} (h : Ascending key entries)
    (a : Address) :
    entries.filter (atOrBelow key a) =
      entries.take (entries.filter (atOrBelow key a)).length := by
  induction entries with
  | nil => rfl
  | cons x xs ih =>
    by_cases hx : atOrBelow key a x = true
    · simpa [hx] using ih (List.pairwise_cons.mp h).2
    · simp [filter_eq_nil h hx]

theorem rank_eq_length {key : α → Address} {entries : Array α}
    (h : Ascending key entries.toList) (a : Address) :
    rank key entries a = (entries.toList.filter (atOrBelow key a)).length := by
  have hle := List.length_filter_le (atOrBelow key a) entries.toList
  apply bisect_spec (Nat.zero_le _) (by simpa using hle)
  intro i _ hi
  have := atOrBelow_getElem_iff h a i (by simpa using hi)
  rw [Array.getElem_toList] at this
  simpa [hi] using this

/-- The search finds the last of the entries at or below the address. -/
theorem floor?_eq_getLast? {key : α → Address} {entries : Array α}
    (h : Ascending key entries.toList) (a : Address) :
    floor? key entries a = (entries.toList.filter (atOrBelow key a)).getLast? := by
  have hle := List.length_filter_le (atOrBelow key a) entries.toList
  rw [floor?, rank_eq_length h]
  conv => rhs; rw [filter_eq_take h]
  split
  · next h0 => simp [h0]
  · next n hn =>
    rw [hn, List.getLast?_take]
    have : n < entries.toList.length := by omega
    simp_all

/-- What the search finds is an entry at or below the address. -/
theorem of_floor?_eq_some {key : α → Address} {entries : Array α} {a : Address} {x : α}
    (h : Ascending key entries.toList) (hx : floor? key entries a = some x) :
    x ∈ entries.toList ∧ key x ≤ a := by
  rw [floor?_eq_getLast? h] at hx
  simpa [atOrBelow] using List.mem_filter.mp (List.mem_of_getLast? hx)

end Symbolication.Floor
