import Mathlib.Data.List.FinRange
import Mathlib.Data.List.Sort
import Symbolication.Proofs.Floors
import Symbolication.RoutineFile

/-! A table forgets in which order entries of different keys came, and nothing else that it keeps.
So it is the one sorted form of all lists that agree at each key. -/

namespace Symbolication

namespace Floor

variable {α : Type} {key : α → Address} {xs ys : List α}

/-- Entries of one key are in ascending order whatever their order is. -/
theorem ascending_filter_key (key : α → Address) (xs : List α) (k : Address) :
    Ascending key (xs.filter fun x => key x = k) := by
  apply List.pairwise_of_forall_mem_list
  intro x hx y hy
  have hxk : key x = k := by simpa using (List.mem_filter.mp hx).2
  have hyk : key y = k := by simpa using (List.mem_filter.mp hy).2
  rw [hxk, hyk]
  exact UInt64.le_refl k

theorem filter_key_mergeSort (key : α → Address) (xs : List α) (k : Address) :
    (xs.mergeSort (before key)).filter (fun x => key x = k) = xs.filter fun x => key x = k :=
  filter_mergeSort (ascending_filter_key key xs k)

/-- The first entry of an ascending list has the least key. -/
theorem key_head_le {x y : α} (h : Ascending key (x :: xs)) (hy : y ∈ x :: xs) :
    key x ≤ key y := by
  rcases List.mem_cons.mp hy with rfl | hy
  · exact UInt64.le_refl _
  · exact (List.pairwise_cons.mp h).1 y hy

/-- The first entry of a list is the first one of its key. -/
theorem filter_key_cons (key : α → Address) (x : α) (xs : List α) :
    (x :: xs).filter (fun y => key y = key x) = x :: xs.filter fun y => key y = key x :=
  List.filter_cons_of_pos (by simp)

theorem filter_key_ne_nil {x : α} (hx : x ∈ xs) : xs.filter (fun y => key y = key x) ≠ [] :=
  List.ne_nil_of_mem (List.mem_filter.mpr ⟨hx, by simp⟩)

/-- An ascending list is known by its entries at each key, in their order. -/
theorem eq_of_filter_eq (hxs : Ascending key xs) (hys : Ascending key ys)
    (h : ∀ k, xs.filter (fun x => key x = k) = ys.filter fun y => key y = k) : xs = ys := by
  induction xs generalizing ys with
  | nil =>
    cases ys with
    | nil => rfl
    | cons y ys => exact absurd (h (key y)).symm (filter_key_ne_nil List.mem_cons_self)
  | cons x xs ih =>
    cases ys with
    | nil => exact absurd (h (key x)) (filter_key_ne_nil List.mem_cons_self)
    | cons y ys =>
      -- Each first entry is in the other list too, so no key is less than either of theirs.
      have hx : x ∈ y :: ys := by
        apply List.mem_of_mem_filter
        rw [← h (key x), filter_key_cons]
        exact List.mem_cons_self
      have hy : y ∈ x :: xs := by
        apply List.mem_of_mem_filter
        rw [h (key y), filter_key_cons]
        exact List.mem_cons_self
      have hkey : key y = key x := UInt64.le_antisymm (key_head_le hys hx) (key_head_le hxs hy)
      have hhead := h (key x)
      rw [filter_key_cons, ← hkey, filter_key_cons] at hhead
      obtain ⟨rfl, -⟩ := List.cons.inj hhead
      rw [ih (List.pairwise_cons.mp hxs).2 (List.pairwise_cons.mp hys).2]
      intro k
      have hk := h k
      by_cases hxk : key x = k
      · rw [List.filter_cons_of_pos (by simpa using hxk),
          List.filter_cons_of_pos (by simpa using hxk)] at hk
        exact (List.cons.inj hk).2
      · rwa [List.filter_cons_of_neg (by simpa using hxk),
          List.filter_cons_of_neg (by simpa using hxk)] at hk

/-- Two lists have one sorted form exactly where each key has the same entries in the same order. -/
theorem mergeSort_eq_iff : xs.mergeSort (before key) = ys.mergeSort (before key) ↔
    ∀ k, xs.filter (fun x => key x = k) = ys.filter fun y => key y = k := by
  constructor
  · intro h k
    rw [← filter_key_mergeSort key xs, h, filter_key_mergeSort]
  · intro h
    apply eq_of_filter_eq (ascending_mergeSort key xs) (ascending_mergeSort key ys)
    intro k
    rw [filter_key_mergeSort, filter_key_mergeSort, h k]

theorem mergeSort_of_ascending (h : Ascending key xs) : xs.mergeSort (before key) = xs := by
  apply List.mergeSort_of_pairwise
  exact h.imp fun hxy => by simpa [before] using hxy

/-! ## Reorderings -/

/-- Where a permutation of places keeps the order of those that pass a test, the places that pass
after it are the same, one after the other. -/
theorem map_symm_filter_finRange {n : Nat} {p : Fin n → Bool} {place : Equiv.Perm (Fin n)}
    (h : ∀ i j, i < j → p i = true → p j = true → place i < place j) :
    ((List.finRange n).filter (p ∘ place.symm)).map place.symm = (List.finRange n).filter p := by
  have hback : ∀ i j, p (place.symm i) = true → p (place.symm j) = true → i < j →
      place.symm i < place.symm j := by
    intro i j hi hj hij
    rcases lt_trichotomy (place.symm i) (place.symm j) with hlt | heq | hgt
    · exact hlt
    · exact absurd (place.symm.injective heq) (ne_of_lt hij)
    · have hji := h _ _ hgt hj hi
      rw [Equiv.apply_symm_apply, Equiv.apply_symm_apply] at hji
      exact absurd hij (lt_asymm hji)
  have hmoved : (((List.finRange n).filter (p ∘ place.symm)).map place.symm).Pairwise (· < ·) := by
    rw [List.pairwise_map]
    apply List.Pairwise.imp_of_mem _ ((List.pairwise_lt_finRange n).filter _)
    intro i j hi hj hij
    exact hback i j (List.mem_filter.mp hi).2 (List.mem_filter.mp hj).2 hij
  have hkept : ((List.finRange n).filter p).Pairwise (· < ·) :=
    (List.pairwise_lt_finRange n).filter _
  apply List.Perm.eq_of_pairwise' hmoved hkept
  rw [List.perm_ext_iff_of_nodup (hmoved.imp ne_of_lt) (hkept.imp ne_of_lt)]
  intro i
  simp only [List.mem_map, List.mem_filter, List.mem_finRange, true_and, Function.comp_apply]
  constructor
  · rintro ⟨j, hj, rfl⟩
    exact hj
  · intro hi
    exact ⟨place i, by simpa using hi, by simp⟩

/-- A reordering that moves entries of one key past none of their own leaves them in their order. -/
theorem filter_ofFn_symm {place : Equiv.Perm (Fin xs.length)}
    (h : ∀ i j, i < j → key (xs.get i) = key (xs.get j) → place i < place j) (k : Address) :
    (List.ofFn fun i => xs.get (place.symm i)).filter (fun x => key x = k) =
      xs.filter fun x => key x = k := by
  have hkeys : ∀ i j, i < j → decide (key (xs.get i) = k) = true →
      decide (key (xs.get j) = k) = true → place i < place j := by
    intro i j hij hi hj
    rw [decide_eq_true_eq] at hi hj
    exact h i j hij (hi.trans hj.symm)
  have hplaces := map_symm_filter_finRange hkeys
  calc (List.ofFn fun i => xs.get (place.symm i)).filter (fun x => key x = k)
      = (((List.finRange xs.length).filter fun i => decide (key (xs.get (place.symm i)) = k)).map
          place.symm).map xs.get := by
        rw [List.ofFn_eq_map, List.filter_map, List.map_map]
        rfl
    _ = ((List.finRange xs.length).filter fun i => decide (key (xs.get i) = k)).map xs.get :=
        congrArg (List.map xs.get) hplaces
    _ = xs.filter fun x => key x = k := by
        conv => rhs; rw [← List.map_get_finRange xs, List.filter_map]
        rfl

end Floor

/-! ## Line tables -/

namespace LineTable

theorem eq_of_toList_eq {table other : LineTable} (h : table.toList = other.toList) :
    table = other := by
  cases table
  cases other
  simpa [toList] using h

/-- Every line table is the table of its own rows. -/
theorem ofRows_toList (table : LineTable) : ofRows table.toList = table := by
  apply eq_of_toList_eq
  rw [toList_ofRows]
  exact Floor.mergeSort_of_ascending table.ascending

end LineTable

/-! ## Routine maps -/

namespace RoutineMap

/-- A map keeps the first routine of each start. -/
theorem find?_toList_ofList (routines : List Routine) (s : Address) :
    (ofList routines).toList.find? (·.start = s) = routines.find? (·.start = s) := by
  rw [toList_ofList, Routine.find?_distinctStarts (fun t => t = s) none (by simp),
    ← List.head?_filter, Floor.filter_key_mergeSort, List.head?_filter]

/-- Where starts do not repeat, a start has one routine or none. -/
theorem filter_start_of_strict {routines : List Routine}
    (h : routines.Pairwise fun r s => r.start < s.start) (s : Address) :
    routines.filter (·.start = s) = (routines.find? (·.start = s)).toList := by
  have hone := h.filter fun r => decide (r.start = s)
  rw [← List.head?_filter]
  cases hsame : routines.filter fun r => decide (r.start = s) with
  | nil => rfl
  | cons r rest =>
    cases rest with
    | nil => rfl
    | cons t rest =>
      have hstart : ∀ u ∈ r :: t :: rest, u.start = s := by
        intro u hu
        rw [← hsame] at hu
        simpa using (List.mem_filter.mp hu).2
      rw [hsame] at hone
      have hlt := (List.pairwise_cons.mp hone).1 t List.mem_cons_self
      rw [hstart r (by simp), hstart t (by simp)] at hlt
      exact absurd hlt (UInt64.lt_irrefl s)

/-- A map is known by the first routine of each start. -/
theorem toList_ofList_eq_iff {routines others : List Routine} :
    (ofList routines).toList = (ofList others).toList ↔
      ∀ s, routines.find? (·.start = s) = others.find? (·.start = s) := by
  constructor
  · intro h s
    rw [← find?_toList_ofList, h, find?_toList_ofList]
  · intro h
    apply Floor.eq_of_filter_eq (ofList routines).ascending (ofList others).ascending
    intro s
    change (ofList routines).toList.filter _ = (ofList others).toList.filter _
    rw [filter_start_of_strict (strict_toList_ofList routines),
      filter_start_of_strict (strict_toList_ofList others), find?_toList_ofList,
      find?_toList_ofList, h s]

/-- A map that was read is that of some routines. -/
theorem exists_ofList_of_read {text source : String} {map : RoutineMap}
    (h : read text source = .ok map) : ∃ routines, map = ofList routines := by
  rw [read] at h
  cases hroutines : RoutineFile.routines source (RoutineFile.filledLines text) with
  | error failure =>
    rw [hroutines] at h
    cases h
  | ok routines =>
    rw [hroutines] at h
    exact ⟨routines, (Except.ok.inj h).symm⟩

end RoutineMap

/-- A line table holds all rows in ascending order. It is the same for two lists of rows exactly
where each address has the same rows in the same order, so no reordering shows that keeps the order
of the rows at each address. A routine map holds one routine for each start, in strictly ascending
order, and is the same for two lists exactly where each start has the same first routine or none.
Either table is the table of what it holds. -/
theorem tables_canonical :
    (∀ rows others : List Row, (LineTable.ofRows rows).toList = (LineTable.ofRows others).toList ↔
      ∀ a, rows.filter (·.address = a) = others.filter (·.address = a)) ∧
    (∀ (rows : List Row) (place : Equiv.Perm (Fin rows.length)),
      (∀ i j, i < j → (rows.get i).address = (rows.get j).address → place i < place j) →
        LineTable.ofRows (List.ofFn fun i => rows.get (place.symm i)) = LineTable.ofRows rows) ∧
    (∀ rows : List Row, Floor.Ascending Row.address (LineTable.ofRows rows).toList ∧
      (LineTable.ofRows rows).toList.Perm rows) ∧
    (∀ table : LineTable, LineTable.ofRows table.toList = table) ∧
    (∀ routines others : List Routine,
      (RoutineMap.ofList routines).toList = (RoutineMap.ofList others).toList ↔
        ∀ s, routines.find? (·.start = s) = others.find? (·.start = s)) ∧
    ∀ map : RoutineMap, ((∃ routines, map = RoutineMap.ofList routines) ∨
        ∃ text source, RoutineMap.read text source = .ok map) →
      (map.toList.Pairwise fun r s => r.start < s.start) ∧ RoutineMap.ofList map.toList = map := by
  refine ⟨fun rows others => ?_, fun rows place hplace => ?_, fun rows => ⟨?_, ?_⟩,
    LineTable.ofRows_toList, fun routines others => RoutineMap.toList_ofList_eq_iff,
    fun map hmap => ?_⟩
  · rw [LineTable.toList_ofRows, LineTable.toList_ofRows]
    exact Floor.mergeSort_eq_iff
  · apply LineTable.eq_of_toList_eq
    rw [LineTable.toList_ofRows, LineTable.toList_ofRows, Floor.mergeSort_eq_iff]
    exact Floor.filter_ofFn_symm hplace
  · exact (LineTable.ofRows rows).ascending
  · rw [LineTable.toList_ofRows]
    exact List.mergeSort_perm rows _
  · have hlist : ∃ routines, map = RoutineMap.ofList routines := by
      rcases hmap with hlist | ⟨text, source, hread⟩
      · exact hlist
      · exact RoutineMap.exists_ofList_of_read hread
    obtain ⟨routines, rfl⟩ := hlist
    exact ⟨RoutineMap.strict_toList_ofList routines, RoutineMap.ofList_toList_ofList routines⟩

/-- A row may go before one of another address, and two rows of one address may not be exchanged. -/
theorem tables_canonical_reordered :
    let first : Row := ⟨"/a", "a.c", 0x20, 1⟩
    let low : Row := ⟨"/a", "a.c", 0x10, 2⟩
    let second : Row := ⟨"/b", "b.h", 0x20, 3⟩
    LineTable.ofRows [low, first, second] = LineTable.ofRows [first, low, second] ∧
      (LineTable.ofRows [second, low, first]).toList ≠
        (LineTable.ofRows [first, low, second]).toList := by
  intro first low second
  obtain ⟨hrows, hreordered, -⟩ := tables_canonical
  constructor
  · exact hreordered [first, low, second] (Equiv.swap (0 : Fin 3) 1) (by decide)
  · intro hsame
    have hfilters := (hrows _ _).mp hsame 0x20
    exact absurd hfilters (by decide)

end Symbolication
