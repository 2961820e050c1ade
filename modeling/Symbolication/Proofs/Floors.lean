import Mathlib.Data.List.Basic
import Symbolication.LineTable
import Symbolication.Routine

namespace Symbolication

namespace Floor

variable {α : Type} {key : α → Address}

/-- A key at or below the address, and no smaller than any other such key. -/
def isGreatest (keys : List Address) (a k : Address) : Bool :=
  k ≤ a && keys.all fun l => l ≤ a → l ≤ k

/-- The entries with the greatest key at or below an address. -/
def floors (key : α → Address) (xs : List α) (a : Address) : List α :=
  xs.filter fun x => isGreatest (xs.map key) a (key x)

theorem isGreatest_iff {keys : List Address} {a k : Address} :
    isGreatest keys a k = true ↔ k ≤ a ∧ ∀ l ∈ keys, l ≤ a → l ≤ k := by
  simp only [isGreatest, Bool.and_eq_true, decide_eq_true_eq, List.all_eq_true]

theorem isGreatest_congr {keys keys' : List Address} (h : ∀ k, k ∈ keys ↔ k ∈ keys') :
    isGreatest keys = isGreatest keys' := by
  funext a k
  rw [Bool.eq_iff_iff, isGreatest_iff, isGreatest_iff]
  simp only [h]

theorem mem_floors_iff {xs : List α} {a : Address} {x : α} :
    x ∈ floors key xs a ↔ x ∈ xs ∧ key x ≤ a ∧ ∀ y ∈ xs, key y ≤ a → key y ≤ key x := by
  simp [floors, isGreatest_iff]

/-- All floors have one key. -/
theorem key_eq_of_mem_floors {xs : List α} {a : Address} {x y : α} (hx : x ∈ floors key xs a)
    (hy : y ∈ floors key xs a) : key x = key y := by
  rw [mem_floors_iff] at hx hy
  exact UInt64.le_antisymm (hy.2.2 x hx.1 hx.2.1) (hx.2.2 y hy.1 hy.2.1)

/-- A stable sort keeps the order of entries that it may leave in place. -/
theorem filter_mergeSort {xs : List α} {p : α → Bool} (h : Ascending key (xs.filter p)) :
    (xs.mergeSort (before key)).filter p = xs.filter p := by
  have hpair : (xs.filter p).Pairwise fun x y => before key x y = true :=
    h.imp fun hxy => by simpa [before] using hxy
  have hsorted : (xs.filter p).Sublist (xs.mergeSort (before key)) :=
    List.sublist_mergeSort (before_trans key) (before_total key) hpair List.filter_sublist
  have hsub : (xs.filter p).Sublist ((xs.mergeSort (before key)).filter p) := by
    simpa using hsorted.filter p
  -- The sorted list has as many of these entries, so the sublist is all of them.
  have hlen := ((List.mergeSort_perm xs (before key)).filter p).length_eq
  exact (hsub.eq_of_length hlen.symm).symm

theorem floors_mergeSort (xs : List α) (a : Address) :
    floors key (xs.mergeSort (before key)) a = floors key xs a := by
  have hkeys : isGreatest ((xs.mergeSort (before key)).map key) = isGreatest (xs.map key) :=
    isGreatest_congr fun k => by simp
  rw [floors, hkeys]
  apply filter_mergeSort
  apply List.pairwise_iff_forall_sublist.mpr
  intro x y hxy
  have hx : x ∈ floors key xs a := hxy.subset (by simp)
  have hy : y ∈ floors key xs a := hxy.subset (by simp)
  exact key_eq_of_mem_floors hx hy ▸ UInt64.le_refl _

/-- In ascending order the last entry at or below the address has the greatest key of them. -/
theorem isGreatest_of_filter_eq {xs low : List α} {x : α} {a : Address} (h : Ascending key xs)
    (hlow : xs.filter (atOrBelow key a) = low ++ [x]) :
    isGreatest (xs.map key) a (key x) = true := by
  have hmem (y : α) : y ∈ low ++ [x] ↔ y ∈ xs ∧ key y ≤ a := by
    rw [← hlow, List.mem_filter, atOrBelow, decide_eq_true_eq]
  have hasc : Ascending key (low ++ [x]) := hlow ▸ List.Pairwise.filter _ h
  simp only [isGreatest_iff, List.forall_mem_map]
  refine ⟨((hmem x).mp (by simp)).2, fun y hy hya => ?_⟩
  rcases List.mem_append.mp ((hmem y).mpr ⟨hy, hya⟩) with hy | hy
  · exact (List.pairwise_append.mp hasc).2.2 y hy x (by simp)
  · exact List.mem_singleton.mp hy ▸ UInt64.le_refl _

/-- In ascending order the last floor is the last entry at or below the address. -/
theorem getLast?_floors {xs : List α} (h : Ascending key xs) (a : Address) :
    (floors key xs a).getLast? = (xs.filter (atOrBelow key a)).getLast? := by
  have hfloors : floors key xs a =
      (xs.filter (atOrBelow key a)).filter fun x => isGreatest (xs.map key) a (key x) := by
    rw [List.filter_filter, floors]
    apply List.filter_congr
    intro x _
    rw [Bool.eq_iff_iff, Bool.and_eq_true, isGreatest_iff, atOrBelow, decide_eq_true_eq]
    tauto
  rw [hfloors]
  rcases List.eq_nil_or_concat' (xs.filter (atOrBelow key a)) with hnil | ⟨low, x, hlow⟩
  · simp [hnil]
  · simp [hlow, isGreatest_of_filter_eq h hlow]

end Floor

namespace LineTable

/-- A look-up by search gives the row that came last among those with the greatest address at or
below the query. -/
theorem rowAt?_ofRows (rows : List Row) (a : Address) :
    (ofRows rows).rowAt? a = (Floor.floors Row.address rows a).getLast? := by
  rw [← Floor.floors_mergeSort, Floor.getLast?_floors (Floor.ascending_mergeSort _ rows),
    rowAt?, Floor.floor?_eq_getLast? (ofRows rows).ascending]
  simp [ofRows]

end LineTable

namespace Routine

/-- A test on starts finds the same routine, unless it holds of the start that was kept last. -/
theorem find?_distinctStarts (p : Address → Bool) (last : Option Address)
    (hlast : ∀ s ∈ last, p s = false) (routines : List Routine) :
    (distinctStarts last routines).find? (p ·.start) = routines.find? (p ·.start) := by
  induction routines generalizing last with
  | nil => rfl
  | cons r rest ih =>
    unfold distinctStarts
    split
    · next hsame =>
      -- The dropped routine has the start kept last, of which the test does not hold.
      rw [ih last hlast, List.find?_cons_of_neg (by simp [hlast r.start hsame])]
    · by_cases hr : p r.start = true
      · simp only [List.find?_cons, hr]
      · simp only [List.find?_cons, hr]
        exact ih (some r.start) fun s hs => by simpa [← Option.some.inj hs] using hr

theorem mem_starts_distinctStarts (routines : List Routine) (s : Address) :
    s ∈ (distinctStarts none routines).map Routine.start ↔ s ∈ routines.map Routine.start := by
  have h := congrArg Option.isSome (find?_distinctStarts (· == s) none (by simp) routines)
  rw [Bool.eq_iff_iff] at h
  simpa [List.find?_isSome] using h

/-- What follows a kept routine starts above it. -/
theorem distinctStarts_strict (last : Option Address) {routines : List Routine}
    (h : Floor.Ascending Routine.start routines) (hlast : ∀ s ∈ last, ∀ r ∈ routines, s ≤ r.start) :
    (distinctStarts last routines).Pairwise (fun r s => r.start < s.start) ∧
      ∀ s ∈ last, ∀ r ∈ distinctStarts last routines, s < r.start := by
  induction routines generalizing last with
  | nil => simp [distinctStarts]
  | cons r rest ih =>
    obtain ⟨hr, hrest⟩ := List.pairwise_cons.mp h
    unfold distinctStarts
    split
    · exact ih last hrest fun s hs t ht => hlast s hs t (List.mem_cons_of_mem _ ht)
    · next hdiff =>
      obtain ⟨hpair, habove⟩ := ih (some r.start) hrest
        fun s hs t ht => by simpa [← Option.some.inj hs] using hr t ht
      refine ⟨List.pairwise_cons.mpr ⟨habove r.start rfl, hpair⟩, fun s hs t ht => ?_⟩
      have hsr : s < r.start := by
        have hne : s ≠ r.start := fun he => hdiff (he ▸ hs)
        exact UInt64.lt_of_le_of_ne (hlast s hs r List.mem_cons_self) hne
      rcases List.mem_cons.mp ht with rfl | ht
      · exact hsr
      · exact UInt64.lt_trans hsr (habove r.start rfl t ht)

/-- Of routines that start one above the other all are kept. -/
theorem distinctStarts_of_strict (last : Option Address) {routines : List Routine}
    (h : routines.Pairwise fun r s => r.start < s.start)
    (hlast : ∀ s ∈ last, ∀ r ∈ routines, s < r.start) :
    distinctStarts last routines = routines := by
  induction routines generalizing last with
  | nil => rfl
  | cons r rest ih =>
    obtain ⟨hr, hrest⟩ := List.pairwise_cons.mp h
    have hnew : last ≠ some r.start := by
      intro hsame
      exact UInt64.lt_irrefl _ (hlast r.start hsame r List.mem_cons_self)
    rw [distinctStarts, if_neg hnew, ih (some r.start) hrest]
    intro s hs t ht
    exact Option.some.inj hs ▸ hr t ht

end Routine

namespace RoutineMap

theorem mem_of_mem_toList_ofList {routines : List Routine} {r : Routine}
    (h : r ∈ (ofList routines).toList) : r ∈ routines := by
  rw [toList_ofList] at h
  exact List.mem_mergeSort.mp ((distinctStarts_sublist none _).subset h)

/-- The routines of a map start one above the other. -/
theorem strict_toList_ofList (routines : List Routine) :
    (ofList routines).toList.Pairwise fun r s => r.start < s.start := by
  rw [toList_ofList]
  exact (Routine.distinctStarts_strict none (Floor.ascending_mergeSort Routine.start routines)
    (by simp)).1

/-- A map is that of its own routines. -/
theorem ofList_toList_ofList (routines : List Routine) :
    ofList (ofList routines).toList = ofList routines := by
  have hstrict := strict_toList_ofList routines
  have hsorted : (ofList routines).toList.mergeSort (Floor.before Routine.start) =
      (ofList routines).toList := by
    apply List.mergeSort_of_pairwise
    exact (ofList routines).ascending.imp fun hrs => by simpa [Floor.before] using hrs
  have hsame : (ofList (ofList routines).toList).toList = (ofList routines).toList := by
    rw [toList_ofList (ofList routines).toList, hsorted,
      Routine.distinctStarts_of_strict none hstrict (by simp)]
  exact eq_of_toList_eq hsame

/-- Of the routines with the greatest start the first is kept, so no other floor is left. -/
theorem floors_toList_ofList (routines : List Routine) (a : Address) :
    Floor.floors Routine.start (ofList routines).toList a =
      (Floor.floors Routine.start routines a).head?.toList := by
  have hasc := Floor.ascending_mergeSort Routine.start routines
  rw [← Floor.floors_mergeSort routines, toList_ofList]
  generalize routines.mergeSort (Floor.before Routine.start) = sorted at hasc
  have hhead : (Floor.floors Routine.start (Routine.distinctStarts none sorted) a).head? =
      (Floor.floors Routine.start sorted a).head? := by
    rw [Floor.floors, Floor.floors, List.head?_filter, List.head?_filter,
      Floor.isGreatest_congr (Routine.mem_starts_distinctStarts sorted)]
    exact Routine.find?_distinctStarts _ none (by simp) sorted
  have hstrict : (Floor.floors Routine.start (Routine.distinctStarts none sorted) a).Pairwise
      fun r s => r.start < s.start :=
    (Routine.distinctStarts_strict none hasc (by simp)).1.filter _
  rw [← hhead]
  cases hfloors : Floor.floors Routine.start (Routine.distinctStarts none sorted) a with
  | nil => rfl
  | cons r rest =>
    cases rest with
    | nil => rfl
    | cons s rest =>
      rw [hfloors] at hstrict
      have hlt := (List.pairwise_cons.mp hstrict).1 s (by simp)
      have heq : r.start = s.start :=
        Floor.key_eq_of_mem_floors (by rw [hfloors]; simp) (by rw [hfloors]; simp)
      exact absurd (heq ▸ hlt) (UInt64.lt_irrefl _)

/-- A look-up by search gives the routine that came first among those with the greatest start at or
below the query, if the query is within its size. -/
theorem holder?_ofList (routines : List Routine) (a : Address) :
    (ofList routines).holder? a =
      (Floor.floors Routine.start routines a).head?.filter (·.reaches a) := by
  rw [holder?, Floor.floor?_eq_getLast? (ofList routines).ascending,
    ← Floor.getLast?_floors (ofList routines).ascending]
  change (Floor.floors _ (ofList routines).toList a).getLast?.filter _ = _
  rw [floors_toList_ofList]
  cases (Floor.floors Routine.start routines a).head? <;> rfl

end RoutineMap

end Symbolication
