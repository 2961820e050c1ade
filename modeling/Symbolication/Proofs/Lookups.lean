import Symbolication.Proofs.Resolution

namespace Symbolication

namespace Floor

variable {α : Type} {key : α → Address} {xs : List α} {a : Address} {x : α}

/-- The entry has the greatest key at or below the address, and comes first of those that have. -/
def IsFirst (key : α → Address) (xs : List α) (a : Address) (x : α) : Prop :=
  ∃ before after, xs = before ++ x :: after ∧ key x ≤ a ∧
    (∀ y ∈ before, key y ≤ a → key y < key x) ∧ ∀ y ∈ after, key y ≤ a → key y ≤ key x

/-- The entry has the greatest key at or below the address, and comes last of those that have. -/
def IsLast (key : α → Address) (xs : List α) (a : Address) (x : α) : Prop :=
  ∃ before after, xs = before ++ x :: after ∧ key x ≤ a ∧
    (∀ y ∈ before, key y ≤ a → key y ≤ key x) ∧ ∀ y ∈ after, key y ≤ a → key y < key x

theorem isFirst_reverse_iff : IsFirst key xs.reverse a x ↔ IsLast key xs a x := by
  constructor
  · rintro ⟨before, after, hxs, hle, hbefore, hafter⟩
    refine ⟨after.reverse, before.reverse, ?_, hle, ?_, ?_⟩
    · rw [← List.reverse_reverse xs, hxs]
      simp
    · intro y hy
      exact hafter y (List.mem_reverse.mp hy)
    · intro y hy
      exact hbefore y (List.mem_reverse.mp hy)
  · rintro ⟨before, after, rfl, hle, hbefore, hafter⟩
    refine ⟨after.reverse, before.reverse, by simp, hle, ?_, ?_⟩
    · intro y hy
      exact hafter y (List.mem_reverse.mp hy)
    · intro y hy
      exact hbefore y (List.mem_reverse.mp hy)

/-- There are floors exactly where some key is at or below the address. -/
theorem floors_eq_nil_iff : floors key xs a = [] ↔ ¬ ∃ x ∈ xs, key x ≤ a := by
  have hlast := getLast?_floors (ascending_mergeSort key xs) a
  rw [floors_mergeSort] at hlast
  rw [← List.getLast?_eq_none_iff, hlast, List.getLast?_eq_none_iff, List.filter_eq_nil_iff]
  simp [atOrBelow]

theorem head?_floors_eq_some_iff : (floors key xs a).head? = some x ↔ IsFirst key xs a x := by
  rw [floors, List.head?_filter, List.find?_eq_some_iff_append]
  constructor
  · rintro ⟨hgreatest, before, after, rfl, hbefore⟩
    obtain ⟨hle, hmost⟩ := isGreatest_iff.mp hgreatest
    rw [List.forall_mem_map] at hmost
    refine ⟨before, after, rfl, hle, ?_, ?_⟩
    · intro y hy hya
      -- An entry before this one with the same key would be a floor too.
      have hne : key y ≠ key x := by
        intro hsame
        have hnot := hbefore y hy
        rw [hsame, hgreatest] at hnot
        cases hnot
      exact UInt64.lt_of_le_of_ne (hmost y (List.mem_append_left _ hy) hya) hne
    · intro y hy
      exact hmost y (List.mem_append_right _ (List.mem_cons_of_mem x hy))
  · rintro ⟨before, after, rfl, hle, hbefore, hafter⟩
    have hgreatest : isGreatest ((before ++ x :: after).map key) a (key x) = true := by
      rw [isGreatest_iff, List.forall_mem_map]
      refine ⟨hle, fun y hy hya => ?_⟩
      rcases List.mem_append.mp hy with hy | hy
      · exact UInt64.le_of_lt (hbefore y hy hya)
      · rcases List.mem_cons.mp hy with rfl | hy
        · exact UInt64.le_refl _
        · exact hafter y hy hya
    refine ⟨hgreatest, before, after, rfl, fun y hy => ?_⟩
    rw [Bool.not_eq_true', ← Bool.not_eq_true]
    intro hy_greatest
    obtain ⟨hya, hmost⟩ := isGreatest_iff.mp hy_greatest
    have hxy := hmost (key x) (List.mem_map_of_mem (by simp)) hle
    exact UInt64.lt_irrefl _ (UInt64.lt_of_le_of_lt hxy (hbefore y hy hya))

/-- The floors of the reversed list are the same, from the last to the first. -/
theorem floors_reverse : floors key xs.reverse a = (floors key xs a).reverse := by
  have hkeys : isGreatest (xs.reverse.map key) = isGreatest (xs.map key) :=
    isGreatest_congr fun k => by simp
  rw [floors, hkeys, List.filter_reverse, floors]

theorem getLast?_floors_eq_some_iff : (floors key xs a).getLast? = some x ↔ IsLast key xs a x := by
  rw [← isFirst_reverse_iff, ← head?_floors_eq_some_iff, floors_reverse, List.head?_reverse]

theorem IsLast.le (h : IsLast key xs a x) : ∀ y ∈ xs, key y ≤ a → key y ≤ key x := by
  obtain ⟨before, after, rfl, -, hbefore, hafter⟩ := h
  intro y hy hya
  rcases List.mem_append.mp hy with hy | hy
  · exact hbefore y hy hya
  · rcases List.mem_cons.mp hy with rfl | hy
    · exact UInt64.le_refl _
    · exact UInt64.le_of_lt (hafter y hy hya)

/-- Of two lists, one after the other, the second answers where its greatest key at or below the
address is as great as that of the first, and the first where its key is greater. -/
theorem isLast_append_iff {ys : List α} : IsLast key (xs ++ ys) a x ↔
    IsLast key ys a x ∧ (∀ y ∈ xs, key y ≤ a → key y ≤ key x) ∨
      IsLast key xs a x ∧ ∀ y ∈ ys, key y ≤ a → key y < key x := by
  constructor
  · rintro ⟨before, after, hsplit, hle, hbefore, hafter⟩
    rcases List.append_eq_append_iff.mp hsplit with ⟨rest, rfl, rfl⟩ | ⟨rest, rfl, hrest⟩
    · refine .inl ⟨⟨rest, after, rfl, hle, ?_, hafter⟩, ?_⟩
      · intro y hy
        exact hbefore y (List.mem_append_right _ hy)
      · intro y hy
        exact hbefore y (List.mem_append_left _ hy)
    · cases rest with
      | nil =>
        rw [List.nil_append] at hrest
        subst hrest
        rw [List.append_nil]
        exact .inl ⟨⟨[], after, rfl, hle, fun _ hy => (nomatch hy), hafter⟩, hbefore⟩
      | cons z rest =>
        obtain ⟨rfl, rfl⟩ := List.cons.inj hrest
        refine .inr ⟨⟨before, rest, rfl, hle, hbefore, ?_⟩, ?_⟩
        · intro y hy
          exact hafter y (List.mem_append_left _ hy)
        · intro y hy
          exact hafter y (List.mem_append_right _ hy)
  · rintro (⟨⟨before, after, rfl, hle, hbefore, hafter⟩, hxs⟩ |
      ⟨⟨before, after, rfl, hle, hbefore, hafter⟩, hys⟩)
    · refine ⟨xs ++ before, after, by simp, hle, ?_, hafter⟩
      intro y hy
      rcases List.mem_append.mp hy with hy | hy
      · exact hxs y hy
      · exact hbefore y hy
    · refine ⟨before, after ++ ys, by simp, hle, hbefore, ?_⟩
      intro y hy
      rcases List.mem_append.mp hy with hy | hy
      · exact hafter y hy
      · exact hys y hy

/-- Where nothing lies between its key and the address, an entry that comes first of its own key
comes first at the address too. -/
theorem IsFirst.of_no_key_between (h : IsFirst key xs (key x) x) (hle : key x ≤ a)
    (hbetween : ∀ y ∈ xs, key y ≤ key x ∨ a < key y) : IsFirst key xs a x := by
  obtain ⟨before, after, rfl, -, hbefore, hafter⟩ := h
  have hbelow : ∀ y ∈ before ++ x :: after, key y ≤ a → key y ≤ key x := by
    intro y hy hya
    rcases hbetween y hy with hyx | hay
    · exact hyx
    · exact absurd (UInt64.lt_of_lt_of_le hay hya) (UInt64.lt_irrefl a)
  refine ⟨before, after, rfl, hle, ?_, ?_⟩
  · intro y hy hya
    exact hbefore y hy (hbelow y (List.mem_append_left _ hy) hya)
  · intro y hy
    exact hbelow y (List.mem_append_right _ (List.mem_cons_of_mem x hy))

end Floor

namespace LineTable

variable {rows : List Row} {a : Address} {row : Row}

theorem rowAt?_eq_none_iff : (ofRows rows).rowAt? a = none ↔ ¬ ∃ row ∈ rows, row.address ≤ a := by
  rw [rowAt?_ofRows, List.getLast?_eq_none_iff, Floor.floors_eq_nil_iff]

theorem rowAt?_eq_some_iff :
    (ofRows rows).rowAt? a = some row ↔ Floor.IsLast Row.address rows a row := by
  rw [rowAt?_ofRows, Floor.getLast?_floors_eq_some_iff]

/-- What holds of the answer's address, and of every lower one, holds of all rows at or below the
query. -/
theorem forall_address_iff {P : Address → Prop} (hP : ∀ k l, k ≤ l → P l → P k) :
    (∀ row ∈ rows, row.address ≤ a → P row.address) ↔
      ∀ row, (ofRows rows).rowAt? a = some row → P row.address := by
  constructor
  · intro h row hrow
    obtain ⟨before, after, rfl, hle, -⟩ := rowAt?_eq_some_iff.mp hrow
    exact h row (by simp) hle
  · intro h row hrow hle
    cases hanswer : (ofRows rows).rowAt? a with
    | none => exact absurd ⟨row, hrow, hle⟩ (rowAt?_eq_none_iff.mp hanswer)
    | some last =>
      have hgreatest := (rowAt?_eq_some_iff.mp hanswer).le row hrow hle
      exact hP _ _ hgreatest (h last hanswer)

/-- Of two lists of rows, one after the other, the one with the greater address at or below the
query answers, and the second one where both have the same. -/
theorem rowAt?_ofRows_append {later : List Row} :
    (ofRows (rows ++ later)).rowAt? a = some row ↔
      (ofRows later).rowAt? a = some row ∧
          (∀ other, (ofRows rows).rowAt? a = some other → other.address ≤ row.address) ∨
        (ofRows rows).rowAt? a = some row ∧
          ∀ other, (ofRows later).rowAt? a = some other → other.address < row.address := by
  rw [rowAt?_eq_some_iff, Floor.isLast_append_iff, ← rowAt?_eq_some_iff, ← rowAt?_eq_some_iff,
    forall_address_iff (P := fun k => k ≤ row.address) fun _ _ => UInt64.le_trans,
    forall_address_iff (P := fun k => k < row.address) fun _ _ => UInt64.lt_of_le_of_lt]

end LineTable

/-- A line table answers wherever some row is at or below the address, and then with the row that
came last among those of the greatest such address. -/
theorem LineTable.rowAt?_eq_last_floor (rows : List Row) (a : Address) :
    ((ofRows rows).rowAt? a = none ↔ ¬ ∃ row ∈ rows, row.address ≤ a) ∧
      ∀ row, (ofRows rows).rowAt? a = some row ↔ Floor.IsLast Row.address rows a row := by
  rw [rowAt?_ofRows]
  constructor
  · rw [List.getLast?_eq_none_iff]
    exact Floor.floors_eq_nil_iff
  · intro row
    exact Floor.getLast?_floors_eq_some_iff

/-- The rows of `a.c` and `b.h` at `0x200` came in this order. -/
example :
    (LineTable.ofRows [⟨"/a", "a.c", 0x300, 3⟩, ⟨"/a", "a.c", 0x200, 2⟩, ⟨"/b", "b.h", 0x200, 30⟩,
      ⟨"/a", "a.c", 0x100, 1⟩]).rowAt? 0x250 = some ⟨"/b", "b.h", 0x200, 30⟩ := by
  cbv

/-- Without a size a routine reaches every address, and else those up to its end, which is counted
as a number of any length. -/
theorem Routine.reaches_iff_le_end {r : Routine} {a : Address} (h : r.start ≤ a) :
    r.reaches a = true ↔ ∀ size, r.size = some size → a.toNat ≤ r.start.toNat + size.toNat := by
  rw [Routine.reaches_iff h]
  cases r.size with
  | none => simp
  | some size =>
    have hle := UInt64.le_iff_toNat_le.mp h
    simp only [Option.all_some, decide_eq_true_eq, Option.some.injEq, forall_eq']
    omega

namespace RoutineMap

variable {routines : List Routine} {a : Address} {r : Routine}

theorem holder?_of_isFirst (h : Floor.IsFirst Routine.start routines a r) :
    (ofList routines).holder? a = if r.reaches a then some r else none := by
  rw [holder?_ofList, Floor.head?_floors_eq_some_iff.mpr h]
  rfl

theorem holder?_eq_some_iff : (ofList routines).holder? a = some r ↔
    Floor.IsFirst Routine.start routines a r ∧ r.reaches a = true := by
  rw [holder?_ofList, Option.filter_eq_some_iff, Floor.head?_floors_eq_some_iff]

theorem holder?_eq_none_iff : (ofList routines).holder? a = none ↔
    (¬ ∃ r ∈ routines, r.start ≤ a) ∨
      ∃ r, Floor.IsFirst Routine.start routines a r ∧ r.reaches a = false := by
  cases hhead : (Floor.floors Routine.start routines a).head? with
  | none =>
    have hnone := Floor.floors_eq_nil_iff.mp (List.head?_eq_none_iff.mp hhead)
    rw [holder?_ofList, hhead]
    exact iff_of_true rfl (.inl hnone)
  | some first =>
    have hfirst := Floor.head?_floors_eq_some_iff.mp hhead
    have hsome : ∃ r ∈ routines, r.start ≤ a := by
      obtain ⟨before, after, rfl, hle, -⟩ := hfirst
      exact ⟨first, by simp, hle⟩
    have hunique : ∀ r, Floor.IsFirst Routine.start routines a r ↔ first = r := by
      intro r
      rw [← Floor.head?_floors_eq_some_iff, hhead, Option.some.injEq]
    rw [holder?_of_isFirst hfirst]
    simp [hsome, hunique]

/-- A routine map answers with the routine that came first among those of the greatest start at or
below the address, if the address is not past that routine's end, and with no other routine. A
routine whose end no word holds is left only at the next start. -/
theorem holder?_eq_first_floor (routines : List Routine) (a : Address) :
    ((ofList routines).holder? a = none ↔ (¬ ∃ r ∈ routines, r.start ≤ a) ∨
      ∃ r, Floor.IsFirst Routine.start routines a r ∧
        ∃ size, r.size = some size ∧ r.start.toNat + size.toNat < a.toNat) ∧
    (∀ r, (ofList routines).holder? a = some r ↔ Floor.IsFirst Routine.start routines a r ∧
      ∀ size, r.size = some size → a.toNat ≤ r.start.toNat + size.toNat) ∧
    (∀ r, Floor.IsFirst Routine.start routines a r →
      (ofList routines).holder? a = some r ∨ (ofList routines).holder? a = none) ∧
    ∀ r size, r.size = some size → UInt64.size ≤ r.start.toNat + size.toNat →
      Floor.IsFirst Routine.start routines r.start r → r.start ≤ a →
      (∀ s ∈ routines, s.start ≤ r.start ∨ a < s.start) →
      (ofList routines).holder? a = some r := by
  have hreach : ∀ r, Floor.IsFirst Routine.start routines a r → (r.reaches a = true ↔
      ∀ size, r.size = some size → a.toNat ≤ r.start.toNat + size.toNat) := by
    rintro r ⟨before, after, -, hle, -⟩
    exact Routine.reaches_iff_le_end hle
  refine ⟨?_, ?_, ?_, ?_⟩
  · rw [holder?_eq_none_iff]
    refine or_congr_right (exists_congr fun r => and_congr_right fun hfirst => ?_)
    rw [← Bool.not_eq_true, hreach r hfirst]
    simp
  · intro r
    rw [holder?_eq_some_iff]
    exact and_congr_right (hreach r)
  · intro r hfirst
    rw [holder?_of_isFirst hfirst]
    by_cases hr : r.reaches a = true
    · exact .inl (if_pos hr)
    · exact .inr (if_neg hr)
  · intro r size hsize hpast hown hle hnext
    have hfirst := hown.of_no_key_between hle hnext
    have hword := a.toNat_lt_size
    refine holder?_eq_some_iff.mpr ⟨hfirst, (hreach r hfirst).mpr fun other hother => ?_⟩
    rw [hsize, Option.some.injEq] at hother
    subst hother
    omega

/-- A routine, another name of it, a longer one around it, and one that ends past the last word. -/
def nested : List Routine :=
  [⟨"inner", "main", 0x20, some 4⟩, ⟨"alias", "main", 0x20, none⟩,
    ⟨"outer", "main", 0x10, some 0x100⟩, ⟨"last", "main", 0xfffffffffffffff0, some 0x20⟩]

/-- Past the end of the inner routine neither its other name nor the outer routine answers, and the
last routine holds the last word. -/
theorem holder?_eq_first_floor_nested :
    (ofList nested).holder? 0x30 = none ∧
      (ofList nested).holder? 0xffffffffffffffff =
        some ⟨"last", "main", 0xfffffffffffffff0, some 0x20⟩ := by
  constructor
  · have hinner : Floor.IsFirst Routine.start nested 0x30 ⟨"inner", "main", 0x20, some 4⟩ :=
      ⟨[], nested.tail, rfl, by decide, by decide, by decide⟩
    exact (holder?_eq_first_floor nested 0x30).1.mpr (.inr ⟨_, hinner, 4, rfl, by decide⟩)
  · obtain ⟨-, -, -, hpast⟩ := holder?_eq_first_floor nested 0xffffffffffffffff
    have hlast : Floor.IsFirst Routine.start nested 0xfffffffffffffff0
        ⟨"last", "main", 0xfffffffffffffff0, some 0x20⟩ :=
      ⟨nested.take 3, [], rfl, by decide, by decide, by decide⟩
    exact hpast _ 0x20 rfl (by decide) hlast (by decide) (by decide)

end RoutineMap

end Symbolication
