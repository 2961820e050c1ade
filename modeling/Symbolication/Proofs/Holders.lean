import Symbolication.Proofs.NameIndex

namespace Symbolication

/-- The range of the symbol has the address. An empty range counts as one address, and the end of a
range is a number of any length. -/
def Symbol.Spans (s : Symbol) (a : Address) : Prop :=
  s.value.toNat ≤ a.toNat ∧ a.toNat < s.value.toNat + max s.size.toNat 1

theorem Symbol.holds_iff {s : Symbol} {a : Address} : s.holds a = true ↔ s.Spans a := by
  rw [Symbol.holds, Option.any_eq_true, Symbol.Spans]
  constructor
  · rintro ⟨offset, hoffset, hlt⟩
    rw [Word.difference?_eq_some_iff] at hoffset
    rw [decide_eq_true_eq, UInt64.lt_iff_toNat_lt, UInt64.toNat_max, UInt64.toNat_one] at hlt
    omega
  · rintro ⟨hle, hlt⟩
    have hle' : s.value ≤ a := UInt64.le_iff_toNat_le.mpr hle
    refine ⟨a - s.value, if_pos hle', ?_⟩
    rw [decide_eq_true_eq, UInt64.lt_iff_toNat_lt, UInt64.toNat_max, UInt64.toNat_one,
      UInt64.toNat_sub_of_le _ _ hle']
    omega

namespace SymbolIndex

/-! ## The last start -/

section Latest

variable {symbols : List Symbol} {s t : Symbol}

/-- The symbol starts last, and comes first of those that start where it does. -/
def IsLatest (symbols : List Symbol) (s : Symbol) : Prop :=
  ∃ before after, symbols = before ++ s :: after ∧ (∀ t ∈ before, t.value < s.value) ∧
    ∀ t ∈ after, t.value ≤ s.value

/-- A symbol that starts later than all before it takes their place. -/
theorem IsLatest.append_later (h : IsLatest symbols s) (hlt : s.value < t.value) :
    IsLatest (symbols ++ [t]) t := by
  obtain ⟨before, after, rfl, hbefore, hafter⟩ := h
  refine ⟨before ++ s :: after, [], rfl, fun u hu => ?_, fun u hu => nomatch hu⟩
  rcases List.mem_append.mp hu with hu | hu
  · exact UInt64.lt_trans (hbefore u hu) hlt
  · rcases List.mem_cons.mp hu with rfl | hu
    · exact hlt
    · exact UInt64.lt_of_le_of_lt (hafter u hu) hlt

theorem IsLatest.append_not_later (h : IsLatest symbols s) (hle : t.value ≤ s.value) :
    IsLatest (symbols ++ [t]) s := by
  obtain ⟨before, after, rfl, hbefore, hafter⟩ := h
  refine ⟨before, after ++ [t], by simp, hbefore, fun u hu => ?_⟩
  rcases List.mem_append.mp hu with hu | hu
  · exact hafter u hu
  · exact List.mem_singleton.mp hu ▸ hle

theorem foldl_later_eq_none_iff : symbols.foldl later none = none ↔ symbols = [] := by
  induction symbols using List.reverseRecOn with
  | nil => simp
  | append_singleton symbols s _ =>
    rw [List.foldl_append, List.foldl_cons, List.foldl_nil]
    cases symbols.foldl later none with
    | none => simp [later]
    | some b =>
      simp only [later]
      split <;> simp

theorem isLatest_of_foldl_later (h : symbols.foldl later none = some s) :
    IsLatest symbols s := by
  induction symbols using List.reverseRecOn generalizing s with
  | nil => cases h
  | append_singleton symbols t ih =>
    rw [List.foldl_append, List.foldl_cons, List.foldl_nil] at h
    cases hbest : symbols.foldl later none with
    | none =>
      obtain rfl := foldl_later_eq_none_iff.mp hbest
      cases h
      exact ⟨[], [], rfl, by simp, by simp⟩
    | some b =>
      rw [hbest, later] at h
      split at h
      · next hlt =>
        cases h
        exact (ih hbest).append_later hlt
      · next hle =>
        cases h
        exact (ih hbest).append_not_later (UInt64.not_lt.mp hle)

theorem foldl_later_of_le {symbols : List Symbol} (h : ∀ t ∈ symbols, t.value ≤ s.value) :
    symbols.foldl later (some s) = some s := by
  induction symbols with
  | nil => rfl
  | cons t symbols ih =>
    obtain ⟨ht, hsymbols⟩ := List.forall_mem_cons.mp h
    rw [List.foldl_cons, later, if_neg (UInt64.not_lt.mpr ht), ih hsymbols]

/-- Only one symbol is the latest: the one that is left. -/
theorem IsLatest.foldl_later (h : IsLatest symbols s) : symbols.foldl later none = some s := by
  obtain ⟨before, after, rfl, hbefore, hafter⟩ := h
  rw [List.foldl_append, List.foldl_cons]
  cases hbest : before.foldl later none with
  | none => rw [later, foldl_later_of_le hafter]
  | some b =>
    obtain ⟨_, _, rfl, -⟩ := isLatest_of_foldl_later hbest
    rw [later, if_pos (hbefore b (by simp)), foldl_later_of_le hafter]

theorem foldl_later_eq_some_iff : symbols.foldl later none = some s ↔ IsLatest symbols s :=
  ⟨isLatest_of_foldl_later, IsLatest.foldl_later⟩

/-- The latest of some of the symbols, by its place among all of them. -/
theorem isLatest_filter_iff {p : Symbol → Bool} : IsLatest (symbols.filter p) s ↔
    ∃ before after, symbols = before ++ s :: after ∧ p s = true ∧
      (∀ t ∈ before, p t = true → t.value < s.value) ∧
      ∀ t ∈ after, p t = true → t.value ≤ s.value := by
  constructor
  · rintro ⟨before, after, hfilter, hbefore, hafter⟩
    obtain ⟨first, rest, rfl, rfl, hrest⟩ := List.filter_eq_append_iff.mp hfilter
    obtain ⟨skipped, last, rfl, hskipped, hs, rfl⟩ := List.filter_eq_cons_iff.mp hrest
    refine ⟨first ++ skipped, last, by simp, hs, fun t ht hpt => ?_, fun t ht hpt => ?_⟩
    · rcases List.mem_append.mp ht with ht | ht
      · exact hbefore t (List.mem_filter.mpr ⟨ht, hpt⟩)
      · exact absurd hpt (hskipped t ht)
    · exact hafter t (List.mem_filter.mpr ⟨ht, hpt⟩)
  · rintro ⟨before, after, rfl, hs, hbefore, hafter⟩
    refine ⟨before.filter p, after.filter p, ?_, fun t ht => ?_, fun t ht => ?_⟩
    · rw [List.filter_append, List.filter_cons_of_pos hs]
    · exact hbefore t (List.mem_filter.mp ht).1 (List.mem_filter.mp ht).2
    · exact hafter t (List.mem_filter.mp ht).1 (List.mem_filter.mp ht).2

end Latest

/-! ## Holders -/

section Holders

variable {symbols : List Symbol} {a : Address} {s : Symbol}

/-- Names play no part in the choice. -/
theorem holder?_ofList (symbols : List Symbol) (a : Address) : (ofList symbols).holder? a =
    ((symbols.filter (·.holds a)).foldl later none).map Symbol.trimmed := by
  have hlater (best : Option Symbol) (s : Symbol) :
      later (best.map Symbol.trimmed) s.trimmed = (later best s).map Symbol.trimmed := by
    cases best with
    | none => rfl
    | some b =>
      exact (apply_ite (Option.map Symbol.trimmed) (b.value < s.value) (some s) (some b)).symm
  have hholds : (·.holds a) ∘ Symbol.trimmed = (·.holds a) := rfl
  rw [holder?, (ofList_indexes symbols).toList_eq, List.filter_map, hholds, List.foldl_map]
  exact @List.foldl_hom _ _ _ (Option.map Symbol.trimmed) later (later · ·.trimmed) _ none hlater

theorem holder?_eq_none_iff :
    (ofList symbols).holder? a = none ↔ ¬ ∃ s ∈ symbols, s.Spans a := by
  rw [holder?_ofList, Option.map_eq_none_iff, foldl_later_eq_none_iff, List.filter_eq_nil_iff]
  simp only [Symbol.holds_iff, not_exists, not_and]

theorem holder?_eq_some_iff : (ofList symbols).holder? a = some s ↔
    ∃ before t after, symbols = before ++ t :: after ∧ t.Spans a ∧
      (∀ u ∈ before, u.Spans a → u.value < t.value) ∧
      (∀ u ∈ after, u.Spans a → u.value ≤ t.value) ∧ s = t.trimmed := by
  rw [holder?_ofList, Option.map_eq_some_iff]
  simp only [foldl_later_eq_some_iff, isLatest_filter_iff, Symbol.holds_iff]
  constructor
  · rintro ⟨t, ⟨before, after, hsymbols, ht, hbefore, hafter⟩, rfl⟩
    exact ⟨before, t, after, hsymbols, ht, hbefore, hafter, rfl⟩
  · rintro ⟨before, t, after, hsymbols, ht, hbefore, hafter, rfl⟩
    exact ⟨t, ⟨before, after, hsymbols, ht, hbefore, hafter⟩, rfl⟩

theorem value_le_of_holder? (h : (ofList symbols).holder? a = some s) {t : Symbol}
    (ht : t ∈ symbols) (hspans : t.Spans a) : t.value ≤ s.value := by
  obtain ⟨before, u, after, rfl, -, hbefore, hafter, rfl⟩ := holder?_eq_some_iff.mp h
  rcases List.mem_append.mp ht with ht | ht
  · exact UInt64.le_of_lt (hbefore t ht hspans)
  · rcases List.mem_cons.mp ht with rfl | ht
    · exact UInt64.le_refl _
    · exact hafter t ht hspans

/-- A symbol holds its own value, so a symbol that starts there answers for it. -/
theorem exists_holder?_value (h : s ∈ symbols) :
    ∃ holder, (ofList symbols).holder? s.value = some holder ∧ holder.value = s.value := by
  have hspans : s.Spans s.value := by
    unfold Symbol.Spans
    omega
  cases hholder : (ofList symbols).holder? s.value with
  | none => exact absurd ⟨s, h, hspans⟩ (holder?_eq_none_iff.mp hholder)
  | some holder =>
    obtain ⟨_, t, _, -, ⟨hle, -⟩, -, -, rfl⟩ := holder?_eq_some_iff.mp hholder
    have hge := value_le_of_holder? hholder h hspans
    exact ⟨_, rfl, UInt64.le_antisymm (UInt64.le_iff_toNat_le.mpr hle) hge⟩

end Holders

/-- An address has a symbol where some symbol spans it: of those that do, the first in the order of
the table that starts last. A symbol that is found by name has at its value a symbol that starts
there. -/
theorem holder?_eq_first_latest (symbols : List Symbol) (a : Address) :
    ((ofList symbols).holder? a = none ↔ ¬ ∃ s ∈ symbols, s.Spans a) ∧
    (∀ s, (ofList symbols).holder? a = some s ↔ ∃ before t after,
      symbols = before ++ t :: after ∧ t.Spans a ∧
        (∀ u ∈ before, u.Spans a → u.value < t.value) ∧
        (∀ u ∈ after, u.Spans a → u.value ≤ t.value) ∧
        s = ⟨trimmedName t.name, t.value, t.size⟩) ∧
    ∀ name s, (ofList symbols).named? name = some s →
      ∃ holder, (ofList symbols).holder? s.value = some holder ∧ holder.value = s.value := by
  refine ⟨holder?_eq_none_iff, fun s => holder?_eq_some_iff, fun name s hnamed => ?_⟩
  obtain ⟨_, t, _, rfl, -, -, rfl⟩ := named?_eq_some_iff.mp hnamed
  exact exists_holder?_value (s := t) (by simp)

/-- The range of `last` ends past the last word, and `alias` starts where it does. -/
example :
    (ofList [⟨"outer", 0x10, 0x40⟩, ⟨"inner", 0x20, 0⟩, ⟨"last", 0xfffffffffffffff0, 0x20⟩,
      ⟨"alias", 0xfffffffffffffff0, 0x20⟩]).holder? 0xffffffffffffffff =
        some ⟨"last", 0xfffffffffffffff0, 0x20⟩ := by
  decide

end SymbolIndex

end Symbolication
