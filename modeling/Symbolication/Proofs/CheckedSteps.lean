import Symbolication.Engine
import Symbolication.Proofs.DebugRows
import Symbolication.Proofs.Holders
import Symbolication.Proofs.Resolution

/-! Look-ups subtract starts from addresses and take entries at places that were computed before,
and check neither. Here are the same look-ups with each such step checked. That they never fail says
that no difference wraps and no place lies outside its table. -/

namespace Symbolication

/-- The result of steps that are checked. There is none once a difference is negative or an entry
lies outside its table. -/
abbrev Checked (α : Type) := Option α

/-! ## The search -/

namespace Floor

variable {α : Type} {key : α → Address} {entries : Array α} {a : Address}

def checkedBisect (test : Nat → Checked Bool) (low high : Nat) : Checked Nat :=
  if low < high then
    let middle := (low + high) / 2
    (test middle).bind fun below =>
      if below then checkedBisect test (middle + 1) high else checkedBisect test low middle
  else some low
termination_by high - low

/-- The last entry at or below an address. Every entry that is looked at has to be there. -/
def checkedFloor? (key : α → Address) (entries : Array α) (a : Address) : Checked (Option α) := do
  let rank ← checkedBisect (fun i => (entries[i]?).map (atOrBelow key a)) 0 entries.size
  match rank with
  | 0 => return none
  | n + 1 => return some (← entries[n]?)

/-- The search tests nothing outside its two indices. -/
theorem checkedBisect_eq {test : Nat → Checked Bool} {plain : Nat → Bool} {low high : Nat}
    (h : ∀ i, low ≤ i → i < high → test i = some (plain i)) :
    checkedBisect test low high = some (bisect plain low high) := by
  fun_induction bisect plain low high with
  | case1 low high hlt middle hplain ih =>
    have hmiddle : test middle = some true := hplain ▸ h middle (by omega) (by omega)
    rw [checkedBisect, if_pos hlt]
    change (test middle).bind _ = _
    rw [hmiddle, Option.bind_some, if_pos rfl]
    exact ih fun i hi => h i (by omega)
  | case2 low high hlt middle hplain ih =>
    have hmiddle : test middle = some false := by
      rw [h middle (by omega) (by omega)]
      simpa using hplain
    rw [checkedBisect, if_pos hlt]
    change (test middle).bind _ = _
    rw [hmiddle, Option.bind_some, if_neg Bool.false_ne_true]
    exact ih fun i hi hj => h i hi (by omega)
  | case3 low high hlt => rw [checkedBisect, if_neg hlt]

theorem bisect_le {test : Nat → Bool} {low high : Nat} (h : low ≤ high) :
    bisect test low high ≤ high := by
  fun_induction bisect test low high with
  | case1 low high hlt middle _ ih => exact ih (by omega)
  | case2 low high hlt middle _ ih => exact Nat.le_trans (ih (by omega)) (by omega)
  | case3 low high hlt => exact h

theorem checkedFloor?_eq (key : α → Address) (entries : Array α) (a : Address) :
    checkedFloor? key entries a = some (floor? key entries a) := by
  have hrank : checkedBisect (fun i => (entries[i]?).map (atOrBelow key a)) 0 entries.size =
      some (rank key entries a) := by
    apply checkedBisect_eq
    intro i _ hi
    rw [Array.getElem?_eq_getElem hi]
    rfl
  have hle : rank key entries a ≤ entries.size := bisect_le (Nat.zero_le _)
  rw [checkedFloor?, hrank, floor?]
  cases hcut : rank key entries a with
  | zero => rfl
  | succ n =>
    have hn : n < entries.size := by omega
    simp [Array.getElem?_eq_getElem hn]

end Floor

def LineTable.checkedRowAt? (table : LineTable) (a : Address) : Checked (Option Row) :=
  Floor.checkedFloor? Row.address table.rows a

/-! ## Routines -/

/-- The routine reaches the address, which has to lie behind its start. -/
def Routine.checkedReaches (r : Routine) (a : Address) : Checked Bool :=
  match r.size with
  | none => some true
  | some size => (Word.difference? a r.start).map (· ≤ size)

theorem Routine.checkedReaches_eq {r : Routine} {a : Address} (hle : r.start ≤ a) :
    r.checkedReaches a = some (r.reaches a) := by
  rw [checkedReaches, reaches, Word.difference?_of_le hle]
  cases r.size <;> rfl

namespace RoutineMap

def checkedHolder? (map : RoutineMap) (a : Address) : Checked (Option Routine) := do
  match ← Floor.checkedFloor? Routine.start map.routines a with
  | none => return none
  | some r => return if ← r.checkedReaches a then some r else none

def checkedLabel? (map : RoutineMap) (a : Address) : Checked (Option String) := do
  match ← map.checkedHolder? a with
  | none => return none
  | some r =>
    let offset ← Word.difference? a r.start
    return some (r.name ++ " (" ++ r.image ++ "+" ++ Address.marked offset ++ ")")

theorem checkedHolder?_eq (map : RoutineMap) (a : Address) :
    map.checkedHolder? a = some (map.holder? a) := by
  rw [checkedHolder?, Floor.checkedFloor?_eq, holder?]
  cases hfloor : Floor.floor? Routine.start map.routines a with
  | none => rfl
  | some r =>
    obtain ⟨-, hle⟩ := Floor.of_floor?_eq_some map.ascending hfloor
    simp only [Option.bind_eq_bind, Option.bind_some, Routine.checkedReaches_eq hle, Option.filter]
    rfl

theorem checkedLabel?_eq (map : RoutineMap) (a : Address) :
    map.checkedLabel? a = some (map.label? a) := by
  rw [checkedLabel?, checkedHolder?_eq, label?]
  cases hholder : map.holder? a with
  | none => rfl
  | some r =>
    simp only [Option.bind_eq_bind, Option.bind_some, Word.difference?_of_le (holder?_le hholder)]
    rfl

end RoutineMap

/-! ## Symbols -/

namespace SymbolIndex

def measured (a : Address) (s : Symbol) : Symbol × Word := (s, a - s.value)

/-- The closer of two symbols, the first one where they are as close. The distance of the second is
checked. -/
def closer (a : Address) (best : Option (Symbol × Word)) (s : Symbol) :
    Checked (Option (Symbol × Word)) := do
  let distance ← Word.difference? a s.value
  match best with
  | none => return some (s, distance)
  | some (b, least) => return some (if distance < least then (s, distance) else (b, least))

/-- The symbol that holds an address: of several the one with the least distance. -/
def checkedHolder? (index : SymbolIndex) (a : Address) : Checked (Option Symbol) := do
  let best ← (index.toList.filter (·.holds a)).foldlM (closer a) none
  return best.map Prod.fst

def checkedLabel? (index : SymbolIndex) (a : Address) : Checked (Option String) := do
  match ← index.checkedHolder? a with
  | none => return none
  | some s =>
    let offset ← Word.difference? a s.value
    return some (s.name ++ "+" ++ Address.marked offset)

/-- The first symbol of a name. Its place has to be in the table. -/
def checkedNamed? (index : SymbolIndex) (name : String) : Checked (Option Symbol) :=
  match index.places[trimmedName name]? with
  | none => some none
  | some i => (index.symbols[i]?).map some

variable {index : SymbolIndex} {a : Address}

/-- Of two symbols at or below the address, the one with the greater value is closer. -/
theorem distance_lt_iff {s t : Symbol} (hs : s.value ≤ a) (ht : t.value ≤ a) :
    a - t.value < a - s.value ↔ s.value < t.value := by
  rw [UInt64.le_iff_toNat_le] at hs ht
  rw [UInt64.lt_iff_toNat_lt, UInt64.lt_iff_toNat_lt,
    UInt64.toNat_sub_of_le _ _ (UInt64.le_iff_toNat_le.mpr hs),
    UInt64.toNat_sub_of_le _ _ (UInt64.le_iff_toNat_le.mpr ht)]
  omega

/-- One step by distance is one step by value. -/
theorem closer_eq {best : Option Symbol} {s : Symbol} (hbest : ∀ b ∈ best, b.value ≤ a)
    (hs : s.value ≤ a) :
    closer a (best.map (measured a)) s = some ((later best s).map (measured a)) := by
  rw [closer, Word.difference?_of_le hs]
  cases best with
  | none => rfl
  | some b =>
    have hlt := distance_lt_iff (hbest b rfl) hs
    simp only [Option.map_some, measured, later, Option.bind_eq_bind, Option.bind_some, hlt]
    by_cases h : b.value < s.value
    · simp only [if_pos h]
      rfl
    · simp only [if_neg h]
      rfl

theorem foldlM_closer_eq {symbols : List Symbol} {best : Option Symbol}
    (hbest : ∀ b ∈ best, b.value ≤ a) (hsymbols : ∀ s ∈ symbols, s.value ≤ a) :
    symbols.foldlM (closer a) (best.map (measured a)) =
      some ((symbols.foldl later best).map (measured a)) := by
  induction symbols generalizing best with
  | nil => rfl
  | cons s symbols ih =>
    obtain ⟨hs, hrest⟩ := List.forall_mem_cons.mp hsymbols
    have hlater : ∀ b ∈ later best s, b.value ≤ a := by
      intro b hb
      cases best with
      | none => exact Option.some.inj hb ▸ hs
      | some c =>
        simp only [later] at hb
        split at hb
        · exact Option.some.inj hb ▸ hs
        · exact Option.some.inj hb ▸ hbest c rfl
    rw [List.foldlM_cons, closer_eq hbest hs]
    exact ih hlater hrest

theorem checkedHolder?_eq (index : SymbolIndex) (a : Address) :
    index.checkedHolder? a = some (index.holder? a) := by
  have hbelow : ∀ s ∈ index.toList.filter (·.holds a), s.value ≤ a := by
    intro s hs
    obtain ⟨hle, -⟩ := Symbol.holds_iff.mp (List.mem_filter.mp hs).2
    exact UInt64.le_iff_toNat_le.mpr hle
  have hfold := @foldlM_closer_eq a _ none (by simp) hbelow
  rw [Option.map_none] at hfold
  rw [checkedHolder?, hfold, ← holder?]
  cases index.holder? a <;> rfl

/-- The symbol that holds an address has its value at or below it. -/
theorem holder?_le {s : Symbol} (h : index.holder? a = some s) : s.value ≤ a := by
  obtain ⟨before, after, hsplit, -, -⟩ := isLatest_of_foldl_later h
  have hs : s ∈ index.toList.filter (·.holds a) := by simp [hsplit]
  obtain ⟨hle, -⟩ := Symbol.holds_iff.mp (List.mem_filter.mp hs).2
  exact UInt64.le_iff_toNat_le.mpr hle

theorem checkedLabel?_eq (index : SymbolIndex) (a : Address) :
    index.checkedLabel? a = some ((index.holder? a).map (·.label a)) := by
  rw [checkedLabel?, checkedHolder?_eq]
  cases hholder : index.holder? a with
  | none => rfl
  | some s =>
    simp only [Option.bind_eq_bind, Option.bind_some, Word.difference?_of_le (holder?_le hholder)]
    rfl

theorem checkedNamed?_eq {symbols : List Symbol} (h : index.Indexes symbols) (name : String) :
    index.checkedNamed? name = some (index.named? name) := by
  rw [checkedNamed?, named?]
  cases hplace : index.places[trimmedName name]? with
  | none => rfl
  | some i =>
    obtain ⟨hi, -⟩ := h.places_eq_some_iff.mp hplace
    have hentry : index.symbols[i]? = some index.symbols[i] := Array.getElem?_eq_getElem hi
    simp only [Option.bind_some, hentry, Option.map_some]

/-- The index of a binary is that of some symbols. -/
theorem exists_ofList_of_ofBinary {files : Files} {path : String}
    (h : (ofBinary files path).result = .ok index) : ∃ symbols, index = ofList symbols := by
  have hsteps := h
  rw [ofBinary, Loading.result_bind_eq_ok_iff] at hsteps
  obtain ⟨bytes, hbytes, -⟩ := hsteps
  rw [result_ofBinary (Loading.result_content_eq_ok_iff.mp hbytes)] at h
  cases hread : Elf.ObjectFile.read? bytes with
  | none =>
    rw [hread] at h
    cases h
  | some file =>
    rw [hread] at h
    exact ⟨_, (Except.ok.inj h).symm⟩

end SymbolIndex

/-! ## Resolving -/

/-- A result is the exact sum of the symbol's value and the offset, which a word holds. -/
theorem Resolver.staticOf_eq_ok_iff {resolver : Resolver} {a address : Address} :
    resolver.staticOf a = .ok address ↔ ∃ r s, ∃ offset : Nat,
      resolver.routineHolding a = some r ∧ r.start.toNat + offset = a.toNat ∧
      resolver.symbolNamed r.name = some s ∧ address.toNat = s.value.toNat + offset := by
  rw [staticOf_eq_iff]
  constructor
  · intro h
    cases h with
    | ok hholds hoffset hnamed hsum => exact ⟨_, _, _, hholds, hoffset, hnamed, hsum⟩
  · rintro ⟨r, s, offset, hholds, hoffset, hnamed, hsum⟩
    have hword := a.toNat_lt_size
    have hsame : (UInt64.ofNat offset).toNat = offset := UInt64.toNat_ofNat_of_lt' (by omega)
    exact .ok hholds (by rw [hsame, hoffset]) hnamed (by rw [hsame, hsum])

/-- Every look-up comes to the same with each of its steps checked: rows and routines are searched
within their tables, no start and no value is subtracted from an address below it, and the place of
a name is in its table. A routine map never gives a routine that starts above the address. Where
another registry does, and only there, this is reported, and before the name is looked up. What a
resolver gives for an address is one of the results that `Resolver.Rebases` lists, with sums and
differences as numbers. -/
theorem steps_never_fail :
    (∀ (lines : LineTable) (a : Address), lines.checkedRowAt? a = some (lines.rowAt? a)) ∧
    (∀ (map : RoutineMap) (a : Address), map.checkedHolder? a = some (map.holder? a) ∧
      map.checkedLabel? a = some (map.label? a)) ∧
    (∀ (lines : LineTable) (index : SymbolIndex) (a : Address),
      index.checkedHolder? a = some (index.holder? a) ∧
        index.checkedLabel? a = some ((Engine.static lines (some index)).label? a)) ∧
    (∀ index : SymbolIndex, ((∃ symbols, index = .ofList symbols) ∨
        ∃ files path, (SymbolIndex.ofBinary files path).result = .ok index) →
      ∀ name, index.checkedNamed? name = some (index.named? name)) ∧
    (∀ (map : RoutineMap) (lines : LineTable) (symbolNamed : String → Option Symbol)
      (a b start : Address) (name : String),
      Resolver.staticOf ⟨lines, symbolNamed, map.holder?⟩ a ≠
          .error (.offsetUnderflow b name start) ∧
        Resolver.lookUp ⟨lines, symbolNamed, map.holder?⟩ a ≠
          .error (.offsetUnderflow b name start)) ∧
    ∀ (resolver : Resolver) (a : Address),
      (∀ result, resolver.staticOf a = result ↔ resolver.Rebases a result) ∧
      (∀ (b start : Address) (name : String),
        resolver.staticOf a = .error (.offsetUnderflow b name start) ↔
          ∃ r, resolver.routineHolding a = some r ∧ a < r.start ∧
            b = a ∧ name = r.name ∧ start = r.start) ∧
      (∀ r, resolver.routineHolding a = some r → a < r.start → ∀ symbolNamed,
        { resolver with symbolNamed }.rebase a = resolver.rebase a) ∧
      ∀ address : Address, resolver.staticOf a = .ok address ↔ ∃ r s, ∃ offset : Nat,
        resolver.routineHolding a = some r ∧ r.start.toNat + offset = a.toNat ∧
        resolver.symbolNamed r.name = some s ∧ address.toNat = s.value.toNat + offset := by
  refine ⟨fun lines a => Floor.checkedFloor?_eq Row.address lines.rows a,
    fun map a => ⟨map.checkedHolder?_eq a, map.checkedLabel?_eq a⟩,
    fun lines index a => ⟨index.checkedHolder?_eq a, index.checkedLabel?_eq a⟩, ?_, ?_, ?_⟩
  · intro index hindex name
    have hlist : ∃ symbols, index = SymbolIndex.ofList symbols := by
      rcases hindex with hlist | ⟨files, path, hbinary⟩
      · exact hlist
      · exact SymbolIndex.exists_ofList_of_ofBinary hbinary
    obtain ⟨symbols, rfl⟩ := hlist
    exact SymbolIndex.checkedNamed?_eq (SymbolIndex.ofList_indexes symbols) name
  · intro map lines symbolNamed a b start name
    have hle : ∀ r, map.holder? a = some r → r.start ≤ a := fun r => RoutineMap.holder?_le
    exact ⟨Resolver.staticOf_ne_offsetUnderflow hle b name start,
      Resolver.lookUp_ne_offsetUnderflow hle b name start⟩
  · intro resolver a
    refine ⟨fun result => Resolver.staticOf_eq_iff,
      fun b start name => Resolver.staticOf_eq_offsetUnderflow_iff, ?_,
      fun address => Resolver.staticOf_eq_ok_iff⟩
    intro r hholds hlt symbolNamed
    have hbelow := Word.difference?_eq_none_iff.mpr hlt
    simp only [Resolver.rebase, hholds, hbelow]

/-- A registry that gives one routine for every address. A low address is refused although the name
is unknown, and the highest sum is still a result. -/
theorem steps_never_fail_misplaced :
    let misplaced : Address → Option Routine := fun _ => some ⟨"f", "m", 0x2000, none⟩
    Resolver.staticOf ⟨.ofRows [], fun _ => none, misplaced⟩ 0x1000 =
        .error (.offsetUnderflow 0x1000 "f" 0x2000) ∧
      Resolver.staticOf ⟨.ofRows [], fun _ => some ⟨"f", 0xffffffffffffff00, 0⟩, misplaced⟩
        0x20ff = .ok 0xffffffffffffffff ∧
      (SymbolIndex.ofList [⟨" f ", 0x10, 4⟩]).checkedNamed? "f" =
        some ((SymbolIndex.ofList [⟨" f ", 0x10, 4⟩]).named? "f") := by
  intro misplaced
  obtain ⟨-, -, -, hnamed, -, hresolves⟩ := steps_never_fail
  refine ⟨?_, ?_, hnamed _ (.inl ⟨_, rfl⟩) "f"⟩
  · obtain ⟨-, hunderflow, -⟩ := hresolves ⟨.ofRows [], fun _ => none, misplaced⟩ 0x1000
    exact (hunderflow _ _ _).mpr ⟨_, rfl, by decide, rfl, rfl, rfl⟩
  · obtain ⟨-, -, -, hok⟩ := hresolves
      ⟨.ofRows [], fun _ => some ⟨"f", 0xffffffffffffff00, 0⟩, misplaced⟩ 0x20ff
    exact (hok _).mpr ⟨_, _, 0xff, rfl, by decide, rfl, by decide⟩

end Symbolication
