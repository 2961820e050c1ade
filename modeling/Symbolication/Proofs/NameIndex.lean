import Mathlib.Data.List.Induction
import Symbolication.SymbolIndex

namespace Symbolication

def Symbol.trimmed (s : Symbol) : Symbol := { s with name := trimmedName s.name }

/-- The symbol goes by the name, blanks around either apart. -/
def Symbol.goesBy (name : String) (s : Symbol) : Bool := trimmedName s.name = trimmedName name

namespace SymbolIndex

/-- The index holds these symbols in this order, and the first place of each of their names. -/
structure Indexes (index : SymbolIndex) (symbols : List Symbol) : Prop where
  toList_eq : index.toList = symbols.map Symbol.trimmed
  places_eq : ∀ name : String,
    index.places[name]? = symbols.findIdx? fun s => trimmedName s.name = name

theorem Indexes.size_eq {index : SymbolIndex} {symbols : List Symbol} (h : index.Indexes symbols) :
    index.size = symbols.length := by
  simpa [toList, size] using congrArg List.length h.toList_eq

theorem empty_indexes : empty.Indexes [] := ⟨rfl, fun name => by simp [empty]⟩

/-- A name that has a place keeps it. -/
theorem getElem?_places_insertIfNew (places : Std.HashMap String Nat) (name other : String)
    (place : Nat) :
    (places.insertIfNew name place)[other]? =
      places[other]?.or (if name = other then some place else none) := by
  rw [Std.HashMap.getElem?_insertIfNew]
  by_cases hname : name = other
  · subst hname
    cases hplace : places[name]? with
    | none =>
      have : name ∉ places := by
        rw [Std.HashMap.mem_iff_isSome_getElem?, hplace]
        simp
      simp [this]
    | some i =>
      have : name ∈ places := by
        rw [Std.HashMap.mem_iff_isSome_getElem?, hplace]
        rfl
      simp [this]
  · simp [hname]

theorem push_indexes {index : SymbolIndex} {symbols : List Symbol} (h : index.Indexes symbols)
    (s : Symbol) : (index.push s).Indexes (symbols ++ [s]) := by
  refine ⟨?_, fun name => ?_⟩
  · have := h.toList_eq
    simp only [toList] at this
    simp [toList, push, this, Symbol.trimmed]
  · have hsize : index.symbols.size = symbols.length := h.size_eq
    rw [push, getElem?_places_insertIfNew, h.places_eq, List.findIdx?_append, hsize]
    congr 1
    by_cases hname : trimmedName s.name = name <;> simp [hname]

theorem ofList_indexes (symbols : List Symbol) : (ofList symbols).Indexes symbols := by
  induction symbols using List.reverseRecOn with
  | nil => exact empty_indexes
  | append_singleton symbols s ih =>
    rw [ofList, List.foldl_append]
    exact push_indexes ih s

/-- A name finds the first symbol that was given under it. -/
theorem named?_ofList (symbols : List Symbol) (name : String) :
    (ofList symbols).named? name = (symbols.find? (·.goesBy name)).map Symbol.trimmed := by
  have h := ofList_indexes symbols
  have hplace (i : Nat) : (ofList symbols).symbols[i]? = symbols[i]?.map Symbol.trimmed := by
    rw [← List.getElem?_map, ← h.toList_eq, toList, Array.getElem?_toList]
  rw [named?, h.places_eq, List.find?_eq_bind_findIdx?_getElem?, Option.map_bind]
  simp only [hplace]
  rfl

/-! ## The index exactly -/

section Exact

variable {index : SymbolIndex} {symbols : List Symbol} {name : String}

theorem Indexes.mem_places_iff (h : index.Indexes symbols) :
    name ∈ index.places ↔ ∃ s ∈ symbols, trimmedName s.name = name := by
  rw [Std.HashMap.mem_iff_isSome_getElem?, h.places_eq, List.findIdx?_isSome]
  simp

/-- Where an entry stands, it has the trimmed name of the symbol that was given there. -/
theorem Indexes.map_name_getElem? (h : index.Indexes symbols) (i : Nat) :
    (index.toList[i]?).map Symbol.name = (symbols[i]?).map fun s => trimmedName s.name := by
  rw [h.toList_eq, List.getElem?_map, Option.map_map]
  rfl

/-- The place of a name is the first at which it stands. -/
theorem Indexes.places_eq_some_iff (h : index.Indexes symbols) {i : Nat} :
    index.places[name]? = some i ↔ i < index.size ∧
      (index.toList[i]?).map Symbol.name = some name ∧
      ∀ j < i, (index.toList[j]?).map Symbol.name ≠ some name := by
  simp only [h.map_name_getElem?, h.size_eq, h.places_eq, List.findIdx?_eq_some_iff_getElem]
  constructor
  · rintro ⟨hi, hname, hleast⟩
    refine ⟨hi, by simpa [hi] using hname, fun j hj => ?_⟩
    have hlt : j < symbols.length := Nat.lt_trans hj hi
    simpa [hlt] using hleast j hj
  · rintro ⟨hi, hname, hleast⟩
    refine ⟨hi, by simpa [hi] using hname, fun j hj => ?_⟩
    have hlt : j < symbols.length := Nat.lt_trans hj hi
    simpa [hlt] using hleast j hj

theorem named?_eq_some_iff {s : Symbol} : (ofList symbols).named? name = some s ↔
    ∃ before t after, symbols = before ++ t :: after ∧ t.goesBy name = true ∧
      (∀ u ∈ before, u.goesBy name = false) ∧ s = t.trimmed := by
  rw [named?_ofList, Option.map_eq_some_iff]
  simp only [List.find?_eq_some_iff_append, Bool.not_eq_true']
  constructor
  · rintro ⟨t, ⟨ht, before, after, hsymbols, hbefore⟩, hs⟩
    exact ⟨before, t, after, hsymbols, ht, hbefore, hs.symm⟩
  · rintro ⟨before, t, after, hsymbols, ht, hbefore, hs⟩
    exact ⟨t, ⟨ht, before, after, hsymbols, hbefore⟩, hs.symm⟩

theorem named?_eq_none_iff :
    (ofList symbols).named? name = none ↔ ∀ s ∈ symbols, s.goesBy name = false := by
  rw [named?_ofList, Option.map_eq_none_iff, List.find?_eq_none]
  simp only [Bool.not_eq_true]

end Exact

/-- An index has an entry for each symbol, in order and under its trimmed name. The keys of its map
are these names and no others, and each leads to the first entry of the name. So a name, which is
trimmed too, finds the first symbol that goes by it, with the value and the size of that symbol, and
finds nothing only where no symbol does. -/
theorem ofList_exact (symbols : List Symbol) :
    (ofList symbols).toList = symbols.map (fun s => ⟨trimmedName s.name, s.value, s.size⟩) ∧
    (∀ name, name ∈ (ofList symbols).places ↔ ∃ s ∈ symbols, trimmedName s.name = name) ∧
    (∀ name i, (ofList symbols).places[name]? = some i ↔ i < (ofList symbols).size ∧
      ((ofList symbols).toList[i]?).map Symbol.name = some name ∧
      ∀ j < i, ((ofList symbols).toList[j]?).map Symbol.name ≠ some name) ∧
    ∀ name, (∀ s, (ofList symbols).named? name = some s ↔ ∃ before t after,
        symbols = before ++ t :: after ∧ trimmedName t.name = trimmedName name ∧
          (∀ u ∈ before, trimmedName u.name ≠ trimmedName name) ∧
          s = ⟨trimmedName t.name, t.value, t.size⟩) ∧
      ((ofList symbols).named? name = none ↔
        ∀ s ∈ symbols, trimmedName s.name ≠ trimmedName name) := by
  have h := ofList_indexes symbols
  refine ⟨h.toList_eq, fun name => h.mem_places_iff, fun name i => h.places_eq_some_iff,
    fun name => ⟨fun s => ?_, ?_⟩⟩
  · simpa only [Symbol.goesBy, Symbol.trimmed, decide_eq_true_eq, decide_eq_false_iff_not] using
      named?_eq_some_iff
  · simpa only [Symbol.goesBy, decide_eq_false_iff_not] using named?_eq_none_iff

end SymbolIndex

end Symbolication
