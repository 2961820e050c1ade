import Symbolication.Proofs.Floors
import Symbolication.Proofs.NameIndex
import Symbolication.Resolver

/-! What a resolver answers, said over the lists from which its tables are built. Nothing is sorted,
searched or hashed here, and addresses are added and subtracted as numbers. -/

namespace Symbolication

namespace Word

theorem difference?_of_le {a b : Word} (h : b ≤ a) : difference? a b = some (a - b) :=
  if_pos h

end Word

/-- As numbers, the address lies no farther from the start than the size. -/
theorem Routine.reaches_iff {r : Routine} {a : Address} (h : r.start ≤ a) :
    r.reaches a = r.size.all fun size => a.toNat - r.start.toNat ≤ size.toNat := by
  simp only [reaches, UInt64.le_iff_toNat_le, UInt64.toNat_sub_of_le _ _ h]

namespace LineTable

variable {table : LineTable} {a : Address}

theorem lookUp_eq_ok_iff {row : Row} : table.lookUp a = .ok row ↔ table.rowAt? a = some row := by
  rw [lookUp]
  cases table.rowAt? a <;> simp

theorem lookUp_eq_error_iff {miss : Miss} :
    table.lookUp a = .error miss ↔ table.rowAt? a = none ∧ miss = .noLineInfo a := by
  rw [lookUp]
  cases table.rowAt? a <;> simp [eq_comm]

end LineTable

namespace Resolver

variable {resolver : Resolver} {a : Address}

theorem staticOf_of_none (h : resolver.routineHolding a = none) :
    resolver.staticOf a = .error (.noRoutine a) := by
  simp [staticOf, rebase, h]

/-- The name of a routine that starts above the address is not looked up. -/
theorem staticOf_of_lt_start {r : Routine} (h : resolver.routineHolding a = some r)
    (hlt : a < r.start) : resolver.staticOf a = .error (.offsetUnderflow a r.name r.start) := by
  simp [staticOf, rebase, h, Word.difference?_eq_none_iff.mpr hlt]

/-- With a routine that starts at or below the address, only its name can be unknown and only the
sum can be too large. -/
theorem staticOf_of_start_le {r : Routine} (h : resolver.routineHolding a = some r)
    (hle : r.start ≤ a) :
    resolver.staticOf a =
      match resolver.symbolNamed r.name with
      | none => .error (.unknownSymbol r.name)
      | some s =>
        match Word.sum? s.value (a - r.start) with
        | none => .error (.addressOverflow r.name (a - r.start))
        | some address => .ok address := by
  simp only [staticOf, rebase, h, Word.difference?_of_le hle]
  cases resolver.symbolNamed r.name with
  | none => rfl
  | some s =>
    simp only
    cases Word.sum? s.value (a - r.start) <;> rfl

/-- With a symbol of the routine's name, the address is the sum of the value and the offset as
numbers, if a word holds it. -/
theorem staticOf_of_symbolNamed {r : Routine} {s : Symbol} (h : resolver.routineHolding a = some r)
    (hle : r.start ≤ a) (hs : resolver.symbolNamed r.name = some s) :
    resolver.staticOf a =
      if s.value.toNat + (a.toNat - r.start.toNat) < UInt64.size then
        .ok (UInt64.ofNat (s.value.toNat + (a.toNat - r.start.toNat)))
      else .error (.addressOverflow r.name (a - r.start)) := by
  rw [staticOf_of_start_le h hle, hs]
  simp only [Word.sum?, Word.ofNat?, UInt64.toNat_sub_of_le _ _ hle]
  by_cases hlt : s.value.toNat + (a.toNat - r.start.toNat) < UInt64.size
  · simp only [if_pos hlt]
  · simp only [if_neg hlt]

/-- How a runtime address is taken back, or why it cannot be. The offset of the address into its
routine and the sum of the offset and the symbol's value are numbers of any length. -/
inductive Rebases (resolver : Resolver) (a : Address) : Except Miss Address → Prop
  | noRoutine (hnone : resolver.routineHolding a = none) :
    Rebases resolver a (.error (.noRoutine a))
  | offsetUnderflow {r : Routine} (hholds : resolver.routineHolding a = some r)
    (hlt : a < r.start) : Rebases resolver a (.error (.offsetUnderflow a r.name r.start))
  | unknownSymbol {r : Routine} {offset : Word} (hholds : resolver.routineHolding a = some r)
    (hoffset : r.start.toNat + offset.toNat = a.toNat)
    (hunknown : resolver.symbolNamed r.name = none) :
    Rebases resolver a (.error (.unknownSymbol r.name))
  | addressOverflow {r : Routine} {s : Symbol} {offset : Word}
    (hholds : resolver.routineHolding a = some r)
    (hoffset : r.start.toNat + offset.toNat = a.toNat)
    (hnamed : resolver.symbolNamed r.name = some s)
    (hsum : UInt64.size ≤ s.value.toNat + offset.toNat) :
    Rebases resolver a (.error (.addressOverflow r.name offset))
  | ok {r : Routine} {s : Symbol} {offset address : Word}
    (hholds : resolver.routineHolding a = some r)
    (hoffset : r.start.toNat + offset.toNat = a.toNat)
    (hnamed : resolver.symbolNamed r.name = some s)
    (hsum : address.toNat = s.value.toNat + offset.toNat) : Rebases resolver a (.ok address)

theorem rebases_staticOf (resolver : Resolver) (a : Address) :
    resolver.Rebases a (resolver.staticOf a) := by
  cases hholds : resolver.routineHolding a with
  | none => exact staticOf_of_none hholds ▸ .noRoutine hholds
  | some r =>
    by_cases hlt : a < r.start
    · exact staticOf_of_lt_start hholds hlt ▸ .offsetUnderflow hholds hlt
    · have hle : r.start ≤ a := UInt64.not_lt.mp hlt
      have hoffset : r.start.toNat + (a - r.start).toNat = a.toNat :=
        Word.difference?_eq_some_iff.mp (Word.difference?_of_le hle)
      rw [staticOf_of_start_le hholds hle]
      cases hnamed : resolver.symbolNamed r.name with
      | none => exact .unknownSymbol hholds hoffset hnamed
      | some s =>
        simp only
        cases hsum : Word.sum? s.value (a - r.start) with
        | none => exact .addressOverflow hholds hoffset hnamed (Word.sum?_eq_none_iff.mp hsum)
        | some address => exact .ok hholds hoffset hnamed (Word.sum?_eq_some_iff.mp hsum)

theorem Rebases.staticOf_eq {result : Except Miss Address} (h : resolver.Rebases a result) :
    resolver.staticOf a = result := by
  cases h with
  | noRoutine hnone => exact staticOf_of_none hnone
  | offsetUnderflow hholds hlt => exact staticOf_of_lt_start hholds hlt
  | unknownSymbol hholds hoffset hunknown =>
    simp [staticOf, rebase, hholds, Word.difference?_eq_some_iff.mpr hoffset, hunknown]
  | addressOverflow hholds hoffset hnamed hsum =>
    simp [staticOf, rebase, hholds, Word.difference?_eq_some_iff.mpr hoffset, hnamed,
      Word.sum?_eq_none_iff.mpr hsum]
  | ok hholds hoffset hnamed hsum =>
    simp [staticOf, rebase, hholds, Word.difference?_eq_some_iff.mpr hoffset, hnamed,
      Word.sum?_eq_some_iff.mpr hsum]

/-- An address is taken back in one way. -/
theorem staticOf_eq_iff {result : Except Miss Address} :
    resolver.staticOf a = result ↔ resolver.Rebases a result := by
  constructor
  · rintro rfl
    exact rebases_staticOf resolver a
  · exact Rebases.staticOf_eq

theorem lookUp_of_ok {address : Address} (h : resolver.staticOf a = .ok address) :
    resolver.lookUp a = resolver.lines.lookUp address := by
  simp [lookUp, h, bind, Except.bind]

theorem lookUp_of_error {miss : Miss} (h : resolver.staticOf a = .error miss) :
    resolver.lookUp a = .error miss := by
  simp [lookUp, h, bind, Except.bind]

/-- Every miss but the last comes from taking the address back. -/
theorem lookUp_eq_error_iff {miss : Miss} (hmiss : ∀ b, miss ≠ .noLineInfo b) :
    resolver.lookUp a = .error miss ↔ resolver.staticOf a = .error miss := by
  cases hs : resolver.staticOf a with
  | error other =>
    rw [lookUp_of_error hs]
    simp
  | ok address =>
    rw [lookUp_of_ok hs, LineTable.lookUp_eq_error_iff]
    simp [hmiss address]

theorem staticOf_eq_noRoutine_iff {b : Address} :
    resolver.staticOf a = .error (.noRoutine b) ↔ resolver.routineHolding a = none ∧ b = a := by
  rw [staticOf_eq_iff]
  constructor
  · intro h
    cases h with
    | noRoutine hnone => exact ⟨hnone, rfl⟩
  · rintro ⟨hnone, rfl⟩
    exact .noRoutine hnone

theorem lookUp_eq_noRoutine_iff {b : Address} :
    resolver.lookUp a = .error (.noRoutine b) ↔ resolver.routineHolding a = none ∧ b = a := by
  rw [lookUp_eq_error_iff (by simp), staticOf_eq_noRoutine_iff]

theorem staticOf_eq_offsetUnderflow_iff {b start : Address} {name : String} :
    resolver.staticOf a = .error (.offsetUnderflow b name start) ↔
      ∃ r, resolver.routineHolding a = some r ∧ a < r.start ∧
        b = a ∧ name = r.name ∧ start = r.start := by
  rw [staticOf_eq_iff]
  constructor
  · intro h
    cases h with
    | offsetUnderflow hholds hlt => exact ⟨_, hholds, hlt, rfl, rfl, rfl⟩
  · rintro ⟨r, hholds, hlt, rfl, rfl, rfl⟩
    exact .offsetUnderflow hholds hlt

theorem staticOf_ne_offsetUnderflow
    (h : ∀ r, resolver.routineHolding a = some r → r.start ≤ a) (b : Address) (name : String)
    (start : Address) : resolver.staticOf a ≠ .error (.offsetUnderflow b name start) := by
  intro hstatic
  obtain ⟨r, hholds, hlt, -⟩ := staticOf_eq_offsetUnderflow_iff.mp hstatic
  exact UInt64.not_le.mpr hlt (h r hholds)

/-- Routines that start at or below the addresses they hold leave no offset negative. -/
theorem lookUp_ne_offsetUnderflow
    (h : ∀ r, resolver.routineHolding a = some r → r.start ≤ a) (b : Address) (name : String)
    (start : Address) : resolver.lookUp a ≠ .error (.offsetUnderflow b name start) := by
  rw [ne_eq, lookUp_eq_error_iff (by simp)]
  exact staticOf_ne_offsetUnderflow h b name start

end Resolver

/-! ## The scans -/

/-- The lists from which the tables of a resolver are built, in any order. -/
structure Listing where
  rows : List Row
  symbols : List Symbol
  routines : List Routine

namespace Listing

def resolver (listing : Listing) : Resolver :=
  .ofTables (.ofRows listing.rows) (.ofList listing.symbols) (.ofList listing.routines)

/-- The first routine among those with the greatest start at or below an address. It is refused if
it has a size and the address lies farther from its start. -/
def routineAt? (listing : Listing) (a : Address) : Option Routine :=
  (Floor.floors Routine.start listing.routines a).head?.filter fun r =>
    r.size.all fun size => a.toNat - r.start.toNat ≤ size.toNat

/-- The first symbol of a name. -/
def symbolOf? (listing : Listing) (name : String) : Option Symbol :=
  listing.symbols.find? fun s => trimmedName s.name = trimmedName name

/-- The last row among those with the greatest address at or below a static address. -/
def rowAt? (listing : Listing) (a : Address) : Option Row :=
  (Floor.floors Row.address listing.rows a).getLast?

/-- The static address of a runtime address, computed over the numbers. -/
def staticOf (listing : Listing) (a : Address) : Except Miss Address :=
  match listing.routineAt? a with
  | none => .error (.noRoutine a)
  | some r =>
    let offset := a.toNat - r.start.toNat
    match listing.symbolOf? r.name with
    | none => .error (.unknownSymbol r.name)
    | some s =>
      let address := s.value.toNat + offset
      if address < UInt64.size then .ok (UInt64.ofNat address)
      else .error (.addressOverflow r.name (UInt64.ofNat offset))

def lookUp (listing : Listing) (a : Address) : Except Miss Row :=
  match listing.staticOf a with
  | .error miss => .error miss
  | .ok address =>
    match listing.rowAt? address with
    | none => .error (.noLineInfo address)
    | some row => .ok row

theorem routineHolding_resolver (listing : Listing) (a : Address) :
    listing.resolver.routineHolding a = listing.routineAt? a := by
  change (RoutineMap.ofList listing.routines).holder? a = _
  rw [RoutineMap.holder?_ofList, routineAt?]
  cases hhead : (Floor.floors Routine.start listing.routines a).head? with
  | none => rfl
  | some r =>
    have hle : r.start ≤ a := (Floor.mem_floors_iff.mp (List.mem_of_head? hhead)).2.1
    simp only [Option.filter_some, Routine.reaches_iff hle]

theorem start_le_of_routineAt? {listing : Listing} {a : Address} {r : Routine}
    (h : listing.routineAt? a = some r) : r.start ≤ a := by
  rw [← routineHolding_resolver] at h
  exact RoutineMap.holder?_le h

theorem symbolNamed_resolver (listing : Listing) (name : String) :
    listing.resolver.symbolNamed name = (listing.symbolOf? name).map Symbol.trimmed :=
  SymbolIndex.named?_ofList listing.symbols name

theorem staticOf_resolver (listing : Listing) (a : Address) :
    listing.resolver.staticOf a = listing.staticOf a := by
  rw [staticOf]
  cases hr : listing.routineAt? a with
  | none => exact Resolver.staticOf_of_none (by rw [routineHolding_resolver, hr])
  | some r =>
    have hle := start_le_of_routineAt? hr
    have hheld : listing.resolver.routineHolding a = some r := by rw [routineHolding_resolver, hr]
    have hoffset : UInt64.ofNat (a.toNat - r.start.toNat) = a - r.start := by
      rw [← UInt64.toNat_sub_of_le _ _ hle, UInt64.ofNat_toNat]
    cases hs : listing.symbolOf? r.name with
    | none =>
      simp only [Resolver.staticOf_of_start_le hheld hle, symbolNamed_resolver, hs, Option.map_none]
    | some s =>
      have hnamed : listing.resolver.symbolNamed r.name = some s.trimmed := by
        rw [symbolNamed_resolver, hs]
        rfl
      rw [Resolver.staticOf_of_symbolNamed hheld hle hnamed, ← hoffset]
      simp only [hs, Symbol.trimmed]
      rfl

theorem lookUp_resolver (listing : Listing) (a : Address) :
    listing.resolver.lookUp a = listing.lookUp a := by
  rw [lookUp, ← staticOf_resolver]
  cases hs : listing.resolver.staticOf a with
  | error miss => rw [Resolver.lookUp_of_error hs]
  | ok address =>
    have hrow := LineTable.rowAt?_ofRows listing.rows address
    rw [Resolver.lookUp_of_ok hs]
    simp only [LineTable.lookUp, rowAt?, ← hrow]
    cases hfound : (LineTable.ofRows listing.rows).rowAt? address <;>
      simp [resolver, Resolver.ofTables, hfound]

end Listing

/-- A resolver answers as the scans of the lists from which it was built, whatever their order. Its
routines never start above the address. -/
theorem Resolver.lookUp_eq_scan (listing : Listing) (a : Address) :
    listing.resolver.lookUp a = listing.lookUp a ∧
      listing.resolver.row? a = (listing.lookUp a).toOption ∧
      ∀ (b : Address) (name : String) (start : Address),
        listing.resolver.lookUp a ≠ .error (.offsetUnderflow b name start) := by
  have hlookUp := listing.lookUp_resolver a
  refine ⟨hlookUp, by rw [row?, hlookUp], lookUp_ne_offsetUnderflow fun r hr => ?_⟩
  rw [Listing.routineHolding_resolver] at hr
  exact Listing.start_le_of_routineAt? hr

end Symbolication
