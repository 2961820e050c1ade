import Symbolication.Engine
import Symbolication.Proofs.Resolution

/-! Two runs of one binary differ in where its routines were loaded. Names carry an address from one
run to the other, and from any run back to the binary. -/

namespace Symbolication

def Routine.moved (d : Word) (r : Routine) : Routine := { r with start := r.start + d }

namespace Word

theorem toNat_add_of_lt {a d : Word} (h : a.toNat + d.toNat < UInt64.size) :
    (a + d).toNat = a.toNat + d.toNat := by
  rw [UInt64.toNat_add, Nat.mod_eq_of_lt h]

theorem add_le_add_iff {a b d : Word} (ha : a.toNat + d.toNat < UInt64.size)
    (hb : b.toNat + d.toNat < UInt64.size) : a + d ≤ b + d ↔ a ≤ b := by
  rw [UInt64.le_iff_toNat_le, UInt64.le_iff_toNat_le, toNat_add_of_lt ha, toNat_add_of_lt hb]
  omega

theorem add_sub_add (a b d : Word) : a + d - (b + d) = a - b := by grind

end Word

namespace Floor

/-- Keys keep their order when all of them are moved and none leaves its 64 bits. -/
theorem isGreatest_map_add {keys : List Address} {a k d : Word}
    (hkeys : ∀ l ∈ keys, l.toNat + d.toNat < UInt64.size) (ha : a.toNat + d.toNat < UInt64.size)
    (hk : k ∈ keys) : isGreatest (keys.map (· + d)) (a + d) (k + d) = isGreatest keys a k := by
  have hk := hkeys k hk
  rw [Bool.eq_iff_iff, isGreatest_iff, isGreatest_iff, Word.add_le_add_iff hk ha,
    List.forall_mem_map]
  refine and_congr_right fun _ => forall₂_congr fun l hl => ?_
  rw [Word.add_le_add_iff (hkeys l hl) ha, Word.add_le_add_iff (hkeys l hl) hk]

theorem floors_map_moved {routines : List Routine} {a d : Word}
    (hroutines : ∀ r ∈ routines, r.start.toNat + d.toNat < UInt64.size)
    (ha : a.toNat + d.toNat < UInt64.size) :
    floors Routine.start (routines.map (Routine.moved d)) (a + d) =
      (floors Routine.start routines a).map (Routine.moved d) := by
  have hkeys : (routines.map (Routine.moved d)).map Routine.start =
      (routines.map Routine.start).map (· + d) := by
    simp [Routine.moved]
  rw [floors, floors, List.filter_map, hkeys]
  congr 1
  apply List.filter_congr
  intro r hr
  exact isGreatest_map_add (List.forall_mem_map.mpr hroutines) ha (List.mem_map_of_mem hr)

end Floor

namespace RoutineMap

variable {routines : List Routine} {a d : Word}

theorem holder?_moved (hroutines : ∀ r ∈ routines, r.start.toNat + d.toNat < UInt64.size)
    (ha : a.toNat + d.toNat < UInt64.size) :
    (ofList (routines.map (Routine.moved d))).holder? (a + d) =
      ((ofList routines).holder? a).map (Routine.moved d) := by
  rw [holder?_ofList, holder?_ofList, Floor.floors_map_moved hroutines ha, List.head?_map,
    Option.filter_map]
  have hreaches : ((·.reaches (a + d)) ∘ Routine.moved d) = (·.reaches a) := by
    funext r
    simp only [Function.comp_apply, Routine.reaches, Routine.moved, Word.add_sub_add]
  rw [hreaches]

theorem label?_moved (hroutines : ∀ r ∈ routines, r.start.toNat + d.toNat < UInt64.size)
    (ha : a.toNat + d.toNat < UInt64.size) :
    (ofList (routines.map (Routine.moved d))).label? (a + d) = (ofList routines).label? a := by
  rw [label?, label?, holder?_moved hroutines ha, Option.map_map]
  congr 1
  funext r
  simp only [Function.comp_apply, Routine.moved, Word.add_sub_add]

theorem mem_of_holder?_ofList {r : Routine} (h : (ofList routines).holder? a = some r) :
    r ∈ routines :=
  mem_of_mem_toList_ofList (mem_of_holder? h)

end RoutineMap

/-! ## Two runs -/

/-- Two routines of one start, the first with a size, and a routine inside it. -/
def nestedRoutines : List Routine := [
  ⟨"inner ", "/bin/t", 0x401010, some 8⟩,
  ⟨"main", "/bin/t", 0x401000, some 0x40⟩,
  ⟨" main", "/bin/t", 0x401000, none⟩]

/-- The rows and the symbols of their binary. -/
def nestedRows : List Row := [⟨"/src", "inner.c", 0x1010, 9⟩, ⟨"/src", "main.c", 0x1000, 7⟩]

def nestedSymbols : List Symbol := [
  ⟨" main", 0x1000, 0x40⟩, ⟨"main ", 0x1000, 0⟩, ⟨"inner", 0x1010, 8⟩]

/-- The miss of a query that is moved. All other fields of a miss say the same in every run. -/
def Miss.moved (d : Word) : Miss → Miss
  | .noRoutine a => .noRoutine (a + d)
  | miss => miss

theorem Miss.moved_eq_noRoutine_iff {miss : Miss} {a d : Word} :
    miss.moved d = .noRoutine (a + d) ↔ miss = .noRoutine a := by
  cases miss <;> simp [Miss.moved]

namespace Resolver

/-- The resolver of a run, given where its routines start. -/
def ofRun (lines : LineTable) (symbolNamed : String → Option Symbol) (routines : List Routine) :
    Resolver :=
  ⟨lines, symbolNamed, (RoutineMap.ofList routines).holder?⟩

variable {lines : LineTable} {symbolNamed : String → Option Symbol} {routines : List Routine}
  {a d : Word}

theorem staticOf_moved (hroutines : ∀ r ∈ routines, r.start.toNat + d.toNat < UInt64.size)
    (ha : a.toNat + d.toNat < UInt64.size) :
    (ofRun lines symbolNamed (routines.map (Routine.moved d))).staticOf (a + d) =
      ((ofRun lines symbolNamed routines).staticOf a).mapError (Miss.moved d) := by
  have hmoved : (ofRun lines symbolNamed (routines.map (Routine.moved d))).routineHolding (a + d) =
      ((ofRun lines symbolNamed routines).routineHolding a).map (Routine.moved d) :=
    RoutineMap.holder?_moved hroutines ha
  cases hr : (ofRun lines symbolNamed routines).routineHolding a with
  | none =>
    rw [hr] at hmoved
    rw [staticOf_of_none hr, staticOf_of_none hmoved]
    rfl
  | some r =>
    rw [hr] at hmoved
    rw [staticOf_of_start_le hr (RoutineMap.holder?_le hr),
      staticOf_of_start_le hmoved (RoutineMap.holder?_le hmoved)]
    simp only [Routine.moved, Word.add_sub_add, ofRun]
    cases symbolNamed r.name with
    | none => rfl
    | some s =>
      simp only
      cases Word.sum? s.value (a - r.start) <;> rfl

theorem lookUp_moved (hroutines : ∀ r ∈ routines, r.start.toNat + d.toNat < UInt64.size)
    (ha : a.toNat + d.toNat < UInt64.size) :
    (ofRun lines symbolNamed (routines.map (Routine.moved d))).lookUp (a + d) =
      ((ofRun lines symbolNamed routines).lookUp a).mapError (Miss.moved d) := by
  have hmoved : (ofRun lines symbolNamed (routines.map (Routine.moved d))).staticOf (a + d) =
      ((ofRun lines symbolNamed routines).staticOf a).mapError (Miss.moved d) :=
    staticOf_moved hroutines ha
  cases hs : (ofRun lines symbolNamed routines).staticOf a with
  | error miss =>
    rw [hs] at hmoved
    rw [lookUp_of_error hs, lookUp_of_error hmoved]
    rfl
  | ok address =>
    rw [hs] at hmoved
    rw [lookUp_of_ok hs, lookUp_of_ok hmoved]
    change lines.lookUp address = (lines.lookUp address).mapError _
    rw [LineTable.lookUp]
    cases lines.rowAt? address <;> rfl

/-- A run whose routines were loaded `d` bytes later, asked for an address `d` bytes later, gives
the static address, the row, the label and the miss of the first run. Only the query in `noRoutine`
is the run's own. -/
theorem resolution_moved (lines : LineTable) (symbolNamed : String → Option Symbol)
    (routines : List Routine) (d a : Word)
    (hroutines : ∀ r ∈ routines, r.start.toNat + d.toNat < UInt64.size)
    (ha : a.toNat + d.toNat < UInt64.size) :
    let here := ofRun lines symbolNamed routines
    let there := ofRun lines symbolNamed (routines.map (Routine.moved d))
    there.staticOf (a + d) = (here.staticOf a).mapError (Miss.moved d) ∧
      there.lookUp (a + d) = (here.lookUp a).mapError (Miss.moved d) ∧
      there.row? (a + d) = here.row? a ∧
      (RoutineMap.ofList (routines.map (Routine.moved d))).label? (a + d) =
        (RoutineMap.ofList routines).label? a ∧
      (there.lookUp (a + d) = .error (.noRoutine (a + d)) ↔
        here.lookUp a = .error (.noRoutine a)) := by
  intro here there
  have hlookUp : there.lookUp (a + d) = (here.lookUp a).mapError (Miss.moved d) :=
    lookUp_moved hroutines ha
  refine ⟨staticOf_moved hroutines ha, hlookUp, ?_, RoutineMap.label?_moved hroutines ha, ?_⟩
  · rw [row?, row?, hlookUp]
    cases here.lookUp a <;> rfl
  · rw [hlookUp]
    cases here.lookUp a with
    | ok row => simp [Except.mapError]
    | error miss => simp [Except.mapError, Miss.moved_eq_noRoutine_iff]

/-- Moved close to the end of the address space, the inner routine still answers for its last
addresses. -/
theorem resolution_moved_nested :
    let named := (SymbolIndex.ofList nestedSymbols).named?
    let far : Word := 0xffffffffffbfefe8
    (∀ r ∈ nestedRoutines, r.start.toNat + far.toNat < UInt64.size) ∧
      (ofRun (.ofRows nestedRows) named (nestedRoutines.map (Routine.moved far))).row?
        (0x401017 + far) = some ⟨"/src", "inner.c", 0x1010, 9⟩ := by
  intro named far
  have hroutines : ∀ r ∈ nestedRoutines, r.start.toNat + far.toNat < UInt64.size := by decide
  have hmoved := resolution_moved (.ofRows nestedRows) named nestedRoutines far 0x401017 hroutines
    (by decide)
  refine ⟨hroutines, hmoved.2.2.1.trans ?_⟩
  let listing : Listing := ⟨nestedRows, nestedSymbols, nestedRoutines⟩
  change (listing.resolver.lookUp 0x401017).toOption = _
  rw [Listing.lookUp_resolver]
  decide

end Resolver

/-! ## A run and its binary -/

/-- Two symbols of one name, blanks around it apart, have one value. -/
def Symbol.OneValueEach (symbols : List Symbol) : Prop :=
  ∀ s ∈ symbols, ∀ t ∈ symbols, trimmedName s.name = trimmedName t.name → s.value = t.value

/-- Every routine goes by the name of a symbol and starts `d` bytes after its value. -/
def Routine.Faithful (symbols : List Symbol) (d : Word) (routines : List Routine) : Prop :=
  ∀ r ∈ routines, ∃ s ∈ symbols, trimmedName r.name = trimmedName s.name ∧
    r.start.toNat = s.value.toNat + d.toNat

instance (symbols : List Symbol) : Decidable (Symbol.OneValueEach symbols) :=
  inferInstanceAs (Decidable (∀ s ∈ symbols, ∀ t ∈ symbols,
    trimmedName s.name = trimmedName t.name → s.value = t.value))

instance (symbols : List Symbol) (d : Word) (routines : List Routine) :
    Decidable (Routine.Faithful symbols d routines) :=
  inferInstanceAs (Decidable (∀ r ∈ routines, ∃ s ∈ symbols,
    trimmedName r.name = trimmedName s.name ∧ r.start.toNat = s.value.toNat + d.toNat))

/-- A name finds the value of every symbol that goes by it, whichever of them comes first. -/
theorem Symbol.OneValueEach.exists_named? {symbols : List Symbol} (hone : OneValueEach symbols)
    {s : Symbol} (hs : s ∈ symbols) {name : String}
    (hname : trimmedName s.name = trimmedName name) :
    ∃ t, (SymbolIndex.ofList symbols).named? name = some t ∧ t.value = s.value := by
  rw [SymbolIndex.named?_ofList]
  cases hfind : symbols.find? (·.goesBy name) with
  | none =>
    have hnot := List.find?_eq_none.mp hfind s hs
    simp [Symbol.goesBy, hname] at hnot
  | some t =>
    have ht : trimmedName t.name = trimmedName name := by
      simpa [Symbol.goesBy] using List.find?_some hfind
    exact ⟨t.trimmed, rfl, hone t (List.mem_of_find?_eq_some hfind) s hs (ht.trans hname.symm)⟩

/-- The name of a faithful routine finds the value that the routine was moved from. -/
theorem Routine.Faithful.named?_value {symbols : List Symbol} {routines : List Routine} {d : Word}
    (hone : Symbol.OneValueEach symbols) (hfaithful : Faithful symbols d routines) {r : Routine}
    (hr : r ∈ routines) : ∃ s, (SymbolIndex.ofList symbols).named? r.name = some s ∧
      r.start.toNat = s.value.toNat + d.toNat := by
  obtain ⟨s, hs, hname, hstart⟩ := hfaithful r hr
  obtain ⟨t, hnamed, hvalue⟩ := hone.exists_named? hs hname.symm
  exact ⟨t, hnamed, by rw [hstart, hvalue]⟩

/-- The offset into a routine leads back to the address of the binary. -/
theorem Resolver.staticOf_of_faithful {lines : LineTable} {symbols : List Symbol}
    {routines : List Routine} {d a : Word} (hone : Symbol.OneValueEach symbols)
    (hfaithful : Routine.Faithful symbols d routines) (ha : a.toNat + d.toNat < UInt64.size)
    {r : Routine} (hr : (RoutineMap.ofList routines).holder? (a + d) = some r) :
    (ofTables lines (.ofList symbols) (.ofList routines)).staticOf (a + d) = .ok a := by
  obtain ⟨s, hs, hstart⟩ := hfaithful.named?_value hone (RoutineMap.mem_of_holder?_ofList hr)
  have hle : r.start ≤ a + d := RoutineMap.holder?_le hr
  have hholds : (ofTables lines (.ofList symbols) (.ofList routines)).routineHolding (a + d) =
      some r := hr
  -- The sum is the address `a` itself, so it stays within its 64 bits.
  have hsum : Word.sum? s.value (a + d - r.start) = some a := by
    rw [Word.sum?_eq_some_iff, UInt64.toNat_sub_of_le _ _ hle, Word.toNat_add_of_lt ha]
    have := UInt64.le_iff_toNat_le.mp hle
    rw [Word.toNat_add_of_lt ha] at this
    omega
  rw [staticOf_of_start_le hholds hle]
  simp only [ofTables, hs, hsum]

/-- Asked through routines that all lie at one distance from their symbols, a run answers as the
binary does for the address without that distance, or knows no routine. -/
theorem Engine.lookUp_runtime_of_faithful (lines : LineTable) (symbols : List Symbol)
    (labels : Option SymbolIndex) (routines : List Routine) (d a : Word)
    (hone : Symbol.OneValueEach symbols) (hfaithful : Routine.Faithful symbols d routines)
    (ha : a.toNat + d.toNat < UInt64.size) :
    let tables : RunTables := ⟨lines, .ofList symbols, .ofList routines⟩
    (∀ r, tables.routines.holder? (a + d) = some r →
      tables.resolver.staticOf (a + d) = .ok a ∧
        (runtime tables).lookUp (a + d) = (static lines labels).lookUp a) ∧
    (tables.routines.holder? (a + d) = none →
      (runtime tables).lookUp (a + d) = .error (.noRoutine (a + d))) ∧
    (∀ miss, (runtime tables).lookUp (a + d) = .error miss →
      miss = .noRoutine (a + d) ∨ miss = .noLineInfo a) ∧
    (∀ row, (runtime tables).lookUp (a + d) = .ok row → lines.rowAt? a = some row) := by
  intro tables
  have hheld : ∀ r, tables.routines.holder? (a + d) = some r →
      tables.resolver.staticOf (a + d) = .ok a :=
    fun r hr => Resolver.staticOf_of_faithful hone hfaithful ha hr
  have hnone : tables.routines.holder? (a + d) = none →
      (runtime tables).lookUp (a + d) = .error (.noRoutine (a + d)) :=
    fun hr => Resolver.lookUp_of_error (Resolver.staticOf_of_none hr)
  have hsome : ∀ r, tables.routines.holder? (a + d) = some r →
      (runtime tables).lookUp (a + d) = lines.lookUp a :=
    fun r hr => Resolver.lookUp_of_ok (hheld r hr)
  have hanswer : (runtime tables).lookUp (a + d) = .error (.noRoutine (a + d)) ∨
      (runtime tables).lookUp (a + d) = lines.lookUp a := by
    cases hr : tables.routines.holder? (a + d) with
    | none => exact .inl (hnone hr)
    | some r => exact .inr (hsome r hr)
  refine ⟨fun r hr => ⟨hheld r hr, hsome r hr⟩, hnone, fun miss hmiss => ?_, fun row hrow => ?_⟩
  · rcases hanswer with hanswer | hanswer
    · exact .inl (Except.error.inj (hmiss.symm.trans hanswer))
    · exact .inr (LineTable.lookUp_eq_error_iff.mp (hanswer.symm.trans hmiss)).2
  · rcases hanswer with hanswer | hanswer
    · cases hanswer.symm.trans hrow
    · exact LineTable.lookUp_eq_ok_iff.mp (hanswer.symm.trans hrow)

/-- A routine among others, with blanks in its name. -/
theorem Engine.lookUp_runtime_of_faithful_nested :
    Symbol.OneValueEach nestedSymbols ∧ Routine.Faithful nestedSymbols 0x400000 nestedRoutines ∧
      (runtime ⟨.ofRows nestedRows, .ofList nestedSymbols, .ofList nestedRoutines⟩).lookUp
        0x401014 = .ok ⟨"/src", "inner.c", 0x1010, 9⟩ := by
  have hone : Symbol.OneValueEach nestedSymbols := by decide
  have hfaithful : Routine.Faithful nestedSymbols 0x400000 nestedRoutines := by decide
  refine ⟨hone, hfaithful, ?_⟩
  have hagree := lookUp_runtime_of_faithful (.ofRows nestedRows) nestedSymbols none nestedRoutines
    0x400000 0x1014 hone hfaithful (by decide)
  have hheld : (RoutineMap.ofList nestedRoutines).holder? (0x1014 + 0x400000) =
      some ⟨"inner ", "/bin/t", 0x401010, some 8⟩ := by
    rw [RoutineMap.holder?_ofList]
    decide
  refine (hagree.1 _ hheld).2.trans ?_
  rw [lookUp, LineTable.lookUp, LineTable.rowAt?_ofRows]
  decide

end Symbolication
