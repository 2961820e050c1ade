import Symbolication.Proofs.JsonReports

/-! The label of a runtime address is found apart from its outcome: each asks for the routine that
holds the address and subtracts its start. Both come to the same routine and the same offset. -/

namespace Symbolication

namespace RoutineMap

variable {map : RoutineMap} {a : Address}

theorem label?_eq_none_iff : map.label? a = none ↔ map.holder? a = none := by
  rw [label?, Option.map_eq_none_iff]

/-- A label gives the name and the image of the routine, and how far the address lies behind its
start. -/
theorem label?_eq_some_iff {label : String} : map.label? a = some label ↔
    ∃ r, ∃ offset : Word, map.holder? a = some r ∧ r.start.toNat + offset.toNat = a.toNat ∧
      label = r.name ++ " (" ++ r.image ++ "+0x" ++ Word.hex offset ++ ")" := by
  rw [label?, Option.map_eq_some_iff]
  simp only [Address.append_plus_marked]
  constructor
  · rintro ⟨r, hholds, rfl⟩
    have hoffset := Word.difference?_eq_some_iff.mp (Word.difference?_of_le (holder?_le hholds))
    exact ⟨r, a - r.start, hholds, hoffset, rfl⟩
  · rintro ⟨r, offset, hholds, hoffset, rfl⟩
    have hdifference := Word.difference?_eq_some_iff.mpr hoffset
    rw [Word.difference?_of_le (holder?_le hholds), Option.some.injEq] at hdifference
    exact ⟨r, hholds, by rw [hdifference]⟩

end RoutineMap

namespace Resolver

variable {resolver : Resolver} {a : Address} {r : Routine} {offset : Word}

/-- From the routine and the offset on, only the symbol of the routine's name decides. -/
theorem staticOf_of_label (hholds : resolver.routineHolding a = some r)
    (hoffset : r.start.toNat + offset.toNat = a.toNat) :
    (resolver.symbolNamed r.name = none →
      resolver.staticOf a = .error (.unknownSymbol r.name)) ∧
    ∀ s, resolver.symbolNamed r.name = some s →
      (UInt64.size ≤ s.value.toNat + offset.toNat →
        resolver.staticOf a = .error (.addressOverflow r.name offset)) ∧
      ∀ address : Address, address.toNat = s.value.toNat + offset.toNat →
        resolver.staticOf a = .ok address := by
  refine ⟨fun hunknown => ?_, fun s hnamed => ⟨fun hsum => ?_, fun address hsum => ?_⟩⟩
  · exact staticOf_eq_iff.mpr (.unknownSymbol hholds hoffset hunknown)
  · exact staticOf_eq_iff.mpr (.addressOverflow hholds hoffset hnamed hsum)
  · exact staticOf_eq_iff.mpr (.ok hholds hoffset hnamed hsum)

end Resolver

namespace Answer

theorem routine_mem_fields_iff {answer : Answer} :
    "routine" ∈ answer.fields.map Prod.fst ↔ answer.label ≠ none := by
  rw [fields]
  cases answer.label <;> simp

/-- The field tells the label. -/
theorem label_mem_fields_iff {answer : Answer} {label : String} :
    ("routine", Text.Json.string label) ∈ answer.fields ↔ answer.label = some label := by
  rw [fields]
  cases answer.label with
  | none => simp
  | some other =>
    simp only [Option.map_some, Option.toList_some, List.mem_cons, List.mem_append, Prod.mk.injEq,
      List.not_mem_nil, Option.some.injEq]
    constructor
    · intro h
      have hstring : Text.Json.string label = Text.Json.string other := by simpa using h
      exact (Text.Json.string_inj hstring).symm
    · rintro rfl
      simp

end Answer

/-- An address has no label exactly where it is missed because no routine holds it. Otherwise its
label names a routine of the map and the offset into it, and by the same name and offset the address
is taken back, or its name is unknown, or its sum is too large. So a report has no field for a
routine exactly where its miss is that there is none. -/
theorem RoutineMap.label?_agrees (map : RoutineMap) (lines : LineTable)
    (symbolNamed : String → Option Symbol) (a : Address) :
    let resolver : Resolver := ⟨lines, symbolNamed, map.holder?⟩
    (map.label? a = none ↔ resolver.lookUp a = .error (.noRoutine a)) ∧
    (∀ label, map.label? a = some label → ∃ r ∈ map.toList, ∃ offset : Word,
      r.start.toNat + offset.toNat = a.toNat ∧
      label = r.name ++ " (" ++ r.image ++ "+0x" ++ Word.hex offset ++ ")" ∧
      (symbolNamed r.name = none → resolver.staticOf a = .error (.unknownSymbol r.name)) ∧
      ∀ s, symbolNamed r.name = some s →
        (UInt64.size ≤ s.value.toNat + offset.toNat →
          resolver.staticOf a = .error (.addressOverflow r.name offset)) ∧
        ∀ address : Address, address.toNat = s.value.toNat + offset.toNat →
          resolver.staticOf a = .ok address) ∧
    ∀ symbols : SymbolIndex, let answer := (Engine.runtime ⟨lines, symbols, map⟩).answer a
      answer.json = Text.Json.object answer.fields ∧
        ("routine" ∉ answer.fields.map Prod.fst ↔ ∃ b, answer.miss? = some (.noRoutine b)) := by
  intro resolver
  refine ⟨?_, fun label hlabel => ?_, fun symbols => ⟨rfl, ?_⟩⟩
  · rw [Resolver.lookUp_eq_noRoutine_iff, label?_eq_none_iff]
    exact (and_iff_left rfl).symm
  · obtain ⟨r, offset, hholds, hoffset, htext⟩ := label?_eq_some_iff.mp hlabel
    have hheld : resolver.routineHolding a = some r := hholds
    exact ⟨r, mem_of_holder? hholds, offset, hoffset, htext,
      Resolver.staticOf_of_label hheld hoffset⟩
  · rw [Answer.routine_mem_fields_iff, not_not]
    change map.label? a = none ↔ _
    simp only [Answer.miss?_eq_some_iff]
    change _ ↔ ∃ b, (Resolver.ofTables lines symbols map).lookUp a = .error (.noRoutine b)
    simp only [Resolver.lookUp_eq_noRoutine_iff, exists_and_left, exists_eq, and_true]
    exact label?_eq_none_iff

/-- The routine is labelled although its symbol lies too high for the offset. -/
theorem RoutineMap.label?_agrees_overflow :
    let main : Routine := ⟨"main", "/bin/t", 0x1000, some 0x10⟩
    (ofList [main]).label? 0x1008 = some "main (/bin/t+0x8)" ∧
      Resolver.staticOf
        ⟨.ofRows [], fun _ => some ⟨"main", 0xfffffffffffffff8, 0x10⟩, (ofList [main]).holder?⟩
        0x1008 = .error (.addressOverflow "main" 8) := by
  intro main
  have hholds : (ofList [main]).holder? 0x1008 = some main := by
    rw [holder?_ofList]
    decide
  have hlabel : (ofList [main]).label? 0x1008 = some "main (/bin/t+0x8)" :=
    label?_eq_some_iff.mpr ⟨main, 8, hholds, by decide, by decide⟩
  obtain ⟨-, hagrees, -⟩ := label?_agrees (ofList [main]) (.ofRows [])
    (fun _ => some ⟨"main", 0xfffffffffffffff8, 0x10⟩) 0x1008
  obtain ⟨r, hr, offset, hoffset, -, -, hnamed⟩ := hagrees _ hlabel
  obtain rfl : r = main := List.mem_singleton.mp (mem_of_mem_toList_ofList hr)
  obtain rfl : offset = 8 := by
    change 0x1000 + offset.toNat = 0x1008 at hoffset
    apply UInt64.toNat_inj.mp
    change offset.toNat = 8
    omega
  exact ⟨hlabel, (hnamed _ rfl).1 (by decide)⟩

end Symbolication
