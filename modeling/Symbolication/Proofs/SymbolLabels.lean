import Symbolication.Proofs.Holders
import Symbolication.Proofs.Lookups
import Symbolication.Proofs.Relocation
import Symbolication.Proofs.RoutineLabels

namespace Symbolication

namespace Symbol

/-- The name may hold the mark too: no digit starts one. -/
theorem isLastCut_label (name : String) (offset : Word) :
    Text.IsLastCut "+0x".toList (name ++ "+0x" ++ Word.hex offset).toList name.toList
      (Word.hex offset).toList := by
  rw [String.toList_append, String.toList_append]
  exact Text.isLastCut_of_notMem (by decide) (Word.notMem_hex rfl offset)

theorem label_inj {name other : String} {offset distance : Word}
    (h : name ++ "+0x" ++ Word.hex offset = other ++ "+0x" ++ Word.hex distance) :
    name = other ∧ offset = distance := by
  have hcut := isLastCut_label name offset
  rw [h] at hcut
  obtain ⟨hname, hdigits⟩ := hcut.unique (isLastCut_label other distance)
  exact ⟨String.toList_inj.mp hname, Word.hex_inj hdigits⟩

end Symbol

/-- A routine without a size that is alone in its map holds every address from its start on. -/
theorem RoutineMap.holder?_singleton {r : Routine} {a : Address} (hsize : r.size = none)
    (hle : r.start ≤ a) : (ofList [r]).holder? a = some r := by
  apply holder?_eq_some_iff.mpr
  constructor
  · exact ⟨[], [], rfl, hle, by simp, by simp⟩
  · rw [Routine.reaches, hsize]
    rfl

/-- Where symbols of one name have one value, the label of a static address is cut in one way into a
name and an offset, at its last mark. The name finds a symbol, and the offset behind its value is
the address. So a routine of that name, wherever it starts and whatever it was loaded from, takes
the address at the same offset back to it. -/
theorem Engine.static_label_leads_back (lines : LineTable) (symbols : List Symbol) (a : Address)
    (label : String) (hone : Symbol.OneValueEach symbols)
    (hlabel : ("routine", Text.Json.string label) ∈
      ((static lines (some (.ofList symbols))).answer a).fields) :
    ∃ (name : String) (offset : Word),
      Text.IsLastCut "+0x".toList label.toList name.toList (Word.hex offset).toList ∧
      (∀ (other : String) (distance : Word), label = other ++ "+0x" ++ Word.hex distance →
        other = name ∧ distance = offset) ∧
      (∃ s, (SymbolIndex.ofList symbols).named? name = some s ∧
        s.value.toNat + offset.toNat = a.toNat) ∧
      ∀ (rows : LineTable) (image : String) (start : Address),
        start.toNat + offset.toNat < UInt64.size →
          (Resolver.ofTables rows (.ofList symbols) (.ofList [⟨name, image, start, none⟩])).staticOf
            (start + offset) = .ok a := by
  have hshown : ((SymbolIndex.ofList symbols).holder? a).map (·.label a) = some label :=
    Answer.label_mem_fields_iff.mp hlabel
  obtain ⟨holder, hholder, htext⟩ := Option.map_eq_some_iff.mp hshown
  obtain ⟨before, t, after, hsymbols, ⟨hle, -⟩, -, -, rfl⟩ :=
    SymbolIndex.holder?_eq_some_iff.mp hholder
  have ht : t ∈ symbols := by simp [hsymbols]
  have hvalue_le : t.value ≤ a := UInt64.le_iff_toNat_le.mpr hle
  have hdistance : t.value.toNat + (a - t.value).toNat = a.toNat :=
    Word.difference?_eq_some_iff.mp (Word.difference?_of_le hvalue_le)
  have hwritten : label = trimmedName t.name ++ "+0x" ++ Word.hex (a - t.value) := by
    rw [← htext, Symbol.label, Address.append_plus_marked]
    rfl
  obtain ⟨s, hnamed, hvalue⟩ := hone.exists_named? ht (trimmedName_trimmedName t.name).symm
  refine ⟨trimmedName t.name, a - t.value, ?_, ?_, ⟨s, hnamed, by rw [hvalue, hdistance]⟩, ?_⟩
  · rw [hwritten]
    exact Symbol.isLastCut_label _ _
  · intro other distance hother
    exact Symbol.label_inj (hother.symm.trans hwritten)
  · intro rows image start hfits
    have hsum := Word.toNat_add_of_lt hfits
    have hstart : start ≤ start + (a - t.value) := by
      rw [UInt64.le_iff_toNat_le, hsum]
      omega
    have hholds : (RoutineMap.ofList [⟨trimmedName t.name, image, start, none⟩]).holder?
        (start + (a - t.value)) = some ⟨trimmedName t.name, image, start, none⟩ :=
      RoutineMap.holder?_singleton rfl hstart
    apply Resolver.staticOf_eq_iff.mpr
    exact .ok hholds hsum.symm hnamed (by rw [hvalue, hdistance])

/-- A name that holds the mark, given twice with blanks around it and with one value. -/
def markedNames : List Symbol := [⟨"f+0x10", 0x1000, 0⟩, ⟨" f+0x10 ", 0x1000, 0x20⟩]

theorem Engine.static_label_leads_back_marked :
    Symbol.OneValueEach markedNames ∧
      ("routine", Text.Json.string "f+0x10+0x8") ∈
        ((static (.ofRows []) (some (.ofList markedNames))).answer 0x1008).fields ∧
      (Resolver.ofTables (.ofRows []) (.ofList markedNames)
        (.ofList [⟨"f+0x10", "m", 0x7000, none⟩])).staticOf 0x7008 = .ok 0x1008 := by
  have hone : Symbol.OneValueEach markedNames := by decide
  have hholder : ((SymbolIndex.ofList markedNames).holder? 0x1008).map (·.label 0x1008) =
      some "f+0x10+0x8" := by decide
  have hlabel : ("routine", Text.Json.string "f+0x10+0x8") ∈
      ((static (.ofRows []) (some (.ofList markedNames))).answer 0x1008).fields :=
    Answer.label_mem_fields_iff.mpr hholder
  obtain ⟨name, offset, -, hunique, -, hback⟩ :=
    static_label_leads_back (.ofRows []) markedNames 0x1008 "f+0x10+0x8" hone hlabel
  obtain ⟨rfl, rfl⟩ := hunique "f+0x10" 8 (by decide)
  exact ⟨hone, hlabel, hback (.ofRows []) "m" 0x7000 (by decide)⟩

end Symbolication
