import Symbolication.Proofs.Resolution
import Symbolication.Proofs.SymbolEntries
import Symbolication.Proofs.Warnings

/-! The entries of a symbol table that define a routine are those of a section of their own, of no
section or file, with a text for a name. A runtime address is taken back by the first of them that
goes by the name of its routine. The other entries of the table, in whatever number and wherever
they stand, neither answer for a name nor hide a later entry. -/

namespace Symbolication

namespace Elf

/-- The entry defines a routine under the name, blanks around either apart. -/
structure NamedEntry.Defines (named : NamedEntry) (name : String) : Prop where
  isDefined : named.entry.home ≠ 0
  isNoSection : named.entry.info % 16 ≠ 3
  isNoFile : named.entry.info % 16 ≠ 4
  goesBy : ∃ bytes text, named.name = some bytes ∧ bytes ≠ [] ∧
    Text.Utf8.decode? bytes = some text ∧ trimmedName text = trimmedName name

theorem NamedEntry.text?_eq_some_iff {named : NamedEntry} {text : String} :
    named.text? = some text ↔
      ∃ bytes, named.name = some bytes ∧ bytes ≠ [] ∧ Text.Utf8.decode? bytes = some text := by
  unfold text?
  cases named.name with
  | none => simp
  | some bytes => by_cases hempty : bytes = [] <;> simp [hempty]

theorem NamedEntry.symbol?_eq_some_iff {named : NamedEntry} {s : Symbol} :
    named.symbol? = some s ↔
      (named.entry.home ≠ 0 ∧ named.entry.info % 16 ≠ 3 ∧ named.entry.info % 16 ≠ 4) ∧
        ∃ text, named.text? = some text ∧
          s = ⟨text, UInt64.ofNat named.entry.value, UInt64.ofNat named.entry.size⟩ := by
  have hkind : (named.entry.home ≠ 0 ∧ named.entry.info % 16 ∉ placeless) ↔
      named.entry.home ≠ 0 ∧ named.entry.info % 16 ≠ 3 ∧ named.entry.info % 16 ≠ 4 := by
    simp [placeless]
  rw [← hkind, symbol?]
  by_cases hdefined : named.entry.home ≠ 0 ∧ named.entry.info % 16 ∉ placeless
  · simp [hdefined, Option.bind_eq_some_iff]
    simp only [eq_comm]
  · simp [hdefined]

/-- The entries that define a routine are those that become symbols. -/
theorem NamedEntry.defines_iff {named : NamedEntry} {name : String} :
    named.Defines name ↔ named.symbol?.any (·.goesBy name) = true := by
  rw [Option.any_eq_true]
  constructor
  · rintro ⟨hhome, hsection, hfile, bytes, text, hname, hempty, hdecode, hgoesBy⟩
    have htext : named.text? = some text := text?_eq_some_iff.mpr ⟨bytes, hname, hempty, hdecode⟩
    exact ⟨_, symbol?_eq_some_iff.mpr ⟨⟨hhome, hsection, hfile⟩, text, htext, rfl⟩,
      by simpa [Symbol.goesBy] using hgoesBy⟩
  · rintro ⟨s, hs, hgoesBy⟩
    obtain ⟨⟨hhome, hsection, hfile⟩, text, htext, rfl⟩ := symbol?_eq_some_iff.mp hs
    obtain ⟨bytes, hname, hempty, hdecode⟩ := text?_eq_some_iff.mp htext
    exact ⟨hhome, hsection, hfile, bytes, text, hname, hempty, hdecode,
      by simpa [Symbol.goesBy] using hgoesBy⟩

instance (named : NamedEntry) (name : String) : Decidable (named.Defines name) :=
  decidable_of_iff _ NamedEntry.defines_iff.symm

/-- No entry defines a routine under the name, where entry 0 does not count. -/
def ObjectFile.NoneDefines (file : ObjectFile) (name : String) : Prop :=
  ∀ i named, 0 < i → file.symbolAt? i = some named → ¬ named.Defines name

/-- The entry at the index defines a routine under the name, and none before it does, where entry 0
does not count. -/
structure ObjectFile.FirstDefines (file : ObjectFile) (name : String) (i : Nat)
    (named : NamedEntry) : Prop where
  pos : 0 < i
  symbolAt?_eq : file.symbolAt? i = some named
  defines : named.Defines name
  isFirst : ∀ j other, 0 < j → j < i → file.symbolAt? j = some other → ¬ other.Defines name

variable {bytes : Bytes} {file : ObjectFile} {name : String}

/-- The first entry that defines a routine under a name is the first that becomes a symbol of the
name. -/
theorem ObjectFile.FirstDefines.find? {i : Nat} {named : NamedEntry}
    (hread : read? bytes = some file) (h : file.FirstDefines name i named) :
    file.symbols.find? (fun other => other.symbol?.any (·.goesBy name)) = some named := by
  obtain ⟨i, rfl⟩ := Nat.exists_eq_add_one_of_ne_zero h.pos.ne'
  obtain ⟨hi, hnamed⟩ := List.getElem?_eq_some_iff.mp
    ((symbols_getElem? hread i).trans h.symbolAt?_eq)
  rw [List.find?_eq_some_iff_getElem]
  refine ⟨NamedEntry.defines_iff.mp h.defines, i, hi, hnamed, fun j hj => ?_⟩
  have hother := (symbols_getElem? hread j).symm.trans (List.getElem?_eq_getElem (hj.trans hi))
  have hnot := h.isFirst (j + 1) _ (Nat.succ_pos j) (Nat.succ_lt_succ hj) hother
  rw [NamedEntry.defines_iff] at hnot
  simpa using hnot

/-- Every symbol of a file stands at an index other than 0. -/
theorem ObjectFile.mem_symbols_iff {named : NamedEntry} (hread : read? bytes = some file) :
    named ∈ file.symbols ↔ ∃ i, 0 < i ∧ file.symbolAt? i = some named := by
  simp only [List.mem_iff_getElem?, symbols_getElem? hread]
  constructor
  · rintro ⟨i, hi⟩
    exact ⟨i + 1, Nat.succ_pos i, hi⟩
  · rintro ⟨i, hpos, hi⟩
    exact ⟨i - 1, by rwa [Nat.sub_add_cancel hpos]⟩

end Elf

/-! ## Names -/

namespace SymbolIndex

variable {bytes : Bytes} {file : Elf.ObjectFile} {name : String}

theorem named?_ofObject (file : Elf.ObjectFile) (name : String) :
    (ofObject file).named? name =
      ((file.symbols.find? fun named => named.symbol?.any (·.goesBy name)).bind
        (·.symbol?)).map Symbol.trimmed := by
  rw [ofObject, named?_ofList, List.find?_filterMap]

/-- A name finds the symbol of the first entry that defines a routine under it. -/
theorem exists_named?_ofObject {i : Nat} {named : Elf.NamedEntry}
    (hread : Elf.ObjectFile.read? bytes = some file) (h : file.FirstDefines name i named) :
    ∃ s, (ofObject file).named? name = some s ∧ s.value.toNat = named.entry.value := by
  obtain ⟨s, hs, -⟩ := Option.any_eq_true _ _ |>.mp (Elf.NamedEntry.defines_iff.mp h.defines)
  refine ⟨s.trimmed, ?_, ?_⟩
  · rw [named?_ofObject, h.find? hread, Option.bind_some, hs, Option.map_some]
  · obtain ⟨-, text, -, rfl⟩ := Elf.NamedEntry.symbol?_eq_some_iff.mp hs
    exact UInt64.toNat_ofNat_of_lt' (Elf.ObjectFile.value_lt_of_symbolAt? h.symbolAt?_eq)

/-- A name finds nothing only where no entry defines a routine under it. -/
theorem named?_ofObject_eq_none_iff (hread : Elf.ObjectFile.read? bytes = some file) :
    (ofObject file).named? name = none ↔ file.NoneDefines name := by
  rw [ofObject, named?_ofList, Option.map_eq_none_iff, List.find?_eq_none]
  constructor
  · intro hnone i named hpos hnamed hdefines
    obtain ⟨s, hs, hgoesBy⟩ := Option.any_eq_true _ _ |>.mp (Elf.NamedEntry.defines_iff.mp hdefines)
    have hmem := (Elf.ObjectFile.mem_symbols_iff hread).mpr ⟨i, hpos, hnamed⟩
    exact hnone s (List.mem_filterMap.mpr ⟨named, hmem, hs⟩) hgoesBy
  · intro hnone s hmem hgoesBy
    obtain ⟨named, hnamed, hs⟩ := List.mem_filterMap.mp hmem
    obtain ⟨i, hpos, hi⟩ := (Elf.ObjectFile.mem_symbols_iff hread).mp hnamed
    refine hnone i named hpos hi (Elf.NamedEntry.defines_iff.mpr ?_)
    exact (Option.any_eq_true _ _).mpr ⟨s, hs, hgoesBy⟩

end SymbolIndex

/-! ## Addresses -/

namespace Resolver

variable {resolver : Resolver} {a : Address} {r : Routine}

theorem staticOf_eq_unknownSymbol_iff (h : resolver.routineHolding a = some r)
    (hle : r.start ≤ a) :
    resolver.staticOf a = .error (.unknownSymbol r.name) ↔ resolver.symbolNamed r.name = none := by
  rw [staticOf_of_start_le h hle]
  cases resolver.symbolNamed r.name with
  | none => simp
  | some s => cases hsum : Word.sum? s.value (a - r.start) <;> simp [hsum]

theorem lookUp_eq_unknownSymbol_iff {name : String} :
    resolver.lookUp a = .error (.unknownSymbol name) ↔
      resolver.staticOf a = .error (.unknownSymbol name) :=
  lookUp_eq_error_iff (by simp)

end Resolver

/-- A runtime address whose routine starts at or below it is taken back by the first entry of the
symbol table that defines a routine of that name: to the sum of the entry's value and the offset,
unless the sum is too large. Where no entry does, and only there, the name is unknown. A routine
that starts above the address is refused before that. -/
theorem SymbolIndex.ofBinary_first_defining {files : Files} {path : String} {bytes : Bytes}
    {file : Elf.ObjectFile} (hfile : files path = .file bytes)
    (hread : Elf.ObjectFile.read? bytes = some file) :
    ∃ index, (SymbolIndex.ofBinary files path).result = .ok index ∧
      ∀ (resolver : Resolver) (a : Address) (r : Routine),
        resolver.symbolNamed = index.named? → resolver.routineHolding a = some r →
        (a < r.start → resolver.staticOf a = .error (.offsetUnderflow a r.name r.start) ∧
          resolver.lookUp a = .error (.offsetUnderflow a r.name r.start)) ∧
        (r.start ≤ a →
          (∀ i named, file.FirstDefines r.name i named →
            (named.entry.value + (a.toNat - r.start.toNat) < UInt64.size →
              ∃ address : Address,
                address.toNat = named.entry.value + (a.toNat - r.start.toNat) ∧
                resolver.staticOf a = .ok address ∧
                resolver.lookUp a = resolver.lines.lookUp address) ∧
            (UInt64.size ≤ named.entry.value + (a.toNat - r.start.toNat) →
              resolver.staticOf a = .error (.addressOverflow r.name (a - r.start)) ∧
              resolver.lookUp a = .error (.addressOverflow r.name (a - r.start)))) ∧
          (resolver.staticOf a = .error (.unknownSymbol r.name) ↔ file.NoneDefines r.name) ∧
          (resolver.lookUp a = .error (.unknownSymbol r.name) ↔ file.NoneDefines r.name)) := by
  refine ⟨ofObject file, by rw [result_ofBinary hfile, hread], fun resolver a r hnames hholds => ?_⟩
  refine ⟨fun hlt => ?_, fun hle => ⟨fun i named hfirst => ?_, ?_, ?_⟩⟩
  · have hstatic := Resolver.staticOf_of_lt_start hholds hlt
    exact ⟨hstatic, Resolver.lookUp_of_error hstatic⟩
  · obtain ⟨s, hs, hvalue⟩ := exists_named?_ofObject hread hfirst
    rw [← hnames] at hs
    have hstatic := Resolver.staticOf_of_symbolNamed hholds hle hs
    rw [hvalue] at hstatic
    refine ⟨fun hlt => ?_, fun hsize => ?_⟩
    · rw [if_pos hlt] at hstatic
      exact ⟨_, UInt64.toNat_ofNat_of_lt' hlt, hstatic, Resolver.lookUp_of_ok hstatic⟩
    · rw [if_neg (Nat.not_lt.mpr hsize)] at hstatic
      exact ⟨hstatic, Resolver.lookUp_of_error hstatic⟩
  · rw [Resolver.staticOf_eq_unknownSymbol_iff hholds hle, hnames,
      named?_ofObject_eq_none_iff hread]
  · rw [Resolver.lookUp_eq_unknownSymbol_iff, Resolver.staticOf_eq_unknownSymbol_iff hholds hle,
      hnames, named?_ofObject_eq_none_iff hread]

/-! A binary in which an import, a section and two definitions have one name. -/

namespace SharedName

/-- An entry from the offset of its name, its value, its kind and its section. -/
def entry (nameAt value kind home : Nat) : Bytes :=
  [nameAt, value, 4].flatMap (SmallBinary.little 4) ++ [kind, home].flatMap (SmallBinary.little 2)

def symbols : Bytes :=
  entry 0 0 0 0 ++ entry 2 0 2 0 ++ entry 2 8 3 1 ++ entry 2 16 2 1 ++ entry 2 32 2 1

def sectionHeaders : List (List Nat) :=
  [List.replicate 10 0, [0, 2, 0, 0, 252, 80, 4, 0, 0, 0], List.replicate 10 0,
    List.replicate 10 0, [0, 3, 0, 0, 332, SmallBinary.names.length, 0, 0, 0, 0]]

def bytes : Bytes :=
  SmallBinary.fileHeader ++ sectionHeaders.flatten.flatMap (SmallBinary.little 4) ++ symbols ++
    SmallBinary.names

/-- The first definition stands at index 3. -/
theorem exists_firstDefines {file : Elf.ObjectFile}
    (hread : Elf.ObjectFile.read? bytes = some file) :
    ∃ named, named.entry.value = 16 ∧ file.FirstDefines "debug_info" 3 named := by
  have hentries : (Elf.ObjectFile.read? bytes).map (fun file =>
      [1, 2, 3].map fun i => (file.symbolAt? i).map fun named =>
        (named.entry.value, decide (named.Defines "debug_info"))) =
      some [some (0, false), some (8, false), some (16, true)] := by decide +kernel
  simp only [hread, Option.map_some, List.map_cons, List.map_nil, Option.some.injEq,
    List.cons.injEq, Option.map_eq_some_iff, Prod.mk.injEq, decide_eq_true_eq, decide_eq_false_iff_not] at hentries
  obtain ⟨⟨imported, himported, -, hundefined⟩, ⟨part, hpart, -, hsection⟩,
    ⟨named, hnamed, hvalue, hdefines⟩, -⟩ := hentries
  refine ⟨named, hvalue, by decide, hnamed, hdefines, fun j other hpos hlt hother => ?_⟩
  obtain rfl | rfl : j = 1 ∨ j = 2 := by omega
  · rwa [← Option.some.inj (himported.symm.trans hother)]
  · rwa [← Option.some.inj (hpart.symm.trans hother)]

end SharedName

/-- The first definition takes the address back, behind the import and the section. -/
theorem SymbolIndex.ofBinary_first_defining_shared :
    ∃ index, (SymbolIndex.ofBinary (fun _ => .file SharedName.bytes) "a.out").result = .ok index ∧
      Resolver.staticOf
        ⟨.ofRows [], index.named?, fun _ => some ⟨"debug_info", "m", 0x1000, none⟩⟩ 0x1004 =
          .ok 20 := by
  obtain ⟨file, hread⟩ : ∃ file, Elf.ObjectFile.read? SharedName.bytes = some file :=
    Option.isSome_iff_exists.mp (by decide +kernel)
  obtain ⟨named, hvalue, hfirst⟩ := SharedName.exists_firstDefines hread
  obtain ⟨index, hindex, hresolves⟩ :=
    @ofBinary_first_defining (fun _ => .file SharedName.bytes) "a.out" _ _ rfl hread
  obtain ⟨-, hheld⟩ := hresolves
    ⟨.ofRows [], index.named?, fun _ => some ⟨"debug_info", "m", 0x1000, none⟩⟩ 0x1004 _ rfl rfl
  obtain ⟨hfits, -⟩ := (hheld (by decide)).1 3 named hfirst
  obtain ⟨address, haddress, hstatic, -⟩ := hfits (by rw [hvalue]; decide)
  rw [hvalue] at haddress
  obtain rfl : address = 20 := UInt64.toNat_inj.mp haddress
  exact ⟨index, hindex, hstatic⟩

/-- A routine that starts above the address is refused although its name is unknown. -/
theorem SymbolIndex.offsetUnderflow_before_unknownSymbol :
    ∃ file index, Elf.ObjectFile.read? StrippedBinary.bytes = some file ∧
      file.NoneDefines "f" ∧
      (SymbolIndex.ofBinary (fun _ => .file StrippedBinary.bytes) "a.out").result = .ok index ∧
      Resolver.staticOf ⟨.ofRows [], index.named?, fun _ => some ⟨"f", "m", 0x2000, none⟩⟩ 0x1000 =
        .error (.offsetUnderflow 0x1000 "f" 0x2000) ∧
      Resolver.staticOf ⟨.ofRows [], index.named?, fun _ => some ⟨"f", "m", 0x2000, none⟩⟩ 0x1000 ≠
        .error (.unknownSymbol "f") := by
  obtain ⟨file, hread⟩ : ∃ file, Elf.ObjectFile.read? StrippedBinary.bytes = some file :=
    Option.isSome_iff_exists.mp (by decide +kernel)
  have hsymbols : (Elf.ObjectFile.read? StrippedBinary.bytes).map (·.symbols.length) = some 0 := by
    decide +kernel
  rw [hread] at hsymbols
  have hnil : file.symbols = [] := List.length_eq_zero_iff.mp (Option.some.inj hsymbols)
  have hstatic : Resolver.staticOf
      ⟨.ofRows [], (ofObject file).named?, fun _ => some ⟨"f", "m", 0x2000, none⟩⟩ 0x1000 =
        .error (.offsetUnderflow 0x1000 "f" 0x2000) :=
    Resolver.staticOf_of_lt_start (r := ⟨"f", "m", 0x2000, none⟩) rfl (by decide)
  refine ⟨file, ofObject file, hread, fun i named hpos hnamed => ?_,
    by rw [result_ofBinary rfl, hread], hstatic, by simp [hstatic]⟩
  have hmem := (Elf.ObjectFile.mem_symbols_iff hread).mpr ⟨i, hpos, hnamed⟩
  rw [hnil] at hmem
  cases hmem

end Symbolication
