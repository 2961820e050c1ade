import Mathlib.Algebra.Group.Nat.Defs
import Symbolication.Elf.ObjectFile

namespace Symbolication

/-- Every byte is one more digit of base 256, at whichever end of the number. -/
theorem ByteOrder.value_lt (order : ByteOrder) (bytes : Bytes) :
    order.value bytes < 256 ^ bytes.length := by
  have hlittle (bytes : Bytes) : little.value bytes < 256 ^ bytes.length := by
    induction bytes with
    | nil => decide
    | cons b rest ih =>
      have := b.toNat_lt
      rw [value, List.foldr_cons, List.length_cons, Nat.pow_succ]
      rw [value] at ih
      omega
  cases order with
  | little => exact hlittle bytes
  | big =>
    rw [value, List.foldl_eq_foldr_reverse, ← List.length_reverse]
    exact hlittle bytes.reverse

/-! ## Readers of one width -/

namespace Reader

variable {α β : Type}

theorem bind_eq_some_iff {x : Reader α} {f : α → Reader β} {bytes rest : Bytes} {b : β} :
    (x >>= f) bytes = some (b, rest) ↔
      ∃ a left, x bytes = some (a, left) ∧ f a left = some (b, rest) := by
  change (x bytes).bind (fun p => f p.1 p.2) = _ ↔ _
  rw [Option.bind_eq_some_iff]
  constructor
  · rintro ⟨⟨a, left⟩, h⟩
    exact ⟨a, left, h⟩
  · rintro ⟨a, left, h⟩
    exact ⟨(a, left), h⟩

/-- The reader takes so many bytes, and the values that it finds in them are of a kind. -/
def Takes (item : Reader α) (width : Nat) (kind : α → Prop) : Prop :=
  ∀ bytes a rest, item bytes = some (a, rest) →
    width ≤ bytes.length ∧ rest = bytes.drop width ∧ kind a

variable {kind : α → Prop} {width : Nat}

theorem takes_pure {a : α} (h : kind a) : Takes (pure a) 0 kind := by
  intro bytes a' rest hread
  cases hread
  exact ⟨Nat.zero_le _, rfl, h⟩

theorem Takes.bind {x : Reader α} {f : α → Reader β} {kind' : β → Prop} {width' : Nat}
    (hx : x.Takes width kind) (hf : ∀ a, kind a → (f a).Takes width' kind') :
    (x >>= f).Takes (width + width') kind' := by
  intro bytes b rest hread
  obtain ⟨a, left, hreadx, hreadf⟩ := bind_eq_some_iff.mp hread
  obtain ⟨hlength, rfl, ha⟩ := hx _ _ _ hreadx
  obtain ⟨hlength', rfl, hb⟩ := hf a ha _ _ _ hreadf
  rw [List.length_drop] at hlength'
  exact ⟨by omega, List.drop_drop, hb⟩

theorem takes_byte : byte.Takes 1 fun _ => True := by
  intro bytes a rest hread
  cases bytes with
  | nil => cases hread
  | cons b rest =>
    cases hread
    exact ⟨by simp, rfl, trivial⟩

theorem takes_number (order : ByteOrder) (width : Nat) :
    (number order width).Takes width (· < 256 ^ width) := by
  intro bytes n rest hread
  obtain ⟨part, rfl, rfl, rfl⟩ := number_eq_some_iff.mp hread
  refine ⟨?_, List.drop_left.symm, order.value_lt part⟩
  rw [List.length_append]
  exact Nat.le_add_right ..

/-- Where too few bytes are left, nothing is found. -/
theorem Takes.run'_eq_none {item : Reader α} (h : item.Takes width kind) {bytes : Bytes}
    (hshort : bytes.length < width) : item.run' bytes = none := by
  cases hread : item bytes with
  | none => simp [StateT.run', hread]
  | some found =>
    obtain ⟨hlength, -⟩ := h bytes found.1 found.2 hread
    omega

/-- Where a value is found, it is of the kind. -/
theorem Takes.of_run' {item : Reader α} (h : item.Takes width kind) {bytes : Bytes} {a : α}
    (hread : item.run' bytes = some a) : kind a := by
  obtain ⟨⟨a', rest⟩, hfound, rfl⟩ := Option.map_eq_some_iff.mp hread
  exact (h bytes a' rest hfound).2.2

/-- The values of one width stand at the multiples of it. -/
theorem Takes.getElem?_of_times {item : Reader α} (h : item.Takes width kind) {n : Nat}
    {bytes rest : Bytes} {values : List α} (hread : item.times n bytes = some (values, rest))
    (i : Nat) :
    values[i]? = if i < n then item.run' (bytes.drop (i * width)) else none := by
  induction n generalizing bytes values rest i with
  | zero =>
    cases hread
    simp
  | succ n ih =>
    obtain ⟨a, left, hitem, hread⟩ := bind_eq_some_iff.mp hread
    obtain ⟨values', left', htimes, hread⟩ := bind_eq_some_iff.mp hread
    cases hread
    obtain ⟨-, rfl, -⟩ := h _ _ _ hitem
    cases i with
    | zero => simp [StateT.run', hitem]
    | succ i =>
      rw [List.getElem?_cons_succ, ih htimes, List.drop_drop, Nat.succ_mul, Nat.add_comm width]
      simp

/-- Where the values take as many bytes as there are, there is one at every multiple at which one
can be read. -/
theorem Takes.getElem?_of_times_all {item : Reader α} (h : item.Takes width kind)
    (hwidth : 0 < width) {bytes : Bytes} {values : List α}
    (hread : (item.times (bytes.length / width)).run' bytes = some values) (i : Nat) :
    values[i]? = item.run' (bytes.drop (i * width)) := by
  obtain ⟨⟨_, rest⟩, htimes, rfl⟩ := Option.map_eq_some_iff.mp hread
  rw [h.getElem?_of_times htimes]
  split
  · rfl
  · next hi =>
    -- A value at `i` would end after the last byte.
    apply (h.run'_eq_none _).symm
    have hend := Nat.lt_mul_of_div_lt (Nat.lt_succ_of_le (Nat.le_of_not_lt hi)) hwidth
    rw [Nat.succ_mul] at hend
    rw [List.length_drop]
    omega

end Reader

namespace Elf

/-! ## Symbol tables -/

/-- Words of either size fit into 64 bits. -/
theorem Layout.takes_word (layout : Layout) :
    layout.word.Takes layout.wordSize (· < UInt64.size) := by
  intro bytes n rest hread
  obtain ⟨hlength, hrest, hn⟩ := Reader.takes_number _ _ _ _ _ hread
  refine ⟨hlength, hrest, Nat.lt_of_lt_of_le hn ?_⟩
  cases hwide : layout.wide <;> simp [Layout.wordSize, hwide, UInt64.size]

theorem Layout.symbolSize_pos (layout : Layout) : 0 < layout.symbolSize := by
  unfold symbolSize
  split <;> decide

/-- An entry of a symbol table has one width, and its value and size fit into 64 bits. -/
theorem SymbolEntry.takes_read (layout : Layout) :
    (SymbolEntry.read layout).Takes layout.symbolSize
      fun entry => entry.value < UInt64.size ∧ entry.size < UInt64.size := by
  unfold SymbolEntry.read
  -- The widths of the fields, in their order.
  cases hwide : layout.wide with
  | true =>
    have hwidth : layout.symbolSize =
        4 + (1 + (1 + (2 + (layout.wordSize + (layout.wordSize + 0))))) := by
      simp [Layout.symbolSize, Layout.wordSize, hwide]
    rw [hwidth]
    apply (Reader.takes_number layout.order 4).bind
    intro nameAt _
    apply Reader.takes_byte.bind
    intro info _
    apply Reader.takes_byte.bind
    intro _ _
    apply (Reader.takes_number layout.order 2).bind
    intro home _
    apply layout.takes_word.bind
    intro value hvalue
    apply layout.takes_word.bind
    intro size hsize
    exact Reader.takes_pure ⟨hvalue, hsize⟩
  | false =>
    have hwidth : layout.symbolSize =
        4 + (layout.wordSize + (layout.wordSize + (1 + (1 + (2 + 0))))) := by
      simp [Layout.symbolSize, Layout.wordSize, hwide]
    rw [hwidth]
    apply (Reader.takes_number layout.order 4).bind
    intro nameAt _
    apply layout.takes_word.bind
    intro value hvalue
    apply layout.takes_word.bind
    intro size hsize
    apply Reader.takes_byte.bind
    intro info _
    apply Reader.takes_byte.bind
    intro _ _
    apply (Reader.takes_number layout.order 2).bind
    intro home _
    exact Reader.takes_pure ⟨hvalue, hsize⟩

variable {layout : Layout} {bytes : Bytes} {sections : List SectionHeader} {kind : Nat}

/-- The strings of the section that another links to, none where it links to section 0. -/
def linkedStrings (bytes : Bytes) (sections : List SectionHeader) (header : SectionHeader) :
    StringTable :=
  if header.link = 0 then none
  else (sections[header.link]?).bind fun strings => bytes.slice? strings.offset strings.size

theorem SectionHeader.slice?_of_strings? {header : SectionHeader} {strings : StringTable}
    (h : header.strings? bytes = some strings) :
    bytes.slice? header.offset header.size = strings := by
  obtain ⟨-, -, h⟩ := Option.bind_eq_some_iff.mp h
  exact Option.some.inj h

theorem slice?_of_table? {alignment recordSize offset length : Nat} {data : Bytes}
    (h : table? bytes alignment recordSize offset length = some data) :
    bytes.slice? offset length = some data := by
  unfold table? at h
  split at h
  · exact h
  · cases h

/-- A symbol table has the entries and the names of the first section of its kind. -/
theorem exists_header_of_symbolTable? {table : SymbolTable}
    (h : symbolTable? layout bytes sections kind = some table) :
    sections.find? (·.kind = kind) = none ∧ table.entries = [] ∨
      ∃ header data, sections.find? (·.kind = kind) = some header ∧
        bytes.slice? header.offset header.size = some data ∧
        table.names = linkedStrings bytes sections header ∧
        ∀ i, table.entries[i]? =
          (SymbolEntry.read layout).run' (data.drop (i * layout.symbolSize)) := by
  have hfind : sections.find? (·.kind = kind) = _ := List.find?_eq_bind_findIdx?_getElem?
  unfold symbolTable? at h
  cases hindex : sections.findIdx? (·.kind = kind) with
  | none =>
    rw [hindex] at h hfind
    cases h
    exact .inl ⟨hfind, rfl⟩
  | some index =>
    rw [hindex] at h hfind
    obtain ⟨header, hheader, h⟩ := Option.bind_eq_some_iff.mp h
    obtain ⟨data, hdata, h⟩ := Option.bind_eq_some_iff.mp h
    obtain ⟨entries, hentries, h⟩ := Option.bind_eq_some_iff.mp h
    obtain ⟨hnames, rfl⟩ :
        table.names = linkedStrings bytes sections header ∧ table.entries = entries := by
      by_cases hlink : header.link = 0
      · rw [if_pos hlink] at h
        obtain ⟨names, hnames, h⟩ := Option.bind_eq_some_iff.mp h
        obtain ⟨-, -, h⟩ := Option.bind_eq_some_iff.mp h
        cases h
        cases hnames
        exact ⟨(if_pos hlink).symm, rfl⟩
      · rw [if_neg hlink] at h
        obtain ⟨strings, hstrings, h⟩ := Option.bind_eq_some_iff.mp h
        obtain ⟨-, -, h⟩ := Option.bind_eq_some_iff.mp h
        obtain ⟨names, hnames, h⟩ := Option.bind_eq_some_iff.mp h
        obtain ⟨-, -, h⟩ := Option.bind_eq_some_iff.mp h
        cases h
        refine ⟨?_, rfl⟩
        rw [linkedStrings, if_neg hlink, hstrings]
        exact (SectionHeader.slice?_of_strings? hnames).symm
    exact .inr ⟨header, data, hfind.trans hheader, slice?_of_table? hdata, hnames,
      (SymbolEntry.takes_read layout).getElem?_of_times_all layout.symbolSize_pos hentries⟩

/-! ## Accepted files -/

namespace ObjectFile

/-- The section that the static symbols are read from: the first of its kind. -/
def symbolSection? (file : ObjectFile) : Option Section :=
  file.sections.find? (·.header.kind = kindSymbols)

/-- The entry at an index of the section of symbols, with its name in the section that is linked. -/
def symbolAt? (file : ObjectFile) (i : Nat) : Option NamedEntry := do
  let s ← file.symbolSection?
  let data ← file.bytes.slice? s.header.offset s.header.size
  let entry ← (SymbolEntry.read file.layout).run' (data.drop (i * file.layout.symbolSize))
  let strings := linkedStrings file.bytes (file.sections.map Section.header) s.header
  return ⟨strings.string? entry.nameAt, entry⟩

/-- The symbols of a file are the entries from index 1 on. -/
theorem symbols_getElem? {bytes : Bytes} {file : ObjectFile} (hread : read? bytes = some file)
    (i : Nat) : file.symbols[i]? = file.symbolAt? (i + 1) := by
  obtain ⟨layout, -, hread⟩ := Option.bind_eq_some_iff.mp hread
  obtain ⟨header, -, hread⟩ := Option.bind_eq_some_iff.mp hread
  obtain ⟨_, -, hread⟩ := Option.bind_eq_some_iff.mp hread
  obtain ⟨sections, -, hread⟩ := Option.bind_eq_some_iff.mp hread
  obtain ⟨names, -, hread⟩ := Option.bind_eq_some_iff.mp hread
  obtain ⟨static, hstatic, hread⟩ := Option.bind_eq_some_iff.mp hread
  obtain ⟨_, -, hread⟩ := Option.bind_eq_some_iff.mp hread
  obtain ⟨_, -, hread⟩ := Option.bind_eq_some_iff.mp hread
  cases hread
  have hheaders : (sections.map fun s => (⟨names.string? s.nameAt, s⟩ : Section)).map
      Section.header = sections := by simp [Function.comp_def]
  rw [symbolAt?, symbolSection?, List.find?_map, hheaders]
  rcases exists_header_of_symbolTable? hstatic with
    ⟨hnone, hentries⟩ | ⟨s, data, hsection, hdata, hnames, hentries⟩
  · simp only [Function.comp_def, hnone, hentries, List.tail_nil, List.map_nil, List.getElem?_nil,
      Option.map_none]
    rfl
  · rw [List.getElem?_map, List.getElem?_tail, hentries, hnames]
    simp only [Function.comp_def, hsection, Option.map_some, Option.bind_eq_bind, Option.bind_some,
      hdata]
    cases (SymbolEntry.read layout).run' (data.drop ((i + 1) * layout.symbolSize)) <;> rfl

theorem value_lt_of_symbolAt? {file : ObjectFile} {i : Nat} {named : NamedEntry}
    (h : file.symbolAt? i = some named) : named.entry.value < UInt64.size := by
  obtain ⟨s, -, h⟩ := Option.bind_eq_some_iff.mp h
  obtain ⟨data, -, h⟩ := Option.bind_eq_some_iff.mp h
  obtain ⟨entry, hentry, h⟩ := Option.bind_eq_some_iff.mp h
  cases h
  exact ((SymbolEntry.takes_read file.layout).of_run' hentry).1

end ObjectFile

end Elf

end Symbolication
