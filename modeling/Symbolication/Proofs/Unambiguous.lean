import Mathlib.Data.List.Basic
import Symbolication.Address
import Symbolication.Text.Json

/-! A text that is put together from parts may be cut at other places than those where the parts
meet. Here is said when it cannot: where a test holds up to the cut and fails behind it, and where
the parts are values of JSON with the punctuation of an object between them. -/

namespace Symbolication

/-! ## Cutting a text -/

namespace Text

variable {xs xs' ys ys' : List Char}

/-- Where a test holds up to a cut and fails behind it, there is no other such cut. -/
theorem append_inj_of_run {p : Char → Bool} (hxs : ∀ c ∈ xs, p c = true)
    (hxs' : ∀ c ∈ xs', p c = true) (hys : ∀ c ∈ ys.head?, p c = false)
    (hys' : ∀ c ∈ ys'.head?, p c = false) (h : xs ++ ys = xs' ++ ys') : xs = xs' ∧ ys = ys' := by
  have hrun {us vs : List Char} (hus : ∀ c ∈ us, p c = true) (hvs : ∀ c ∈ vs.head?, p c = false) :
      (us ++ vs).takeWhile p = us := by
    rw [List.takeWhile_append_of_pos hus]
    cases vs with
    | nil => simp
    | cons v vs => simp [hvs v rfl]
  have hcut : xs = xs' := by rw [← hrun hxs hys, h, hrun hxs' hys']
  rw [hcut] at h
  exact ⟨hcut, List.append_cancel_left h⟩

/-- A text has one cut at the first of some character. -/
theorem append_cons_inj_of_first {c : Char} (hxs : c ∉ xs) (hxs' : c ∉ xs')
    (h : xs ++ c :: ys = xs' ++ c :: ys') : xs = xs' ∧ ys = ys' := by
  have hne {us : List Char} (hus : c ∉ us) : ∀ d ∈ us, (d != c) = true := by
    intro d hd
    have hdc : d ≠ c := fun hdc => hus (hdc ▸ hd)
    simpa using hdc
  obtain ⟨hcut, hrest⟩ := append_inj_of_run (hne hxs) (hne hxs') (by simp) (by simp) h
  exact ⟨hcut, (List.cons.inj hrest).2⟩

/-- A text has one cut at the last of some character. -/
theorem append_cons_inj_of_last {c : Char} (hys : c ∉ ys) (hys' : c ∉ ys')
    (h : xs ++ c :: ys = xs' ++ c :: ys') : xs = xs' ∧ ys = ys' := by
  have hreverse : ys.reverse ++ c :: xs.reverse = ys'.reverse ++ c :: xs'.reverse := by
    simpa using congrArg List.reverse h
  obtain ⟨hys_eq, hxs_eq⟩ := append_cons_inj_of_first (by simpa using hys) (by simpa using hys')
    hreverse
  exact ⟨List.reverse_inj.mp hxs_eq, List.reverse_inj.mp hys_eq⟩

/-- The text is cut at the last place where the mark stands in it. -/
def IsLastCut (mark text before after : List Char) : Prop :=
  text = before ++ mark ++ after ∧
    ∀ xs ys, text = xs ++ mark ++ ys → xs.length ≤ before.length

/-- A mark parts a text at one last place. -/
theorem IsLastCut.unique {mark text before after before' after' : List Char}
    (h : IsLastCut mark text before after) (h' : IsLastCut mark text before' after') :
    before = before' ∧ after = after' := by
  have hlength : before.length = before'.length :=
    Nat.le_antisymm (h'.2 _ _ h.1) (h.2 _ _ h'.1)
  have htext : before ++ mark ++ after = before' ++ mark ++ after' := h.1.symm.trans h'.1
  rw [List.append_assoc, List.append_assoc] at htext
  obtain ⟨hbefore, hrest⟩ := List.append_inj htext hlength
  exact ⟨hbefore, List.append_cancel_left hrest⟩

/-- A mark stands nowhere behind the last of the character with which it starts. -/
theorem isLastCut_of_notMem {c : Char} {mark : List Char} (hmark : c ∉ mark) (hys : c ∉ ys) :
    IsLastCut (c :: mark) (xs ++ c :: mark ++ ys) xs ys := by
  refine ⟨rfl, fun us vs h => ?_⟩
  rw [List.append_assoc, List.append_assoc] at h
  rcases List.append_eq_append_iff.mp h with ⟨rest, rfl, hrest⟩ | ⟨rest, rfl, -⟩
  · cases rest with
    | nil => simp
    | cons d rest =>
      -- The other mark would start among what follows this one's first character.
      have htail : mark ++ ys = rest ++ (c :: mark ++ vs) := (List.cons.inj hrest).2
      have hmem : c ∈ mark ++ ys := by
        rw [htail]
        simp
      rcases List.mem_append.mp hmem with hc | hc
      · exact absurd hc hmark
      · exact absurd hc hys
  · simp

end Text

namespace Text.Json

variable {xs ys : List Char}

/-! ## Strings -/

/-- What a letter behind a backslash stands for. -/
def meaning : Char → Char
  | 'b' => '\x08'
  | 'f' => '\x0c'
  | 'n' => '\n'
  | 'r' => '\r'
  | 't' => '\t'
  | c => c

/-- Reads one character of a string, with what follows it. -/
def unescape? : List Char → Option (Char × List Char)
  | '\\' :: 'u' :: '0' :: '0' :: high :: low :: rest =>
    (Numeral.read? 16 [high, low]).map fun n => (Char.ofNat n, rest)
  | '\\' :: c :: rest => some (meaning c, rest)
  | c :: rest => some (c, rest)
  | [] => none

theorem unescape?_escaped (c : Char) (rest : List Char) :
    unescape? (escaped c ++ rest) = some (c, rest) := by
  rw [escaped.eq_def]
  split
  case h_8 hquote hbackslash _ _ _ _ _ =>
    split
    · next hlow =>
      have hdigits : ∀ n < 0x20,
          Numeral.read? 16 [(n / 16).digitChar, (n % 16).digitChar] = some n := by decide
      simp [unescape?, hdigits c.toNat hlow]
    · change unescape? (c :: rest) = some (c, rest)
      rw [unescape?.eq_def]
      split
      · next heq => exact absurd (List.cons.inj heq).1 hbackslash
      · next heq => exact absurd (List.cons.inj heq).1 hbackslash
      · next heq =>
        cases heq
        rfl
      · next heq => cases heq
  all_goals rfl

/-- No character of a string is taken for its closing quote. -/
theorem head?_escaped_ne (c : Char) (rest : List Char) :
    (escaped c ++ rest).head? ≠ some '"' := by
  rw [escaped.eq_def]
  split
  case h_8 hquote _ _ _ _ _ _ =>
    split
    · simp
    · simpa using hquote
  all_goals simp

theorem le_toNat_of_mem_escaped {c d : Char} (h : d ∈ escaped c) : 0x20 ≤ d.toNat := by
  rw [escaped.eq_def] at h
  split at h
  case h_8 =>
    split at h
    · next hlow =>
      have hwritten : ∀ n < 0x20,
          ∀ d ∈ ['\\', 'u', '0', '0', (n / 16).digitChar, (n % 16).digitChar], 0x20 ≤ d.toNat := by
        decide
      exact hwritten c.toNat hlow d h
    · next hlow =>
      rw [List.mem_singleton.mp h]
      omega
  all_goals
    have hwritten : ∀ c ∈ ['\\', '"', 'b', 'f', 'n', 'r', 't'], 0x20 ≤ c.toNat := by decide
    exact hwritten d (by simp at h ⊢; tauto)

theorem toList_string (s : String) :
    (string s).toList = '"' :: (s.toList.flatMap escaped ++ ['"']) := by
  simp [string]

theorem escaped_append_inj {cs ds : List Char}
    (h : cs.flatMap escaped ++ '"' :: xs = ds.flatMap escaped ++ '"' :: ys) : cs = ds ∧ xs = ys := by
  induction cs generalizing ds with
  | nil =>
    cases ds with
    | nil => exact ⟨rfl, (List.cons.inj h).2⟩
    | cons d ds =>
      rw [List.flatMap_cons, List.append_assoc] at h
      exact absurd (congrArg List.head? h).symm (head?_escaped_ne d _)
  | cons c cs ih =>
    rw [List.flatMap_cons, List.append_assoc] at h
    cases ds with
    | nil => exact absurd (congrArg List.head? h) (head?_escaped_ne c _)
    | cons d ds =>
      rw [List.flatMap_cons, List.append_assoc] at h
      have hread := congrArg unescape? h
      rw [unescape?_escaped, unescape?_escaped, Option.some.injEq, Prod.mk.injEq] at hread
      obtain ⟨hcs, hrest⟩ := ih hread.2
      exact ⟨by rw [hread.1, hcs], hrest⟩

/-- A string ends at its closing quote. -/
theorem string_append_inj {s t : String} (h : (string s).toList ++ xs = (string t).toList ++ ys) :
    s = t ∧ xs = ys := by
  simp only [toList_string, List.cons_append, List.append_assoc, List.nil_append] at h
  obtain ⟨hchars, hrest⟩ := escaped_append_inj (List.cons.inj h).2
  exact ⟨String.toList_inj.mp hchars, hrest⟩

theorem string_inj {s t : String} (h : string s = string t) : s = t := by
  have hchars : (string s).toList ++ [] = (string t).toList ++ [] := by rw [h]
  exact (string_append_inj hchars).1

/-! ## Values -/

/-- The texts of values. -/
inductive IsValue : String → Prop
  | null : IsValue "null"
  | number (w : Word) : IsValue (Word.decimal w)
  | string (s : String) : IsValue (string s)
  | object {fields : List (String × String)} (h : ∀ field ∈ fields, IsValue field.2) :
    IsValue (object fields)

/-- What may follow a value within an object. -/
def Closes (rest : List Char) : Prop := ∃ c tail, rest = c :: tail ∧ (c = ',' ∨ c = '\x7d')

/-- A value starts no text that another value starts. -/
def Delimited (v : String) : Prop :=
  ∀ w xs ys, IsValue w → Closes xs → Closes ys → v.toList ++ xs = w.toList ++ ys →
    v = w ∧ xs = ys

def fieldChars (field : String × String) : List Char :=
  (string field.1).toList ++ ':' :: field.2.toList

/-- How an object goes on after a field. -/
def moreChars (fields : List (String × String)) : List Char :=
  fields.flatMap (',' :: fieldChars ·) ++ ['\x7d']

theorem toList_object_nil : (object []).toList = ['\x7b', '\x7d'] := by
  simp [object]

theorem toList_object_cons (field : String × String) (fields : List (String × String)) :
    (object (field :: fields)).toList = '\x7b' :: (fieldChars field ++ moreChars fields) := by
  have hjoin : [','].intercalate ((field :: fields).map fieldChars) ++ ['\x7d'] =
      fieldChars field ++ moreChars fields := by
    induction fields generalizing field with
    | nil => simp [moreChars]
    | cons next fields ih =>
      have hmore : moreChars (next :: fields) = ',' :: (fieldChars next ++ moreChars fields) := by
        simp [moreChars]
      rw [hmore, ← ih next]
      simp [List.intercalate_cons_cons]
  have hfield : (String.toList ∘ fun field : String × String =>
      string field.1 ++ ":" ++ field.2) = fieldChars := by
    funext field
    simp [fieldChars]
  rw [← hjoin, object, String.toList_append, String.toList_append, String.toList_intercalate,
    List.map_map, hfield]
  rfl

theorem closes_moreChars (fields : List (String × String)) (rest : List Char) :
    Closes (moreChars fields ++ rest) := by
  cases fields with
  | nil => exact ⟨'\x7d', rest, rfl, .inr rfl⟩
  | cons field fields => exact ⟨',', _, by simp [moreChars]; rfl, .inl rfl⟩

theorem fieldChars_append_inj {f g : String × String} (hf : Delimited f.2) (hg : IsValue g.2)
    (hxs : Closes xs) (hys : Closes ys) (h : fieldChars f ++ xs = fieldChars g ++ ys) :
    f = g ∧ xs = ys := by
  simp only [fieldChars, List.append_assoc, List.cons_append] at h
  obtain ⟨hname, hrest⟩ := string_append_inj h
  obtain ⟨hvalue, hend⟩ := hf g.2 xs ys hg hxs hys (List.cons.inj hrest).2
  exact ⟨Prod.ext hname hvalue, hend⟩

theorem moreChars_append_inj {fs gs : List (String × String)} (hfs : ∀ f ∈ fs, Delimited f.2)
    (hgs : ∀ g ∈ gs, IsValue g.2) (h : moreChars fs ++ xs = moreChars gs ++ ys) :
    fs = gs ∧ xs = ys := by
  have hcons (field : String × String) (fields : List (String × String)) (rest : List Char) :
      moreChars (field :: fields) ++ rest =
        ',' :: (fieldChars field ++ (moreChars fields ++ rest)) := by
    simp [moreChars]
  induction fs generalizing gs with
  | nil =>
    cases gs with
    | nil => exact ⟨rfl, (List.cons.inj h).2⟩
    | cons g gs =>
      rw [hcons] at h
      exact absurd (List.cons.inj h).1 (by decide)
  | cons f fs ih =>
    rw [hcons] at h
    cases gs with
    | nil => exact absurd (List.cons.inj h).1 (by decide)
    | cons g gs =>
      rw [hcons] at h
      obtain ⟨rfl, hmore⟩ := fieldChars_append_inj (hfs f List.mem_cons_self)
        (hgs g List.mem_cons_self) (closes_moreChars fs xs) (closes_moreChars gs ys)
        (List.cons.inj h).2
      obtain ⟨rfl, hrest⟩ := ih (fun f hf => hfs f (List.mem_cons_of_mem _ hf))
        (fun g hg => hgs g (List.mem_cons_of_mem _ hg)) hmore
      exact ⟨rfl, hrest⟩

/-- An object ends at its closing brace. -/
theorem object_append_inj {fs gs : List (String × String)} (hfs : ∀ f ∈ fs, Delimited f.2)
    (hgs : ∀ g ∈ gs, IsValue g.2)
    (h : (object fs).toList ++ xs = (object gs).toList ++ ys) : fs = gs ∧ xs = ys := by
  cases fs with
  | nil =>
    cases gs with
    | nil => exact ⟨rfl, List.append_cancel_left h⟩
    | cons g gs => simp [toList_object_nil, toList_object_cons, fieldChars, toList_string] at h
  | cons f fs =>
    cases gs with
    | nil => simp [toList_object_nil, toList_object_cons, fieldChars, toList_string] at h
    | cons g gs =>
      have hmore : moreChars (f :: fs) ++ xs = moreChars (g :: gs) ++ ys := by
        simpa [toList_object_cons, moreChars] using h
      exact moreChars_append_inj hfs hgs hmore

inductive Kind where
  | null
  | number
  | string
  | object
  deriving DecidableEq, Repr

/-- The kind of a value, as its first character tells. -/
def kind : List Char → Kind
  | 'n' :: _ => .null
  | '"' :: _ => .string
  | '\x7b' :: _ => .object
  | _ => .number

@[simp] theorem kind_null (rest : List Char) : kind ('n' :: rest) = .null := rfl

@[simp] theorem kind_string (s : String) (rest : List Char) :
    kind ((string s).toList ++ rest) = .string := by
  simp [toList_string, kind]

@[simp] theorem kind_object (fields : List (String × String)) (rest : List Char) :
    kind ((object fields).toList ++ rest) = .object := by
  cases fields <;> simp [toList_object_nil, toList_object_cons, kind]

@[simp] theorem kind_decimal (w : Word) (rest : List Char) :
    kind ((Word.decimal w).toList ++ rest) = .number := by
  obtain ⟨d, ds, hdigits⟩ := List.exists_cons_of_ne_nil (Numeral.write_ne_nil 10 w.toNat)
  have hdigit {c : Char} (hc : Numeral.digit? 10 c = none) : d ≠ c := by
    rintro rfl
    exact Numeral.notMem_write (by decide) (by decide) hc (hdigits ▸ List.mem_cons_self)
  have hn := @hdigit 'n' rfl
  have hquote := @hdigit '"' rfl
  have hbrace := @hdigit '\x7b' rfl
  rw [Word.toList_decimal, hdigits, List.cons_append, kind.eq_def]
  split <;> simp_all

/-- A number ends at its last digit. -/
theorem decimal_append_inj {v w : Word} (hxs : Closes xs) (hys : Closes ys)
    (h : (Word.decimal v).toList ++ xs = (Word.decimal w).toList ++ ys) : v = w ∧ xs = ys := by
  have hdigits (w : Word) : ∀ c ∈ (Word.decimal w).toList, (Numeral.digit? 10 c).isSome = true := by
    rw [Word.toList_decimal]
    exact fun c => Numeral.isSome_digit?_of_mem_write (by decide) (by decide)
  have hend {rest : List Char} (hrest : Closes rest) :
      ∀ c ∈ rest.head?, (Numeral.digit? 10 c).isSome = false := by
    obtain ⟨c, tail, rfl, hc⟩ := hrest
    intro d hd
    cases hd
    rcases hc with rfl | rfl <;> rfl
  obtain ⟨hword, hrest⟩ :=
    append_inj_of_run (hdigits v) (hdigits w) (hend hxs) (hend hys) h
  exact ⟨Word.decimal_inj hword, hrest⟩

/-- A value ends where the object goes on. -/
theorem IsValue.delimited {v : String} (hv : IsValue v) : Delimited v := by
  induction hv with
  | null =>
    intro w xs ys hw hxs hys h
    have hkind := congrArg kind h
    cases hw with
    | null => exact ⟨rfl, List.append_cancel_left h⟩
    | _ => simp at hkind
  | number v =>
    intro w xs ys hw hxs hys h
    have hkind := congrArg kind h
    cases hw with
    | number w =>
      obtain ⟨rfl, hrest⟩ := decimal_append_inj hxs hys h
      exact ⟨rfl, hrest⟩
    | _ => simp at hkind
  | string s =>
    intro w xs ys hw hxs hys h
    have hkind := congrArg kind h
    cases hw with
    | string t =>
      obtain ⟨rfl, hrest⟩ := string_append_inj h
      exact ⟨rfl, hrest⟩
    | _ => simp at hkind
  | object hfields ih =>
    intro w xs ys hw hxs hys h
    have hkind := congrArg kind h
    cases hw with
    | object hfields' =>
      obtain ⟨rfl, hrest⟩ := object_append_inj ih hfields' h
      exact ⟨rfl, hrest⟩
    | _ => simp at hkind

/-- An object tells its fields. -/
theorem object_inj {fs gs : List (String × String)} (hfs : ∀ f ∈ fs, IsValue f.2)
    (hgs : ∀ g ∈ gs, IsValue g.2) (h : object fs = object gs) : fs = gs := by
  have hchars : (object fs).toList ++ [] = (object gs).toList ++ [] := by rw [h]
  exact (object_append_inj (fun f hf => (hfs f hf).delimited) hgs hchars).1

theorem le_toNat_string (s : String) : ∀ c ∈ (string s).toList, 0x20 ≤ c.toNat := by
  intro c hc
  rw [toList_string, List.mem_cons, List.mem_append, List.mem_singleton] at hc
  rcases hc with rfl | hc | rfl
  · decide
  · obtain ⟨d, -, hd⟩ := List.mem_flatMap.mp hc
    exact le_toNat_of_mem_escaped hd
  · decide

/-- An object is made up of its fields and its punctuation. -/
theorem mem_object {fields : List (String × String)} {c : Char} (h : c ∈ (object fields).toList) :
    c ∈ ['\x7b', ',', '\x7d'] ∨ ∃ field ∈ fields, c ∈ fieldChars field := by
  cases fields with
  | nil =>
    rw [toList_object_nil] at h
    simp at h ⊢
    tauto
  | cons first fields =>
    rw [toList_object_cons] at h
    simp only [moreChars, List.mem_cons, List.mem_append, List.mem_flatMap, List.not_mem_nil,
      or_false] at h ⊢
    rcases h with h | h | ⟨field, hmem, h | h⟩ | h
    · exact .inl (.inl h)
    · exact .inr ⟨first, .inl rfl, h⟩
    · exact .inl (.inr (.inl h))
    · exact .inr ⟨field, .inr hmem, h⟩
    · exact .inl (.inr (.inr h))

/-- No value holds a control character, such as a line end. -/
theorem IsValue.le_toNat {v : String} (hv : IsValue v) : ∀ c ∈ v.toList, 0x20 ≤ c.toNat := by
  induction hv with
  | null => decide
  | number w =>
    intro c hc
    rw [Word.toList_decimal] at hc
    have hdigit := Numeral.isSome_digit?_of_mem_write (by decide) (by decide) hc
    by_contra hlow
    rw [Numeral.digit?, if_neg (by omega), if_neg (by omega), if_neg (by omega)] at hdigit
    simp at hdigit
  | string s => exact le_toNat_string s
  | @object fields hfields ih =>
    have hfield : ∀ field ∈ fields, ∀ c ∈ fieldChars field, 0x20 ≤ c.toNat := by
      intro field hmem c hc
      rw [fieldChars, List.mem_append, List.mem_cons] at hc
      rcases hc with hc | rfl | hc
      · exact le_toNat_string field.1 c hc
      · decide
      · exact ih field hmem c hc
    intro c hc
    rcases mem_object hc with hc | ⟨field, hmem, hc⟩
    · have hpunctuation : ∀ c ∈ ['\x7b', ',', '\x7d'], 0x20 ≤ c.toNat := by decide
      exact hpunctuation c hc
    · exact hfield field hmem c hc

theorem IsValue.orNull {α : Type} {write : α → String} (h : ∀ a, IsValue (write a))
    (value : Option α) : IsValue (Json.orNull (value.map write)) := by
  cases value with
  | none => exact .null
  | some a => exact h a

end Text.Json

end Symbolication
