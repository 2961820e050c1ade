namespace Symbolication.Text

/-- The characters with the Unicode property White_Space. -/
def isBlank (c : Char) : Bool :=
  let n := c.toNat
  (0x9 ≤ n && n ≤ 0xd) || n == 0x20 || n == 0x85 || n == 0xa0 || n == 0x1680 ||
    (0x2000 ≤ n && n ≤ 0x200a) || n == 0x2028 || n == 0x2029 || n == 0x202f || n == 0x205f ||
    n == 0x3000

def trimStart (cs : List Char) : List Char := cs.dropWhile isBlank

def trimEnd (cs : List Char) : List Char := (cs.reverse.dropWhile isBlank).reverse

/-- A text without the blanks around it. -/
def trim (cs : List Char) : List Char := trimEnd (trimStart cs)

/-- The longest stretches of a text that hold no blank, in order. -/
def words (cs : List Char) : List (List Char) :=
  (cs.splitOnP isBlank).filter (!·.isEmpty)

/-- What holds of each character of a text is decided along the text, not over all characters. -/
instance decidableForallMem (p : Char → Prop) [DecidablePred p] (cs : List Char) :
    Decidable (∀ c ∈ cs, p c) := List.decidableBAll p cs

instance decidableForallMemOption (p : Char → Prop) [DecidablePred p] (c : Option Char) :
    Decidable (∀ d ∈ c, p d) := Option.decidableForallMem c

/-- Dropping what satisfies a test leaves nothing more to drop. -/
theorem dropWhile_dropWhile {α : Type} (p : α → Bool) (xs : List α) :
    (xs.dropWhile p).dropWhile p = xs.dropWhile p := by
  induction xs with
  | nil => rfl
  | cons x xs ih => by_cases h : p x = true <;> simp [h, ih]

theorem trimStart_trimStart (cs : List Char) : trimStart (trimStart cs) = trimStart cs :=
  dropWhile_dropWhile isBlank cs

theorem trimEnd_trimEnd (cs : List Char) : trimEnd (trimEnd cs) = trimEnd cs := by
  simp [trimEnd, dropWhile_dropWhile]

/-- What `trimEnd` removes comes last, so a text that starts with no blank still does. -/
theorem trimStart_trimEnd_of_trimStart {cs : List Char} (h : trimStart cs = cs) :
    trimStart (trimEnd cs) = trimEnd cs := by
  cases hc : trimEnd cs with
  | nil => rfl
  | cons c rest =>
    have hpre : trimEnd cs <+: cs := by
      have := List.dropWhile_suffix isBlank (l := cs.reverse)
      simpa [trimEnd] using List.reverse_prefix.mpr this
    rw [hc] at hpre
    obtain ⟨tail, rfl⟩ := hpre
    by_cases hb : isBlank c = true
    · exfalso
      have hl := (List.dropWhile_sublist isBlank (l := rest ++ tail)).length_le
      have := congrArg List.length h
      simp [trimStart, hb] at this hl
      omega
    · simp [trimStart, hb]

theorem trim_trim (cs : List Char) : trim (trim cs) = trim cs := by
  simp only [trim]
  rw [trimStart_trimEnd_of_trimStart (trimStart_trimStart cs), trimEnd_trimEnd]

/-! ## Blanks around a text -/

theorem trimStart_of_blank {cs : List Char} (h : ∀ c ∈ cs, isBlank c = true) :
    trimStart cs = [] := by
  have := @List.dropWhile_append_of_pos _ isBlank cs [] h
  simpa [trimStart] using this

theorem trimEnd_append {blanks : List Char} (cs : List Char) (h : ∀ c ∈ blanks, isBlank c = true) :
    trimEnd (cs ++ blanks) = trimEnd cs := by
  rw [trimEnd, List.reverse_append, List.dropWhile_append_of_pos (by simpa using h), ← trimEnd]

theorem trim_append_append {before after : List Char} (cs : List Char)
    (hbefore : ∀ c ∈ before, isBlank c = true) (hafter : ∀ c ∈ after, isBlank c = true) :
    trim (before ++ cs ++ after) = trim cs := by
  have hstart : trimStart (before ++ cs ++ after) =
      if (trimStart cs).isEmpty then [] else trimStart cs ++ after := by
    rw [trimStart, List.append_assoc, List.dropWhile_append_of_pos hbefore, List.dropWhile_append]
    rw [← trimStart, ← trimStart, trimStart_of_blank hafter]
  rw [trim, hstart, trim]
  split
  · next hempty => rw [List.isEmpty_iff.mp hempty]
  · exact trimEnd_append _ hafter

/-- Blanks that are put in where nothing but blanks comes before, or after, are trimmed. -/
theorem trim_append_append_of_blank {before blanks after : List Char}
    (hblanks : ∀ c ∈ blanks, isBlank c = true)
    (h : (∀ c ∈ before, isBlank c = true) ∨ ∀ c ∈ after, isBlank c = true) :
    trim (before ++ blanks ++ after) = trim (before ++ after) := by
  have hnone : ∀ c ∈ ([] : List Char), isBlank c = true := List.forall_mem_nil _
  rcases h with hbefore | hafter
  · have hmore : ∀ c ∈ before ++ blanks, isBlank c = true :=
      List.forall_mem_append.mpr ⟨hbefore, hblanks⟩
    have hlong := trim_append_append after hmore hnone
    have hshort := trim_append_append after hbefore hnone
    rw [List.append_nil] at hlong hshort
    rw [hlong, hshort]
  · have hmore : ∀ c ∈ blanks ++ after, isBlank c = true :=
      List.forall_mem_append.mpr ⟨hblanks, hafter⟩
    have hlong := trim_append_append before hnone hmore
    have hshort := trim_append_append before hnone hafter
    rw [List.nil_append] at hlong hshort
    rw [List.append_assoc, hlong, hshort]

theorem mem_trimStart {c : Char} {cs : List Char} (hc : c ∈ cs) (hsolid : isBlank c = false) :
    c ∈ trimStart cs := by
  rw [← List.takeWhile_append_dropWhile (p := isBlank) (l := cs), List.mem_append] at hc
  rcases hc with htake | hdrop
  · have hblank := List.all_eq_true.mp List.all_takeWhile c htake
    rw [hsolid] at hblank
    cases hblank
  · exact hdrop

/-- Trimming leaves every character that is not blank. -/
theorem mem_trim {c : Char} {cs : List Char} (hc : c ∈ cs) (hsolid : isBlank c = false) :
    c ∈ trim cs :=
  List.mem_reverse.mpr (mem_trimStart (List.mem_reverse.mpr (mem_trimStart hc hsolid)) hsolid)

/-- Nothing is left of a text exactly where all of it is blank. -/
theorem trim_eq_nil_iff {cs : List Char} : trim cs = [] ↔ ∀ c ∈ cs, isBlank c = true := by
  constructor
  · intro h c hc
    cases hsolid : isBlank c with
    | true => rfl
    | false =>
      have hleft := mem_trim hc hsolid
      rw [h] at hleft
      cases hleft
  · intro h
    rw [trim, trimStart_of_blank h]
    rfl

/-- What is trimmed is blank, at either end. -/
theorem exists_append_trim_append (cs : List Char) :
    ∃ before after, (∀ c ∈ before, isBlank c = true) ∧ (∀ c ∈ after, isBlank c = true) ∧
      cs = before ++ trim cs ++ after := by
  have hblank (xs : List Char) : ∀ c ∈ xs.takeWhile isBlank, isBlank c = true :=
    List.all_eq_true.mp List.all_takeWhile
  refine ⟨cs.takeWhile isBlank, ((trimStart cs).reverse.takeWhile isBlank).reverse, hblank cs,
    fun c hc => hblank _ c (List.mem_reverse.mp hc), ?_⟩
  have hend : trim cs ++ ((trimStart cs).reverse.takeWhile isBlank).reverse = trimStart cs := by
    rw [trim, trimEnd, ← List.reverse_append, List.takeWhile_append_dropWhile, List.reverse_reverse]
  rw [List.append_assoc, hend, trimStart, List.takeWhile_append_dropWhile]

theorem trim_subset (cs : List Char) : trim cs ⊆ cs := by
  obtain ⟨before, after, -, -, hcs⟩ := exists_append_trim_append cs
  intro c hc
  rw [hcs]
  simp [hc]

/-- A text that neither starts nor ends with a blank. -/
def IsTrimmed (cs : List Char) : Prop :=
  (∀ c ∈ cs.head?, isBlank c = false) ∧ ∀ c ∈ cs.getLast?, isBlank c = false

instance (cs : List Char) : Decidable (IsTrimmed cs) :=
  inferInstanceAs (Decidable ((∀ c ∈ cs.head?, _) ∧ ∀ c ∈ cs.getLast?, _))

theorem isTrimmed_trim (cs : List Char) : IsTrimmed (trim cs) := by
  have hhead (xs : List Char) : ∀ c ∈ (xs.dropWhile isBlank).head?, isBlank c = false := by
    intro c hc
    have hnot := List.head?_dropWhile_not isBlank xs
    rw [Option.mem_def.mp hc] at hnot
    exact hnot
  constructor
  · have hstart : (trim cs).dropWhile isBlank = trim cs :=
      trimStart_trimEnd_of_trimStart (trimStart_trimStart cs)
    rw [← hstart]
    exact hhead _
  · rw [trim, trimEnd, List.getLast?_reverse]
    exact hhead _

theorem IsTrimmed.trimStart {cs : List Char} (h : IsTrimmed cs) : trimStart cs = cs := by
  cases cs with
  | nil => rfl
  | cons c cs => simp [Text.trimStart, h.1 c rfl]

theorem IsTrimmed.reverse {cs : List Char} (h : IsTrimmed cs) : IsTrimmed cs.reverse := by
  simpa [IsTrimmed] using h.symm

theorem IsTrimmed.trimEnd {cs : List Char} (h : IsTrimmed cs) : trimEnd cs = cs := by
  rw [Text.trimEnd, ← Text.trimStart, h.reverse.trimStart, List.reverse_reverse]

theorem IsTrimmed.trim {cs : List Char} (h : IsTrimmed cs) : trim cs = cs := by
  rw [Text.trim, h.trimStart, h.trimEnd]

/-- A text keeps its trimmed start. -/
theorem IsTrimmed.trim_append {cs : List Char} (h : IsTrimmed cs) (hne : cs ≠ [])
    (rest : List Char) : Text.trim (cs ++ rest) = cs ++ Text.trimEnd rest := by
  have hstart : Text.trimStart (cs ++ rest) = cs ++ rest := by
    cases cs with
    | nil => exact absurd rfl hne
    | cons c cs => simp [Text.trimStart, h.1 c rfl]
  have hend : cs.reverse.dropWhile isBlank = cs.reverse := h.reverse.trimStart
  rw [Text.trim, hstart, Text.trimEnd, List.reverse_append, List.dropWhile_append, hend]
  split
  · next hempty => simp [Text.trimEnd, List.isEmpty_iff.mp hempty]
  · simp [Text.trimEnd]

theorem isTrimmed_of_solid {cs : List Char} (h : ∀ c ∈ cs, isBlank c = false) : IsTrimmed cs :=
  ⟨fun c hc => h c (List.mem_of_head? hc), fun c hc => h c (List.mem_of_getLast? hc)⟩

/-- What stands between two texts does not show at the ends. -/
theorem IsTrimmed.append_append {xs ys : List Char} (between : List Char) (hxs : IsTrimmed xs)
    (hys : IsTrimmed ys) (hxs_ne : xs ≠ []) (hys_ne : ys ≠ []) :
    IsTrimmed (xs ++ between ++ ys) := by
  constructor
  · cases xs with
    | nil => exact absurd rfl hxs_ne
    | cons x xs => exact hxs.1
  · have hlast : (xs ++ between ++ ys).getLast? = ys.getLast? := by
      rw [List.getLast?_append, List.getLast?_eq_some_getLast hys_ne, Option.some_or]
    rw [hlast]
    exact hys.2

/-! ## Words -/

theorem words_append_cons {b : Char} (xs ys : List Char) (h : isBlank b = true) :
    words (xs ++ b :: ys) = words xs ++ words ys := by
  rw [words, List.splitOnP_append_cons xs ys h, List.filter_append, ← words, ← words]

theorem words_blanks_append {blanks : List Char} (ys : List Char)
    (h : ∀ c ∈ blanks, isBlank c = true) : words (blanks ++ ys) = words ys := by
  induction blanks with
  | nil => rfl
  | cons b bs ih =>
    have hb := words_append_cons [] (bs ++ ys) (h b List.mem_cons_self)
    rw [List.cons_append]
    exact hb.trans (ih fun c hc => h c (List.mem_cons_of_mem _ hc))

theorem words_append_blanks {blanks : List Char} (xs : List Char)
    (h : ∀ c ∈ blanks, isBlank c = true) : words (xs ++ blanks) = words xs := by
  cases blanks with
  | nil => rw [List.append_nil]
  | cons b bs =>
    have hrest : words bs = [] := by
      have hbs := words_blanks_append [] fun c hc => h c (List.mem_cons_of_mem b hc)
      rwa [List.append_nil] at hbs
    rw [words_append_cons xs bs (h b List.mem_cons_self), hrest, List.append_nil]

/-- A text has the words of its trimmed form. -/
theorem words_trim (cs : List Char) : words (trim cs) = words cs := by
  obtain ⟨before, after, hbefore, hafter, hcs⟩ := exists_append_trim_append cs
  conv => rhs; rw [hcs, words_append_blanks _ hafter, words_blanks_append _ hbefore]

theorem words_of_solid {word : List Char} (hne : word ≠ []) (h : ∀ c ∈ word, isBlank c = false) :
    words word = [word] := by
  rw [words, List.splitOnP_eq_singleton h]
  simpa using hne

/-- Where a text does not start with a blank, its first word starts. -/
theorem words_cons_of_solid {c : Char} (cs : List Char) (h : isBlank c = false) :
    ∃ word more, words (c :: cs) = (c :: word) :: more := by
  obtain ⟨word, more, hsplit⟩ := List.exists_cons_of_ne_nil (List.splitOnP_ne_nil isBlank cs)
  refine ⟨word, more.filter (!·.isEmpty), ?_⟩
  rw [words, List.splitOnP_cons_eq_if_modifyHead, hsplit]
  simp [h]

/-- A word ends at the blanks that follow it. -/
theorem words_append_append {word blanks : List Char} (rest : List Char) (hne : word ≠ [])
    (hword : ∀ c ∈ word, isBlank c = false) (hblanks : ∀ c ∈ blanks, isBlank c = true)
    (hgap : blanks ≠ []) : words (word ++ blanks ++ rest) = word :: words rest := by
  cases blanks with
  | nil => exact absurd rfl hgap
  | cons b bs =>
    rw [List.append_assoc, List.cons_append, words_append_cons _ _ (hblanks b List.mem_cons_self),
      words_of_solid hne hword,
      words_blanks_append rest fun c hc => hblanks c (List.mem_cons_of_mem _ hc)]
    rfl

end Symbolication.Text
