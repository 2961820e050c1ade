import Mathlib.Data.List.Infix
import Symbolication.Command

/-! The exit code of a run that ends early goes by the words of its message, and most messages
repeat texts from outside: paths, names of sections and fields of routine files. What is said here
is when the words are the message's own and when they are repeated ones. The details of a malformed
file are left out of the messages, and so they are here. -/

namespace Symbolication

namespace Text

/-- Letters and the other visible characters of ASCII are printable. -/
theorem printable_of_ascii {c : Char} (hlow : 0x20 ≤ c.toNat) (hhigh : c.toNat < 0x7f) :
    (isUnprintable c || isIgnorable c || isExtending c) = false := by
  have houtside {ranges : List (Nat × Nat)}
      (h : ∀ range ∈ ranges, range.2 < 0x20 ∨ 0x7f ≤ range.1) :
      inRanges ranges c.toNat = false := by
    rw [inRanges, List.any_eq_false]
    intro range hrange
    have := h range hrange
    simp only [Bool.and_eq_true, decide_eq_true_eq]
    omega
  have hunprintable : isUnprintable c = false := houtside (by decide +kernel)
  have hignorable : isIgnorable c = false := houtside (by decide +kernel)
  have hextending : isExtending c = false := houtside (by decide +kernel)
  rw [hunprintable, hignorable, hextending]
  rfl

def InPhrases (c : Char) : Prop := c = ' ' ∨ 'a' ≤ c ∧ c ≤ 'z'

instance (c : Char) : Decidable (InPhrases c) := inferInstanceAs (Decidable (_ ∨ _))

/-- Letters of either case are quoted as they are. -/
theorem escaped_of_inPhrases {c : Char} (h : InPhrases c.toLower) : escaped c = [c] := by
  have hcode : c.toNat = 0x20 ∨ 0x61 ≤ c.toNat ∧ c.toNat ≤ 0x7a ∨
      0x41 ≤ c.toNat ∧ c.toNat ≤ 0x5a := by
    have hlower := Numeral.toNat_toLower c
    have hn : c.toLower.toNat = 0x20 ∨ 0x61 ≤ c.toLower.toNat ∧ c.toLower.toNat ≤ 0x7a := by
      rcases h with h | ⟨hlow, hhigh⟩
      · exact .inl (by rw [h]; rfl)
      · exact .inr ⟨hlow, hhigh⟩
    split at hlower <;> omega
  have hprintable := @printable_of_ascii c (by omega) (by omega)
  rw [escaped.eq_def]
  split
  case h_7 => simp only [hprintable, Bool.false_eq_true, if_false]
  all_goals exact absurd hcode (by decide)

/-- What quoting escapes is written with a backslash and with characters that start no phrase. -/
theorem escaped_eq_or (c : Char) :
    escaped c = [c] ∨
      ∃ rest, escaped c = '\\' :: rest ∧ ∀ x ∈ rest, x.toLower ≠ 'm' ∧ x.toLower ≠ 'i' := by
  rw [escaped.eq_def]
  split
  case h_7 =>
    split
    · refine .inr ⟨'u' :: '\x7b' :: Numeral.write 16 c.toNat ++ ['\x7d'], rfl, fun x hx => ?_⟩
      rcases List.mem_append.mp hx with hx | hx
      · rcases List.mem_cons.mp hx with rfl | hx
        · decide
        · rcases List.mem_cons.mp hx with rfl | hx
          · decide
          · -- No hexadecimal digit is an `m` or an `i`.
            have hdigit := Numeral.isSome_digit?_of_mem_write (by decide) (by decide) hx
            rw [← Numeral.digit?_toLower] at hdigit
            constructor <;> intro h <;> rw [h] at hdigit <;> cases hdigit
      · rw [List.mem_singleton.mp hx]
        decide
    · exact .inl rfl
  all_goals exact .inr ⟨_, rfl, by decide⟩

end Text

namespace Command.RunFailure

/-! ## Phrases in a text -/

theorem occursIn_iff {part cs : List Char} : occursIn part cs = true ↔ part <:+: cs := by
  induction cs with
  | nil => simp [occursIn]
  | cons c cs ih =>
    rw [occursIn, Bool.or_eq_true, ih, List.isPrefixOf_iff_prefix, List.infix_cons_iff]

def lowered (text : String) : List Char := text.toList.map Char.toLower

/-- The text says what messages about wrong arguments say, in letters of either case. -/
def SoundsLikeUsage (text : String) : Prop :=
  ∃ phrase ∈ usagePhrases, phrase.toList <:+: lowered text

theorem lowered_append (s t : String) : lowered (s ++ t) = lowered s ++ lowered t := by
  simp [lowered]

instance (text : String) : Decidable (SoundsLikeUsage text) :=
  inferInstanceAs (Decidable (∃ phrase ∈ usagePhrases, phrase.toList <:+: lowered text))

/-- A phrase cannot start within a text and go on behind it, nor does the text hold it. -/
def Apart (phrase text : List Char) : Prop :=
  ¬ phrase <:+: text ∧ ∀ tail ∈ text.tails, tail <+: phrase → tail = []

instance (phrase text : List Char) : Decidable (Apart phrase text) :=
  inferInstanceAs (Decidable (_ ∧ _))

theorem infix_append_iff_of_apart {phrase lead : List Char} (h : Apart phrase lead)
    (rest : List Char) : phrase <:+: lead ++ rest ↔ phrase <:+: rest := by
  rw [List.infix_append_iff]
  constructor
  · rintro (hlead | hrest | ⟨start, tail, rfl, hstart, htail⟩)
    · exact absurd hlead h.1
    · exact hrest
    · have := h.2 start ((List.mem_tails _ _).mpr hstart) (List.prefix_append start tail)
      rw [this]
      exact htail.isInfix
  · exact fun hrest => .inr (.inl hrest)

/-- A text without the first character of a phrase keeps apart from it. -/
theorem apart_of_notMem {c : Char} {phrase text : List Char} (h : c ∉ text) :
    Apart (c :: phrase) text := by
  refine ⟨fun hin => h (hin.subset List.mem_cons_self), fun tail htail hstart => ?_⟩
  cases tail with
  | nil => rfl
  | cons d tail =>
    have hd := ((List.mem_tails _ _).mp htail).subset List.mem_cons_self
    rw [(List.cons_prefix_cons.mp hstart).1] at hd
    exact absurd hd h

/-- A phrase does not go on over a character that it does not have. -/
theorem infix_append_iff_of_break {c : Char} {phrase rest : List Char} (h : c ∉ phrase)
    (text : List Char) :
    phrase <:+: text ++ c :: rest ↔ phrase <:+: text ∨ phrase <:+: c :: rest := by
  rw [List.infix_append_iff]
  constructor
  · rintro (htext | hrest | ⟨start, tail, rfl, hstart, htail⟩)
    · exact .inl htext
    · exact .inr hrest
    · cases tail with
      | nil => exact .inl (by simpa using hstart.isInfix)
      | cons d tail =>
        rw [(List.cons_prefix_cons.mp htail).1] at h
        exact absurd (by simp) h
  · rintro (htext | hrest)
    · exact .inl htext
    · exact .inr (.inl hrest)

/-! ### Quoted texts -/

/-- The quoted form of a text, in small letters and without its quotes. -/
def loweredEscapes (cs : List Char) : List Char := (cs.flatMap Text.escaped).map Char.toLower

theorem prefix_loweredEscapes_iff {phrase : List Char} (h : ∀ c ∈ phrase, Text.InPhrases c)
    (cs : List Char) : phrase <+: loweredEscapes cs ↔ phrase <+: cs.map Char.toLower := by
  induction cs generalizing phrase with
  | nil => rfl
  | cons c cs ih =>
    cases phrase with
    | nil => simp
    | cons d phrase =>
      have hphrase (x : Char) (hx : x ∈ phrase) := h x (List.mem_cons_of_mem d hx)
      rcases Text.escaped_eq_or c with hplain | ⟨rest, hescaped, -⟩
      · have : loweredEscapes (c :: cs) = c.toLower :: loweredEscapes cs := by
          simp [loweredEscapes, hplain]
        rw [this, List.map_cons, List.cons_prefix_cons, List.cons_prefix_cons, ih hphrase]
      · have hstart : loweredEscapes (c :: cs) =
            '\\' :: (rest.map Char.toLower ++ loweredEscapes cs) := by
          simp [loweredEscapes, hescaped]
        have hd : Text.InPhrases d := h d List.mem_cons_self
        rw [hstart, List.map_cons, List.cons_prefix_cons, List.cons_prefix_cons]
        constructor
        · rintro ⟨rfl, -⟩
          exact absurd hd (by decide)
        · rintro ⟨rfl, -⟩
          rw [Text.escaped_of_inPhrases hd] at hescaped
          rw [(List.cons.inj hescaped).1] at hd
          exact absurd hd (by decide)

/-- Quoting neither makes nor breaks a phrase. -/
theorem infix_loweredEscapes_iff {d : Char} {phrase : List Char}
    (h : ∀ c ∈ d :: phrase, Text.InPhrases c) (hd : d = 'm' ∨ d = 'i') (cs : List Char) :
    d :: phrase <:+: loweredEscapes cs ↔ d :: phrase <:+: cs.map Char.toLower := by
  induction cs with
  | nil => rfl
  | cons c cs ih =>
    have hstart := prefix_loweredEscapes_iff h (c :: cs)
    rcases Text.escaped_eq_or c with hplain | ⟨rest, hescaped, hrest⟩
    · have hcons : loweredEscapes (c :: cs) = c.toLower :: loweredEscapes cs := by
        simp [loweredEscapes, hplain]
      rw [hcons] at hstart ⊢
      rw [List.infix_cons_iff, hstart, ih, List.map_cons, List.infix_cons_iff]
    · have hcons : loweredEscapes (c :: cs) =
          '\\' :: rest.map Char.toLower ++ loweredEscapes cs := by
        simp [loweredEscapes, hescaped]
      have hnotMem : d ∉ '\\' :: rest.map Char.toLower := by
        intro hmem
        rcases List.mem_cons.mp hmem with rfl | hmem
        · exact absurd hd (by decide)
        · obtain ⟨x, hx, rfl⟩ := List.mem_map.mp hmem
          exact hd.elim (hrest x hx).1 (hrest x hx).2
      have hno : ¬ d :: phrase <+: (c :: cs).map Char.toLower := by
        rw [← hstart, hcons, List.cons_append, List.cons_prefix_cons]
        rintro ⟨rfl, -⟩
        exact absurd hd (by decide)
      rw [hcons, infix_append_iff_of_apart (apart_of_notMem hnotMem), ih]
      rw [List.map_cons] at hno ⊢
      rw [List.infix_cons_iff, or_iff_right hno]

/-! ### Messages -/

theorem soundsLikeUsage_append_of_apart {lead : String}
    (h : ∀ phrase ∈ usagePhrases, Apart phrase.toList (lowered lead)) (rest : String) :
    SoundsLikeUsage (lead ++ rest) ↔ SoundsLikeUsage rest := by
  simp only [SoundsLikeUsage, lowered_append]
  refine exists_congr fun phrase => and_congr_right fun hphrase => ?_
  exact infix_append_iff_of_apart (h phrase hphrase) _

/-- What follows a break tells on its own whether it sounds like a wrong argument. -/
theorem soundsLikeUsage_append_of_break {c : Char} {rest : String} {tail : List Char}
    (hrest : lowered rest = c :: tail) (hc : ∀ phrase ∈ usagePhrases, c ∉ phrase.toList)
    (text : String) :
    SoundsLikeUsage (text ++ rest) ↔ SoundsLikeUsage text ∨ SoundsLikeUsage rest := by
  simp only [SoundsLikeUsage, lowered_append, ← exists_or, ← and_or_left]
  refine exists_congr fun phrase => and_congr_right fun hphrase => ?_
  rw [hrest]
  exact infix_append_iff_of_break (hc phrase hphrase) _

theorem soundsLikeUsage_colon (text rest : String) :
    SoundsLikeUsage (text ++ (": " ++ rest)) ↔ SoundsLikeUsage text ∨ SoundsLikeUsage rest := by
  have hcolon : lowered (": " ++ rest) = ':' :: (' ' :: lowered rest) := by
    rw [lowered_append]
    rfl
  rw [soundsLikeUsage_append_of_break hcolon (by decide),
    soundsLikeUsage_append_of_apart (by decide)]

/-- Both phrases consist of words in small letters. -/
theorem usagePhrases_letters : ∀ phrase ∈ usagePhrases, ∃ d rest, phrase.toList = d :: rest ∧
    (d = 'm' ∨ d = 'i') ∧ ∀ c ∈ d :: rest, Text.InPhrases c := by
  intro phrase hphrase
  rcases List.mem_pair.mp hphrase with rfl | rfl
  · exact ⟨'m', _, rfl, by decide, by decide⟩
  · exact ⟨'i', _, rfl, by decide, by decide⟩

theorem soundsLikeUsage_quoted (text : String) :
    SoundsLikeUsage (Text.quoted text) ↔ SoundsLikeUsage text := by
  have hquoted : lowered (Text.quoted text) = ['"'] ++ (loweredEscapes text.toList ++ ['"']) := by
    simp [lowered, Text.quoted, loweredEscapes]
  refine exists_congr fun phrase => and_congr_right fun hphrase => ?_
  obtain ⟨d, rest, hletters, hd, hphrases⟩ := usagePhrases_letters phrase hphrase
  have hlead : d ∉ ['"'] := by rcases hd with rfl | rfl <;> decide
  have hbreak : '"' ∉ d :: rest := fun h => absurd (hphrases _ h) (by decide)
  have htail : ¬ d :: rest <:+: ['"'] := fun h => hlead (h.subset List.mem_cons_self)
  rw [hletters, hquoted, infix_append_iff_of_apart (apart_of_notMem hlead),
    infix_append_iff_of_break hbreak, or_iff_left htail, infix_loweredEscapes_iff hphrases hd]
  rfl

theorem soundsLikeUsage_decimal (n : Nat) (rest : String) :
    SoundsLikeUsage (Numeral.decimal n ++ rest) ↔ SoundsLikeUsage rest := by
  refine soundsLikeUsage_append_of_apart (fun phrase hphrase => ?_) rest
  obtain ⟨d, rest, hletters, hd, -⟩ := usagePhrases_letters phrase hphrase
  rw [hletters]
  refine apart_of_notMem fun hmem => ?_
  obtain ⟨x, hx, rfl⟩ := List.mem_map.mp hmem
  have hdigit := Numeral.isSome_digit?_of_mem_write (by decide) (by decide)
    (show x ∈ Numeral.write 10 n by simpa [Numeral.decimal] using hx)
  rw [← Numeral.digit?_toLower] at hdigit
  rcases hd with h | h <;> rw [h] at hdigit <;> cases hdigit

end Command.RunFailure

/-! ## What a message repeats -/

/-- The texts from outside that the message of a failure repeats. -/
def TargetFault.repeated : TargetFault → List String
  | notFound path | notFile path | unreadable path _ => [path]

def ReadFault.repeated : ReadFault → List String
  | .other text => [text]
  | _ => []

def RoutineFault.repeated : RoutineFault → List String
  | .badStart text | .badSize text => [text]
  | .missingField | .emptyName => []

def BinaryFault.repeated : BinaryFault → List String
  | .section name => [name]
  | .object | .noDebugInfo | .malformed => []

def Failure.repeated : Failure → List String
  | .unreadable path fault => path :: fault.repeated
  | .undecodable path fault => path :: fault.repeated
  | .badLine source _ fault => source :: fault.repeated

open Command.RunFailure

theorem soundsLikeUsage_append_of_closing {closing : String} {c : Char} {tail : List Char}
    (hclosing : lowered closing = c :: tail) (hc : ∀ phrase ∈ usagePhrases, c ∉ phrase.toList)
    (h : ¬ SoundsLikeUsage closing) (text : String) :
    SoundsLikeUsage (text ++ closing) ↔ SoundsLikeUsage text := by
  rw [soundsLikeUsage_append_of_break hclosing hc, or_iff_left h]

theorem TargetFault.soundsLikeUsage_message_iff (fault : TargetFault) :
    SoundsLikeUsage fault.message ↔ ∃ text ∈ fault.repeated, SoundsLikeUsage text := by
  cases fault with
  | notFound path =>
    change SoundsLikeUsage ("Binary not found: " ++ path ++
      "\n\nMake sure the path is correct and the binary exists.") ↔ _
    rw [soundsLikeUsage_append_of_closing rfl (by decide) (by decide +kernel),
      soundsLikeUsage_append_of_apart (by decide +kernel)]
    simp [repeated]
  | notFile path =>
    change SoundsLikeUsage ("Not a file: " ++ path ++
      "\n\n--binary must point to an executable or shared object, not a directory.") ↔ _
    rw [soundsLikeUsage_append_of_closing rfl (by decide) (by decide +kernel),
      soundsLikeUsage_append_of_apart (by decide +kernel)]
    simp [repeated]
  | unreadable path fault =>
    change SoundsLikeUsage ("Failed to read binary: " ++ path) ↔ _
    rw [soundsLikeUsage_append_of_apart (by decide +kernel)]
    simp [repeated]

theorem ReadFault.soundsLikeUsage_message_iff (fault : ReadFault) :
    SoundsLikeUsage fault.message ↔ ∃ text ∈ fault.repeated, SoundsLikeUsage text := by
  cases fault with
  | other text => simp [message, repeated]
  | _ => exact iff_of_false (by decide +kernel) (by simp [repeated])

theorem RoutineFault.soundsLikeUsage_message_iff (fault : RoutineFault) :
    SoundsLikeUsage fault.message ↔ ∃ text ∈ fault.repeated, SoundsLikeUsage text := by
  cases fault with
  | badStart text =>
    change SoundsLikeUsage ("invalid start address " ++ Text.quoted text) ↔ _
    rw [soundsLikeUsage_append_of_apart (by decide +kernel), soundsLikeUsage_quoted]
    simp [repeated]
  | badSize text =>
    change SoundsLikeUsage ("invalid size " ++ Text.quoted text) ↔ _
    rw [soundsLikeUsage_append_of_apart (by decide +kernel), soundsLikeUsage_quoted]
    simp [repeated]
  | _ => exact iff_of_false (by decide +kernel) (by simp [repeated])

theorem BinaryFault.soundsLikeUsage_message_iff (fault : BinaryFault) :
    SoundsLikeUsage fault.message ↔ ∃ text ∈ fault.repeated, SoundsLikeUsage text := by
  cases fault with
  | «section» name =>
    change SoundsLikeUsage ("Failed to read section " ++ name ++ (": " ++ "*")) ↔ _
    rw [soundsLikeUsage_append_of_closing rfl (by decide) (by decide +kernel),
      soundsLikeUsage_append_of_apart (by decide +kernel)]
    simp [repeated]
  | _ => exact iff_of_false (by decide +kernel) (by simp [repeated])

theorem Failure.soundsLikeUsage_message_iff (failure : Failure) :
    SoundsLikeUsage failure.message ↔ ∃ text ∈ failure.repeated, SoundsLikeUsage text := by
  cases failure with
  | unreadable path fault =>
    change SoundsLikeUsage ("Failed to open " ++ path ++ ": " ++ fault.message) ↔ _
    rw [String.append_assoc, String.append_assoc,
      soundsLikeUsage_append_of_apart (by decide +kernel), soundsLikeUsage_colon,
      fault.soundsLikeUsage_message_iff]
    simp [repeated]
  | undecodable path fault =>
    change SoundsLikeUsage
      ("Failed to decode debug information in " ++ path ++ ": " ++ fault.message) ↔ _
    rw [String.append_assoc, String.append_assoc,
      soundsLikeUsage_append_of_apart (by decide +kernel), soundsLikeUsage_colon,
      fault.soundsLikeUsage_message_iff]
    simp [repeated]
  | badLine source line fault =>
    change SoundsLikeUsage ("Malformed line " ++ Numeral.decimal line ++ " in " ++ source ++ ": " ++
      fault.message) ↔ _
    rw [String.append_assoc, String.append_assoc, String.append_assoc, String.append_assoc,
      soundsLikeUsage_append_of_apart (by decide +kernel), soundsLikeUsage_decimal,
      soundsLikeUsage_append_of_apart (by decide +kernel), soundsLikeUsage_colon,
      fault.soundsLikeUsage_message_iff]
    simp [repeated]

namespace Command.RunFailure

/-- The failure is that of a wrong argument, or of a line of input that is no address. -/
def isUsage : RunFailure → Bool
  | noSource | badArgument _ | badInputLine .. => true
  | badTarget _ | badTable _ | unreadableInput _ => false

def repeated : RunFailure → List String
  | noSource | unreadableInput _ => []
  | badTarget fault => fault.repeated
  | badTable failure => failure.repeated
  | badArgument text | badInputLine _ text => [text]

theorem soundsLikeUsage_append_of_left {lead : String} (h : SoundsLikeUsage lead) (rest : String) :
    SoundsLikeUsage (lead ++ rest) := by
  obtain ⟨phrase, hphrase, hin⟩ := h
  exact ⟨phrase, hphrase, lowered_append lead rest ▸ hin.trans (List.prefix_append _ _).isInfix⟩

theorem soundsLikeUsage_message_iff (failure : RunFailure) :
    SoundsLikeUsage failure.message ↔
      failure.isUsage ∨ ∃ text ∈ failure.repeated, SoundsLikeUsage text := by
  cases failure with
  | noSource => exact iff_of_true (by decide +kernel) (.inl rfl)
  | badTarget fault => exact fault.soundsLikeUsage_message_iff.trans (by simp [isUsage, repeated])
  | badTable failure =>
    exact failure.soundsLikeUsage_message_iff.trans (by simp [isUsage, repeated])
  | badArgument text =>
    exact iff_of_true (soundsLikeUsage_append_of_left (by decide +kernel) _) (.inl rfl)
  | badInputLine line text =>
    refine iff_of_true ?_ (.inl rfl)
    change SoundsLikeUsage ("Invalid address on stdin line " ++ _ ++ _ ++ _)
    simp only [String.append_assoc]
    exact soundsLikeUsage_append_of_left (by decide +kernel) _
  | unreadableInput fault =>
    refine iff_of_false ?_ (by simp [isUsage, repeated])
    change ¬ SoundsLikeUsage "Failed to read addresses from stdin"
    decide +kernel

/-- The exit code tells usage errors from others, except where a repeated text sounds like one. -/
theorem code_eq (failure : RunFailure) :
    failure.code =
      if failure.cause? = some .denied then 77
      else if failure.isUsage ∨ ∃ text ∈ failure.repeated, SoundsLikeUsage text then 2
      else 1 := by
  have hsounds : (usagePhrases.any fun phrase => occursIn phrase.toList (lowered failure.message)) =
      true ↔ SoundsLikeUsage failure.message := by
    simp only [List.any_eq_true, occursIn_iff, SoundsLikeUsage]
  simp only [← soundsLikeUsage_message_iff, ← hsounds]
  rfl

theorem code_ne_zero (failure : RunFailure) : failure.code ≠ 0 := by
  rw [code_eq]
  split_ifs <;> decide

theorem code_of_isUsage {failure : RunFailure} (h : failure.isUsage) : failure.code = 2 := by
  have hcause : failure.cause? = none := by cases failure <;> first | rfl | cases h
  rw [code_eq, hcause, if_neg (by decide), if_pos (.inl h)]

end Command.RunFailure

end Symbolication
