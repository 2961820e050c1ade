import Symbolication.Proofs.ReportForms
import Symbolication.Proofs.Unambiguous

namespace Symbolication

/-! ## Misses -/

namespace Miss

@[simp] theorem toList_noRoutine (a : Address) :
    (noRoutine a).message.toList = "no known routine contains 0x".toList ++ (Word.hex a).toList := by
  change ("no known routine contains " ++ ("0x" ++ Word.hex a)).toList = _
  simp

@[simp] theorem toList_offsetUnderflow (a : Address) (routine : String) (start : Address) :
    (offsetUnderflow a routine start).message.toList =
      "0x".toList ++ ((Word.hex a).toList ++ ' ' ::
        ("lies before the start 0x".toList ++ ((Word.hex start).toList ++ ' ' ::
          ("of routine ".toList ++ routine.toList)))) := by
  change ("0x" ++ Word.hex a ++ " lies before the start " ++ ("0x" ++ Word.hex start) ++
    " of routine " ++ routine).toList = _
  simp

@[simp] theorem toList_unknownSymbol (routine : String) :
    (unknownSymbol routine).message.toList =
      "routine ".toList ++ (routine.toList ++ " is not in the static symbol table".toList) := by
  change ("routine " ++ routine ++ " is not in the static symbol table").toList = _
  simp

@[simp] theorem toList_addressOverflow (routine : String) (offset : Word) :
    (addressOverflow routine offset).message.toList =
      "static address of ".toList ++ (((routine.toList ++ " +".toList) ++
        ' ' :: ("0x".toList ++ (Word.hex offset).toList)) ++ " overflows".toList) := by
  change ("static address of " ++ routine ++ " + " ++ ("0x" ++ Word.hex offset) ++
    " overflows").toList = _
  simp

@[simp] theorem toList_noLineInfo (a : Address) :
    (noLineInfo a).message.toList =
      "no line information at or before 0x".toList ++ (Word.hex a).toList := by
  change ("no line information at or before " ++ ("0x" ++ Word.hex a)).toList = _
  simp

/-- Both addresses end at a blank, and the name is all that is left. -/
theorem message_offsetUnderflow_inj {a b start start' : Address} {routine routine' : String}
    (h : (offsetUnderflow a routine start).message.toList =
      (offsetUnderflow b routine' start').message.toList) :
    offsetUnderflow a routine start = offsetUnderflow b routine' start' := by
  rw [toList_offsetUnderflow, toList_offsetUnderflow] at h
  obtain ⟨ha, hrest⟩ := Text.append_cons_inj_of_first (Word.notMem_hex rfl a)
    (Word.notMem_hex rfl b) (List.append_cancel_left h)
  obtain ⟨hstart, hname⟩ := Text.append_cons_inj_of_first (Word.notMem_hex rfl start)
    (Word.notMem_hex rfl start') (List.append_cancel_left hrest)
  rw [Word.hex_inj ha, Word.hex_inj hstart, String.toList_inj.mp (List.append_cancel_left hname)]

/-- The offset starts behind the last blank but one, whatever the name is. -/
theorem message_addressOverflow_inj {routine routine' : String} {offset offset' : Word}
    (h : (addressOverflow routine offset).message.toList =
      (addressOverflow routine' offset').message.toList) :
    addressOverflow routine offset = addressOverflow routine' offset' := by
  have hmarked (w : Word) : ' ' ∉ "0x".toList ++ (Word.hex w).toList := by
    rw [List.mem_append, not_or]
    exact ⟨by decide, Word.notMem_hex rfl w⟩
  rw [toList_addressOverflow, toList_addressOverflow] at h
  obtain ⟨hname, hoffset⟩ := Text.append_cons_inj_of_last (hmarked offset) (hmarked offset')
    (List.append_cancel_right (List.append_cancel_left h))
  rw [String.toList_inj.mp (List.append_cancel_right hname),
    Word.hex_inj (List.append_cancel_left hoffset)]

/-- The sentence of a miss tells which miss it is. Sentences of different kinds start apart. -/
theorem message_inj {miss miss' : Miss} (h : miss.message = miss'.message) : miss = miss' := by
  have hchars := congrArg String.toList h
  cases miss with
  | noRoutine a =>
    cases miss' with
    | noRoutine b =>
      rw [toList_noRoutine, toList_noRoutine] at hchars
      rw [Word.hex_inj (List.append_cancel_left hchars)]
    | _ => simp at hchars
  | offsetUnderflow a routine start =>
    cases miss' with
    | offsetUnderflow b routine' start' => exact message_offsetUnderflow_inj hchars
    | _ => simp at hchars
  | unknownSymbol routine =>
    cases miss' with
    | unknownSymbol routine' =>
      rw [toList_unknownSymbol, toList_unknownSymbol] at hchars
      rw [String.toList_inj.mp (List.append_cancel_right (List.append_cancel_left hchars))]
    | _ => simp at hchars
  | addressOverflow routine offset =>
    cases miss' with
    | addressOverflow routine' offset' => exact message_addressOverflow_inj hchars
    | _ => simp at hchars
  | noLineInfo a =>
    cases miss' with
    | noLineInfo b =>
      rw [toList_noLineInfo, toList_noLineInfo] at hchars
      rw [Word.hex_inj (List.append_cancel_left hchars)]
    | _ => simp at hchars

end Miss

/-! ## Answers -/

open Text.Json

namespace Row

/-- The values of a row. -/
theorem isValue_fields (row : Row) : ∀ field ∈ [
    ("directory", Text.Json.string row.directory),
    ("file_name", Text.Json.string row.fileName),
    ("address", Word.decimal row.address),
    ("line_number", Word.decimal row.line)], IsValue field.2 := by
  simp only [List.forall_mem_cons]
  exact ⟨.string _, .string _, .number _, .number _, by simp⟩

theorem isValue_json (row : Row) : IsValue row.json := .object row.isValue_fields

theorem json_inj {row row' : Row} (h : row.json = row'.json) : row = row' := by
  have hfields := object_inj row.isValue_fields row'.isValue_fields h
  simp only [List.cons.injEq, Prod.mk.injEq, true_and, and_true] at hfields
  obtain ⟨hdirectory, hfileName, haddress, hline⟩ := hfields
  cases row
  cases row'
  rw [Row.mk.injEq]
  exact ⟨string_inj hdirectory, string_inj hfileName,
    Word.decimal_inj (congrArg String.toList haddress),
    Word.decimal_inj (congrArg String.toList hline)⟩

end Row

namespace Answer

def location (answer : Answer) : String := orNull (answer.outcome.toOption.map Row.json)

def missText (answer : Answer) : String :=
  orNull (answer.miss?.map fun miss => Text.Json.string miss.message)

def fields (answer : Answer) : List (String × String) :=
  ("address", Text.Json.string (Address.marked answer.address)) ::
    ((answer.label.map fun label => ("routine", Text.Json.string label)).toList ++
      [("location", answer.location), ("miss", answer.missText)])

theorem json_eq (answer : Answer) : answer.json = object answer.fields := rfl

theorem isValue_fields (answer : Answer) : ∀ field ∈ answer.fields, IsValue field.2 := by
  have hlabel : ∀ field ∈ (answer.label.map fun label =>
      ("routine", Text.Json.string label)).toList, IsValue field.2 := by
    intro field hfield
    obtain ⟨label, -, rfl⟩ := Option.map_eq_some_iff.mp (Option.mem_toList.mp hfield)
    exact .string label
  have hlocation : IsValue answer.location := .orNull Row.isValue_json _
  have hmiss : IsValue answer.missText := .orNull (fun _ => .string _) _
  simp only [fields, List.forall_mem_cons, List.forall_mem_append]
  exact ⟨.string _, hlabel, hlocation, hmiss, by simp⟩

theorem isValue_json (answer : Answer) : IsValue answer.json := by
  rw [json_eq]
  exact .object answer.isValue_fields

section Outcomes

variable {answer answer' : Answer}

theorem location_of_ok {row : Row} (h : answer.outcome = .ok row) : answer.location = row.json := by
  simp [location, h, Except.toOption, orNull]

theorem location_of_error {miss : Miss} (h : answer.outcome = .error miss) :
    answer.location = "null" := by
  simp [location, h, Except.toOption, orNull]

theorem missText_of_error {miss : Miss} (h : answer.outcome = .error miss) :
    answer.missText = Text.Json.string miss.message := by
  simp [missText, miss?, h, orNull]

/-- A row has a location, and a miss has a sentence, so the two parts tell the outcome. -/
theorem outcome_eq_of_texts (hlocation : answer.location = answer'.location)
    (hmiss : answer.missText = answer'.missText) : answer.outcome = answer'.outcome := by
  have hfound (row : Row) : row.json ≠ "null" :=
    ne_null_of_head? (head?_object _) (by decide)
  cases houtcome : answer.outcome with
  | ok row =>
    rw [location_of_ok houtcome] at hlocation
    cases houtcome' : answer'.outcome with
    | ok row' =>
      rw [location_of_ok houtcome'] at hlocation
      rw [Row.json_inj hlocation]
    | error miss' =>
      rw [location_of_error houtcome'] at hlocation
      exact absurd hlocation (hfound row)
  | error miss =>
    rw [location_of_error houtcome] at hlocation
    cases houtcome' : answer'.outcome with
    | ok row' =>
      rw [location_of_ok houtcome'] at hlocation
      exact absurd hlocation.symm (hfound row')
    | error miss' =>
      rw [missText_of_error houtcome, missText_of_error houtcome'] at hmiss
      rw [Miss.message_inj (string_inj hmiss)]

/-- The fields stand in one order, and only the label may be left out. -/
theorem parts_of_fields_eq (h : answer.fields = answer'.fields) :
    answer.address = answer'.address ∧ answer.label = answer'.label ∧
      answer.location = answer'.location ∧ answer.missText = answer'.missText := by
  rw [fields, fields, List.cons.injEq, Prod.mk.injEq] at h
  obtain ⟨⟨-, haddress⟩, hrest⟩ := h
  have hchars := congrArg String.toList (string_inj haddress)
  rw [Address.marked, Address.marked, String.toList_append, String.toList_append] at hchars
  obtain ⟨hlabels, htail⟩ := List.append_inj' hrest rfl
  have hfield := congrArg List.head? hlabels
  rw [Option.head?_toList, Option.head?_toList] at hfield
  have hlabel : answer.label = answer'.label :=
    Option.map_injective (fun _ _ h => string_inj (Prod.mk.inj h).2) hfield
  exact ⟨Word.hex_inj (List.append_cancel_left hchars), hlabel, by simpa using htail⟩

theorem json_inj (h : answer.json = answer'.json) : answer = answer' := by
  rw [json_eq, json_eq] at h
  obtain ⟨haddress, hlabel, hlocation, hmiss⟩ :=
    parts_of_fields_eq (object_inj answer.isValue_fields answer'.isValue_fields h)
  have houtcome := outcome_eq_of_texts hlocation hmiss
  cases answer
  cases answer'
  rw [Answer.mk.injEq]
  exact ⟨haddress, hlabel, houtcome⟩

end Outcomes

/-- A report of JSON keeps to its line, and tells the whole answer. -/
theorem line_json :
    (∀ answer : Answer, ∃ body : List Char, (answer.line true).toList = body ++ ['\n'] ∧
      ∀ c ∈ body, 0x20 ≤ c.toNat) ∧
    Function.Injective (Answer.line true) ∧ Function.Injective Miss.message := by
  refine ⟨fun answer => ⟨answer.json.toList, ?_, answer.isValue_json.le_toNat⟩, ?_, ?_⟩
  · simp [line]
  · intro answer answer' h
    have hchars := congrArg String.toList h
    simp only [line, if_true, String.toList_append] at hchars
    exact json_inj (String.toList_inj.mp (List.append_cancel_right hchars))
  · exact fun miss miss' => Miss.message_inj

end Answer

end Symbolication
