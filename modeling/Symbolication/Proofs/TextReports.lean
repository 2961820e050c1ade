import Symbolication.Proofs.ReportForms
import Symbolication.Proofs.Unambiguous

/-! A report of text has one line for each address. Nothing in a line is quoted, and the file name
in front may be any text, so a line is read from its end: the last two columns hold no blanks, and
what stands before them is the file name. -/

namespace Symbolication

/-! ## Lines of text -/

/-- What a line of text tells: a place in a source file, or an address that has none. -/
inductive TextLine where
  | hit (fileName : String) (address : Address) (line : Word)
  | miss (a : Address)
  deriving DecidableEq, Repr

namespace TextLine

def text : TextLine → String
  | hit fileName address line => fileName ++ " " ++ Word.hex address ++ " " ++ Word.decimal line
  | miss a => "?? " ++ Word.hex a ++ " 0"

def ofAnswer (answer : Answer) : TextLine :=
  match answer.outcome with
  | .ok row => hit row.fileName row.address row.line
  | .error _ => miss answer.address

theorem text_ofAnswer (answer : Answer) : (ofAnswer answer).text = answer.text := by
  rw [ofAnswer, Answer.text]
  cases answer.outcome <;> rfl

/-- A line that some run can write: that of any address without a place, or that of a row that is
found in a run. -/
inductive Writable : TextLine → Prop
  | miss (a : Address) : Writable (.miss a)
  | hit {files : Files} {options : Command.Options} {engine : Engine} {a : Address} {row : Row}
    (hengine : Command.engine files options = .ok engine) (hrow : engine.lookUp a = .ok row) :
    Writable (.hit row.fileName row.address row.line)

theorem toList_text_hit (fileName : String) (address : Address) (line : Word) :
    (hit fileName address line).text.toList =
      (fileName.toList ++ ' ' :: (Word.hex address).toList) ++
        ' ' :: (Word.decimal line).toList := by
  simp [text]

theorem toList_text_miss (a : Address) :
    (miss a).text.toList = ("??".toList ++ ' ' :: (Word.hex a).toList) ++ ' ' :: ['0'] := by
  simp [text]

/-- The last column of a hit is its line, the one before it the address. -/
theorem text_hit_inj {fileName fileName' : String} {address address' : Address} {line line' : Word}
    (h : (hit fileName address line).text = (hit fileName' address' line').text) :
    hit fileName address line = hit fileName' address' line' := by
  have hchars := congrArg String.toList h
  rw [toList_text_hit, toList_text_hit] at hchars
  obtain ⟨hrest, hline⟩ := Text.append_cons_inj_of_last (Word.notMem_decimal rfl line)
    (Word.notMem_decimal rfl line') hchars
  obtain ⟨hname, haddress⟩ := Text.append_cons_inj_of_last (Word.notMem_hex rfl address)
    (Word.notMem_hex rfl address') hrest
  rw [String.toList_inj.mp hname, Word.hex_inj haddress, Word.decimal_inj hline]

theorem text_miss_inj {a b : Address} (h : (miss a).text = (miss b).text) : miss a = miss b := by
  have hchars := congrArg String.toList h
  rw [toList_text_miss, toList_text_miss] at hchars
  obtain ⟨hrest, -⟩ := Text.append_cons_inj_of_last (by decide) (by decide) hchars
  rw [Word.hex_inj (List.cons.inj (List.append_cancel_left hrest)).2]

theorem text_hit_ne_text_miss {fileName : String} {address : Address} {line : Word} (h : line ≠ 0)
    (a : Address) : (hit fileName address line).text ≠ (miss a).text :=
  @Row.text_ne_of_line_ne_zero ⟨"", fileName, address, line⟩ h a

/-- A line that a run can write tells one thing. -/
theorem text_inj {line line' : TextLine} (hline : line.Writable) (hline' : line'.Writable)
    (h : line.text = line'.text) : line = line' := by
  cases hline with
  | miss a =>
    cases hline' with
    | miss b => exact text_miss_inj h
    | hit hengine hrow =>
      exact absurd h.symm
        (text_hit_ne_text_miss (Command.line_ne_zero_of_lookUp hengine hrow) a)
  | hit hengine hrow =>
    cases hline' with
    | miss b =>
      exact absurd h (text_hit_ne_text_miss (Command.line_ne_zero_of_lookUp hengine hrow) b)
    | hit => exact text_hit_inj h

/-- Only the file name of a hit can break its line. -/
theorem newline_notMem_text_ofAnswer {answer : Answer}
    (h : ∀ row, answer.outcome = .ok row → '\n' ∉ row.fileName.toList) :
    '\n' ∉ (ofAnswer answer).text.toList := by
  have hcolumn {xs ys : List Char} (hxs : '\n' ∉ xs) (hys : '\n' ∉ ys) :
      '\n' ∉ xs ++ ' ' :: ys := by
    simp [hxs, hys]
  rw [ofAnswer]
  cases houtcome : answer.outcome with
  | ok row =>
    rw [toList_text_hit]
    exact hcolumn (hcolumn (h row houtcome) (Word.notMem_hex rfl _)) (Word.notMem_decimal rfl _)
  | error miss =>
    rw [toList_text_miss]
    exact hcolumn (hcolumn (by decide) (Word.notMem_hex rfl _)) (by decide)

theorem writable_ofAnswer {files : Files} {options : Command.Options} {engine : Engine}
    (hengine : Command.engine files options = .ok engine) (a : Address) :
    (ofAnswer (engine.answer a)).Writable := by
  have houtcome : (engine.answer a).outcome = engine.lookUp a := rfl
  rw [ofAnswer, houtcome]
  cases hlookUp : engine.lookUp a with
  | ok row => exact .hit hengine hlookUp
  | error miss => exact .miss a

end TextLine

namespace Command

variable {files : Files} {options : Options} {input : Bytes} {engine : Engine}

/-- A report of text, as the lines that make it up. -/
theorem toList_stdout_perform (hjson : options.json = false)
    (hengine : Command.engine files options = .ok engine) :
    (perform files options input).stdout.toList =
      ((answered (requests options input)).map
        fun a => (TextLine.ofAnswer (engine.answer a)).text.toList).flatMap (· ++ ['\n']) := by
  rw [stdout_perform hengine, String.toList_join, List.flatMap_map, List.flatMap_map]
  simp [Answer.line, hjson, TextLine.text_ofAnswer]

/-- A report of text has a line for each address, in order, and each line tells what was found. -/
theorem perform_text (files : Files) (options : Options) (input : Bytes) (engine : Engine)
    (hjson : options.json = false) (hengine : Command.engine files options = .ok engine)
    (hnames : ∀ a ∈ answered (requests options input), ∀ row, engine.lookUp a = .ok row →
      '\n' ∉ row.fileName.toList) :
    Text.lines (perform files options input).stdout.toList =
        (answered (requests options input)).map
          (fun a => (TextLine.ofAnswer (engine.answer a)).text.toList) ++ [[]] ∧
      ∀ a, (TextLine.ofAnswer (engine.answer a)).Writable ∧
        ∀ line : TextLine, line.Writable →
          line.text = (TextLine.ofAnswer (engine.answer a)).text →
          line = TextLine.ofAnswer (engine.answer a) := by
  constructor
  · rw [toList_stdout_perform hjson hengine]
    refine Text.lines_flatMap fun cs hcs => ?_
    obtain ⟨a, ha, rfl⟩ := List.mem_map.mp hcs
    exact TextLine.newline_notMem_text_ofAnswer (hnames a ha)
  · intro a
    have hwritable := TextLine.writable_ofAnswer hengine a
    exact ⟨hwritable, fun line hline htext => TextLine.text_inj hline hwritable htext⟩

/-- A dump with the row of a file named by question marks, and an address in front of it. -/
theorem perform_text_marks :
    let files : Files := fun _ => .file (Bytes.ofAscii "?? 7 10")
    let options : Options := ⟨none, some "dump", false, true, ["10", "f"]⟩
    let engine : Engine := .static (LineTable.ofRows [⟨"", "??", 0x10, 7⟩]) none
    Command.engine files options = .ok engine ∧
      Text.lines (perform files options []).stdout.toList =
        ["?? 10 7".toList, "?? f 0".toList, []] ∧
      ∀ line : TextLine, line.Writable → line.text = "?? f 0" → line = .miss 0xf := by
  intro files options engine
  have hengine : Command.engine files options = .ok engine := rfl
  have hnames : ∀ a ∈ answered (requests options []), ∀ row, engine.lookUp a = .ok row →
      '\n' ∉ row.fileName.toList := by
    intro a _ row hrow
    have hmem := LineTable.mem_ofRows.mp (Engine.mem_of_lookUp hrow)
    rw [List.mem_singleton.mp hmem]
    decide
  obtain ⟨hlines, htold⟩ := perform_text files options [] engine rfl hengine hnames
  have hmiss : TextLine.ofAnswer (engine.answer 0xf) = .miss 0xf := by decide +kernel
  refine ⟨hengine, ?_, fun line hline htext => ?_⟩
  · rw [hlines]
    decide +kernel
  · rw [← hmiss]
    exact (htold 0xf).2 line hline (htext.trans (by rw [hmiss]; decide +kernel))

end Command

end Symbolication
