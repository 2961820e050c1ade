import Mathlib.Data.List.Basic
import Symbolication.LineDump

/-! A dump as it is laid out, said without the parser that reads it: blocks of rows, each under a
header line, with column headings, blank lines and the ends of sequences anywhere between them. The
columns of a line stand apart by any blanks, and any blanks may stand around a line. -/

namespace Symbolication

/-! ## Digits -/

/-- No digit is blank. -/
theorem Numeral.isBlank_of_digit? {base : Nat} {c : Char} (h : (digit? base c).isSome) :
    Text.isBlank c = false := by
  have hdigit := toNat_of_digit? h
  simp only [Text.isBlank, Bool.or_eq_false_iff, Bool.and_eq_false_iff, decide_eq_false_iff_not,
    beq_eq_false_iff_ne]
  omega

namespace LineDump

/-! ## Columns -/

structure Blanks where
  chars : List Char
  blank : ∀ c ∈ chars, Text.isBlank c = true
  inLine : '\n' ∉ chars

/-- The blanks that keep two columns apart. -/
structure Gap extends Blanks where
  nonempty : chars ≠ []

structure Column where
  chars : List Char
  nonempty : chars ≠ []
  solid : ∀ c ∈ chars, Text.isBlank c = false

def Column.decimal (w : Word) : Column where
  chars := Numeral.write 10 w.toNat
  nonempty := Numeral.write_ne_nil 10 _
  solid _ h := Numeral.isBlank_of_digit?
    (Numeral.isSome_digit?_of_mem_write (by decide) (by decide) h)

/-- The dash of a line without a line number. -/
def Column.dash : Column := ⟨['-'], by decide, by decide⟩

/-- The mark of a line that names a unit. -/
def unitMark : List Char := "CU:".toList

/-- A file name, which is not to be confused with the mark of a unit. -/
structure FileName extends Column where
  unmarked : ¬ unitMark <+: chars

/-- An address as it is written: hexadecimal digits of either case, after any zeros, with a mark or
without. -/
structure WrittenAddress where
  value : Address
  mark : List Char
  zeros : Nat
  digits : List Char
  isMark : mark ∈ [[], ['0', 'x'], ['0', 'X']]
  spells : digits.map Char.toLower = List.replicate zeros '0' ++ Numeral.write 16 value.toNat

namespace WrittenAddress

theorem read?_digits (a : WrittenAddress) : Numeral.read? 16 a.digits = some a.value.toNat := by
  rw [← Numeral.read?_map_toLower, a.spells,
    Numeral.read?_replicate_zero (by decide) _ (Numeral.write_ne_nil 16 _),
    Numeral.read?_write _ (by decide) (by decide)]

theorem digits_ne_nil (a : WrittenAddress) : a.digits ≠ [] := by
  intro h
  have := a.read?_digits
  simp [h, Numeral.read?] at this

theorem isSome_digit? (a : WrittenAddress) : ∀ c ∈ a.digits, (Numeral.digit? 16 c).isSome := by
  have h := a.read?_digits
  cases hd : a.digits with
  | nil => exact absurd hd a.digits_ne_nil
  | cons c cs =>
    rw [hd, Numeral.read?] at h
    exact Numeral.isSome_digit?_of_continue? h

theorem unmarked_append (a : WrittenAddress) :
    Address.unmarked (a.mark ++ a.digits) = a.digits :=
  Address.unmarked_append a.isMark a.isSome_digit?

def column (a : WrittenAddress) : Column where
  chars := a.mark ++ a.digits
  nonempty := by simp [a.digits_ne_nil]
  solid c h := by
    rcases List.mem_append.mp h with h | h
    · have hmarks : ∀ mark ∈ [[], ['0', 'x'], ['0', 'X']], ∀ c ∈ mark, Text.isBlank c = false := by
        decide
      exact hmarks _ a.isMark c h
    · exact Numeral.isBlank_of_digit? (a.isSome_digit? c h)

end WrittenAddress

structure Columns where
  first : Column
  others : List (Gap × Column)

def Columns.chars (columns : Columns) : List Char :=
  columns.first.chars ++ columns.others.flatMap fun (gap, column) => gap.chars ++ column.chars

/-! ## Lines -/

/-- A row as it is written. Any columns may follow the three that count. -/
structure WrittenRow where
  fileName : FileName
  beforeLine : Gap
  line : Word
  line_ne_zero : line ≠ 0
  beforeAddress : Gap
  address : WrittenAddress
  more : List (Gap × Column)

def WrittenRow.columns (row : WrittenRow) : Columns :=
  ⟨row.fileName.toColumn, (row.beforeLine, .decimal row.line) ::
    (row.beforeAddress, row.address.column) :: row.more⟩

/-- The path of a unit's header. It may hold blanks, but not start with one. -/
structure UnitPath where
  chars : List Char
  inLine : '\n' ∉ chars
  solidStart : ∀ c ∈ chars.head?, Text.isBlank c = false

/-- The path of a file's header, which is not to be confused with the mark of a unit. -/
structure FilePath where
  chars : List Char
  solid : ∀ c ∈ chars, Text.isBlank c = false
  unmarked : ¬ unitMark <+: chars
  ne_mark : chars ≠ "CU".toList

/-- A header line. The file that it names may be marked as an included one. -/
inductive Heading where
  | unit (path : UnitPath) (included : Bool)
  | file (path : FilePath) (included : Bool)

def headingEnd (included : Bool) : List Char :=
  if included then ":[++]".toList else ":".toList

def Heading.chars : Heading → List Char
  | .unit path included => unitMark ++ ' ' :: (path.chars ++ headingEnd included)
  | .file path included => path.chars ++ headingEnd included

def Heading.directory : Heading → String
  | .unit path _ => String.ofList path.chars
  | .file path _ => String.ofList path.chars

inductive Entry where
  | row (written : WrittenRow)
  | blank
  | columnHeads (rest : List Char) (inLine : '\n' ∉ rest)
  | sequenceEnd (fileName : FileName) (beforeDash afterDash : Gap) (address : WrittenAddress)

def Entry.chars : Entry → List Char
  | .row written => written.columns.chars
  | .blank => []
  | .columnHeads rest _ => "File name".toList ++ rest
  | .sequenceEnd fileName gap gap' address =>
    Columns.chars ⟨fileName.toColumn, [(gap, .dash), (gap', address.column)]⟩

structure Margin where
  before : Blanks
  after : Blanks

def Margin.around (margin : Margin) (cs : List Char) : List Char :=
  margin.before.chars ++ cs ++ margin.after.chars

structure Line where
  margin : Margin
  entry : Entry

def Line.chars (line : Line) : List Char := line.margin.around line.entry.chars

structure Block where
  margin : Margin
  heading : Heading
  body : List Line

def Block.lines (block : Block) : List (List Char) :=
  block.margin.around block.heading.chars :: block.body.map Line.chars

/-- A dump as it is laid out. Lines before the first header belong to no directory. -/
structure Layout where
  preamble : List Line
  blocks : List Block

def Layout.lines (layout : Layout) : List (List Char) :=
  layout.preamble.map Line.chars ++ layout.blocks.flatMap Block.lines

/-- The dump, line by line. A line feed at its very end stands before a blank line. -/
def Layout.text (layout : Layout) : String :=
  String.ofList (List.intercalate ['\n'] layout.lines)

/-! ## The rows of a layout -/

/-- The row that a line shows, if it shows one. -/
def Line.row? (directory : String) (line : Line) : Option Row :=
  match line.entry with
  | .row written => some ⟨directory, String.ofList written.fileName.chars, written.address.value,
      written.line⟩
  | _ => none

def Block.rows (block : Block) : List Row :=
  block.body.filterMap (Line.row? block.heading.directory)

/-- The rows of a dump, each with the path of its own header. -/
def Layout.rows (layout : Layout) : List Row :=
  layout.preamble.filterMap (Line.row? "") ++ layout.blocks.flatMap Block.rows

/-! ## Reading columns -/

theorem Columns.chars_cons (first column : Column) (gap : Gap) (others : List (Gap × Column)) :
    chars ⟨first, (gap, column) :: others⟩ =
      first.chars ++ gap.chars ++ chars ⟨column, others⟩ := by
  simp [chars]

theorem Columns.chars_ne_nil (columns : Columns) : columns.chars ≠ [] := by
  simp [chars, columns.first.nonempty]

theorem Columns.words_chars (columns : Columns) :
    Text.words columns.chars = columns.first.chars :: columns.others.map (·.2.chars) := by
  obtain ⟨first, others⟩ := columns
  induction others generalizing first with
  | nil => simpa [chars] using Text.words_of_solid first.nonempty first.solid
  | cons other others ih =>
    obtain ⟨gap, column⟩ := other
    rw [chars_cons,
      Text.words_append_append _ first.nonempty first.solid gap.blank gap.nonempty, ih column]
    rfl

theorem Columns.isTrimmed_chars (columns : Columns) : Text.IsTrimmed columns.chars := by
  obtain ⟨first, others⟩ := columns
  induction others generalizing first with
  | nil => simpa [chars] using Text.isTrimmed_of_solid first.solid
  | cons other others ih =>
    obtain ⟨gap, column⟩ := other
    rw [chars_cons]
    exact (Text.isTrimmed_of_solid first.solid).append_append _ (ih column) first.nonempty
      (chars_ne_nil _)

theorem Columns.inLine_chars (columns : Columns) : '\n' ∉ columns.chars := by
  have hcolumn (column : Column) : '\n' ∉ column.chars := fun h =>
    absurd (column.solid _ h) (by decide)
  obtain ⟨first, others⟩ := columns
  induction others generalizing first with
  | nil => simpa [chars] using hcolumn first
  | cons other others ih =>
    obtain ⟨gap, column⟩ := other
    rw [chars_cons]
    simp [hcolumn first, gap.inLine, ih column]

/-! ## What a line is taken for -/

/-- A text without blanks that starts the columns starts the first of them. -/
theorem Columns.prefix_first {start : List Char} (hstart : ∀ c ∈ start, Text.isBlank c = false)
    {columns : Columns} (h : start <+: columns.chars) : start <+: columns.first.chars := by
  obtain ⟨tail, htail⟩ := h
  rcases List.append_eq_append_iff.mp htail with ⟨rest, hfirst, -⟩ | ⟨rest, hrest, hothers⟩
  · exact ⟨rest, hfirst.symm⟩
  · cases rest with
    | nil => exact ⟨[], by simp [hrest]⟩
    | cons c rest =>
      -- The text would reach into the gap after the first column.
      have hsolid : Text.isBlank c = false := hstart c (by simp [hrest])
      obtain ⟨first, _ | ⟨⟨gap, column⟩, others⟩⟩ := columns
      · simp at hothers
      · obtain ⟨b, bs, hgap⟩ := List.exists_cons_of_ne_nil gap.nonempty
        have hblank := gap.blank b (by simp [hgap])
        simp only [List.flatMap_cons, hgap, List.cons_append, List.cons.injEq] at hothers
        rw [hothers.1, hsolid] at hblank
        cases hblank

/-- The columns are no column headings unless the second one starts as they do. -/
theorem Columns.not_columnHeads {first column : Column} {gap : Gap} {others : List (Gap × Column)}
    (h : column.chars.head? ≠ some 'n') :
    ¬ "File name".toList <+: chars ⟨first, (gap, column) :: others⟩ := by
  rintro ⟨tail, htail⟩
  have hheads : Text.words ("File name".toList ++ tail) =
      "File".toList :: Text.words ('n' :: ("ame".toList ++ tail)) :=
    @Text.words_append_append "File".toList [' '] ("name".toList ++ tail) (by decide) (by decide)
      (by decide) (by decide)
  obtain ⟨word, more, hname⟩ := Text.words_cons_of_solid ("ame".toList ++ tail)
    (show Text.isBlank 'n' = false by decide)
  rw [htail, words_chars, hname] at hheads
  simp only [List.map_cons, List.cons.injEq] at hheads
  exact h (by rw [hheads.2.1]; rfl)

/-- A line that starts with the mark of a unit is its header. -/
theorem ofTrimmed_of_unitMark (rest : List Char) :
    DumpLine.ofTrimmed (unitMark ++ rest) = .header (String.ofList
      ((DumpLine.headerPath? (Text.trim rest)).getD (Text.trim rest))) := rfl

theorem ofTrimmed_of_not_unitMark {cs : List Char} (hne : cs ≠ [])
    (hheads : ¬ "File name".toList <+: cs) (hunit : ¬ unitMark <+: cs) :
    DumpLine.ofTrimmed cs =
      match if cs.any Text.isBlank then none else DumpLine.headerPath? cs with
      | some path => .header (String.ofList path)
      | none => (DumpLine.row? cs).getD .foreign := by
  have hempty : (cs.isEmpty || "File name".toList.isPrefixOf cs) = false := by
    rw [Bool.or_eq_false_iff, List.isEmpty_eq_false_iff, ← Bool.not_eq_true,
      List.isPrefixOf_iff_prefix]
    exact ⟨hne, hheads⟩
  have hmark : "CU:".toList.isPrefixOf? cs = none := by
    rw [Option.eq_none_iff_forall_ne_some]
    intro rest hrest
    exact hunit ⟨rest, List.isPrefixOf?_eq_some_iff_append_eq.mp hrest⟩
  rw [DumpLine.ofTrimmed, hempty, hmark]
  rfl

/-- Columns are read as a row or not at all, unless they look like column headings or start with the
mark of a unit. -/
theorem ofTrimmed_columns {first column : Column} {gap : Gap} {others : List (Gap × Column)}
    (hunit : ¬ unitMark <+: first.chars) (hhead : column.chars.head? ≠ some 'n') :
    DumpLine.ofTrimmed (Columns.chars ⟨first, (gap, column) :: others⟩) =
      (DumpLine.row? (Columns.chars ⟨first, (gap, column) :: others⟩)).getD .foreign := by
  have hblank : (Columns.chars ⟨first, (gap, column) :: others⟩).any Text.isBlank = true := by
    obtain ⟨b, bs, hgap⟩ := List.exists_cons_of_ne_nil gap.nonempty
    have hb := gap.blank b (by simp [hgap])
    simp [Columns.chars_cons, hgap, hb]
  rw [ofTrimmed_of_not_unitMark (Columns.chars_ne_nil _) (Columns.not_columnHeads hhead)
    fun h => hunit (Columns.prefix_first (by decide) h), hblank]
  rfl

/-! ### Headers -/

theorem headerPath?_append_headingEnd (path : List Char) (included : Bool) :
    DumpLine.headerPath? (path ++ headingEnd included) = some path := by
  cases included with
  | true => simp [DumpLine.headerPath?, headingEnd]
  | false =>
    have hnone : ":[++]".toList.isSuffixOf? (path ++ ":".toList) = none := by
      rw [Option.eq_none_iff_forall_ne_some]
      intro rest hrest
      have hlast := congrArg List.getLast? (List.isSuffixOf?_eq_some_iff_append_eq.mp hrest)
      simp at hlast
    have hcolon : ":".toList.isSuffixOf? (path ++ ":".toList) = some path :=
      List.isSuffixOf?_eq_some_iff_append_eq.mpr rfl
    simp only [DumpLine.headerPath?, headingEnd, Bool.false_eq_true, if_false, hnone, hcolon,
      Option.none_or]

theorem solid_headingEnd (included : Bool) : ∀ c ∈ headingEnd included, Text.isBlank c = false := by
  cases included <;> decide

theorem UnitPath.isTrimmed (path : UnitPath) (included : Bool) :
    Text.IsTrimmed (path.chars ++ headingEnd included) := by
  have hend := Text.isTrimmed_of_solid (solid_headingEnd included)
  constructor
  · have hstart := path.solidStart
    cases hpath : path.chars with
    | nil => exact hend.1
    | cons c cs =>
      rw [hpath] at hstart
      exact hstart
  · rw [List.getLast?_append, Option.or_of_isSome (by cases included <;> rfl)]
    exact hend.2

/-- The colon after a path keeps the path from becoming the mark of a unit. -/
theorem FilePath.not_unitMark (path : FilePath) (included : Bool) :
    ¬ unitMark <+: path.chars ++ headingEnd included := by
  obtain ⟨tail, htail⟩ : ∃ tail, headingEnd included = ':' :: tail := by
    cases included <;> exact ⟨_, rfl⟩
  have hunmarked := path.unmarked
  have hne := path.ne_mark
  match hpath : path.chars with
  | [] | [_] => simp [unitMark, htail]
  | [c, d] =>
    rw [hpath] at hne
    simpa [unitMark, htail, eq_comm] using hne
  | c :: d :: e :: rest =>
    rw [hpath] at hunmarked
    simpa [unitMark] using hunmarked

/-- A header line is read as the header of its path. -/
theorem Heading.ofTrimmed_chars (heading : Heading) :
    DumpLine.ofTrimmed heading.chars = .header heading.directory := by
  cases heading with
  | unit path included =>
    have htrim : Text.trim (' ' :: (path.chars ++ headingEnd included)) =
        path.chars ++ headingEnd included := by
      have := @Text.trim_append_append [' '] [] (path.chars ++ headingEnd included) (by decide)
        (by decide)
      rw [List.append_nil] at this
      exact this.trans (path.isTrimmed included).trim
    rw [Heading.chars, ofTrimmed_of_unitMark, htrim, headerPath?_append_headingEnd]
    rfl
  | file path included =>
    have hsolid : ∀ c ∈ path.chars ++ headingEnd included, Text.isBlank c = false := by
      intro c hc
      rcases List.mem_append.mp hc with hc | hc
      · exact path.solid c hc
      · exact solid_headingEnd included c hc
    have hne : path.chars ++ headingEnd included ≠ [] := by cases included <;> simp [headingEnd]
    have hheads : ¬ "File name".toList <+: path.chars ++ headingEnd included := fun h => by
      have := hsolid ' ' (h.subset (by decide))
      cases this
    have hany : (path.chars ++ headingEnd included).any Text.isBlank = false := by
      rw [List.any_eq_false]
      simpa using hsolid
    rw [Heading.chars, ofTrimmed_of_not_unitMark hne hheads (path.not_unitMark included), hany]
    simp only [Bool.false_eq_true, if_false, headerPath?_append_headingEnd]
    rfl

/-! ### Lines below a header -/

def Entry.reading : Entry → DumpLine
  | .row written => .row (String.ofList written.fileName.chars) written.line written.address.value
  | .blank | .columnHeads .. => .empty
  | .sequenceEnd .. => .foreign

theorem Column.head?_decimal (w : Word) : (Column.decimal w).chars.head? ≠ some 'n' := by
  intro h
  have := Numeral.isSome_digit?_of_mem_write (by decide) (by decide) (List.mem_of_head? h)
  cases this

theorem Column.read?_decimal (w : Word) : Word.read? (Column.decimal w).chars = some w := by
  have hdigits : Numeral.read? 10 (Numeral.write 10 w.toNat) = some w.toNat :=
    Numeral.read?_write _ (by decide) (by decide)
  have hword : Word.ofNat? w.toNat = some w := Word.ofNat?_eq_some_iff.mpr rfl
  have hsign (rest : List Char) : Numeral.write 10 w.toNat ≠ '+' :: rest := by
    intro h
    have := Numeral.isSome_digit?_of_mem_write (by decide) (by decide)
      (show '+' ∈ Numeral.write 10 w.toNat by simp [h])
    cases this
  change Word.read? (Numeral.write 10 w.toNat) = some w
  rw [Word.read?_of_unsigned hsign, hdigits, Option.bind_some, hword]

theorem WrittenAddress.read?_column (a : WrittenAddress) :
    Address.read? a.column.chars = some a.value := by
  have htrim : Text.trim a.column.chars = a.mark ++ a.digits :=
    (Text.isTrimmed_of_solid a.column.solid).trim
  have hword : Word.ofNat? a.value.toNat = some a.value := Word.ofNat?_eq_some_iff.mpr rfl
  rw [Address.read?, htrim, a.unmarked_append, a.read?_digits, Option.bind_some, hword]

/-- The number and the address of a row are read back. -/
theorem WrittenRow.row?_chars (row : WrittenRow) :
    DumpLine.row? row.columns.chars =
      some (.row (String.ofList row.fileName.chars) row.line row.address.value) := by
  rw [DumpLine.row?, Columns.words_chars]
  simp only [columns, List.map_cons, Column.read?_decimal, WrittenAddress.read?_column,
    if_neg row.line_ne_zero]

/-- A line below a header is read as what it says. -/
theorem Entry.ofTrimmed_chars (entry : Entry) :
    DumpLine.ofTrimmed (Text.trim entry.chars) = entry.reading := by
  cases entry with
  | row written =>
    have hcolumns := @ofTrimmed_columns _ _ written.beforeLine
      ((written.beforeAddress, written.address.column) :: written.more) written.fileName.unmarked
      (Column.head?_decimal written.line)
    change DumpLine.ofTrimmed (Text.trim written.columns.chars) = _
    rw [written.columns.isTrimmed_chars.trim]
    exact hcolumns.trans (congrArg (Option.getD · _) written.row?_chars)
  | blank => rfl
  | columnHeads rest _ =>
    change DumpLine.ofTrimmed (Text.trim ("File name".toList ++ rest)) = _
    rw [Text.IsTrimmed.trim_append ⟨by decide, by decide⟩ (by decide)]
    rfl
  | sequenceEnd fileName gap gap' address =>
    have hcolumns := @ofTrimmed_columns fileName.toColumn .dash gap [(gap', address.column)]
      fileName.unmarked (by decide)
    change DumpLine.ofTrimmed (Text.trim (Columns.chars _)) = _
    rw [(Columns.isTrimmed_chars _).trim, hcolumns, DumpLine.row?, Columns.words_chars]
    rfl

/-! ## Reading a layout -/

theorem Heading.isTrimmed_chars (heading : Heading) : Text.IsTrimmed heading.chars := by
  cases heading with
  | unit path included =>
    have hmark : Text.IsTrimmed unitMark := ⟨by decide, by decide⟩
    have := hmark.append_append [' '] (path.isTrimmed included) (by decide)
      (by cases included <;> simp [headingEnd])
    simpa [Heading.chars] using this
  | file path included =>
    refine Text.isTrimmed_of_solid fun c hc => ?_
    rcases List.mem_append.mp hc with hc | hc
    · exact path.solid c hc
    · exact solid_headingEnd included c hc

theorem ofLine_around (margin : Margin) (cs : List Char) :
    DumpLine.ofLine (margin.around cs) = DumpLine.ofTrimmed (Text.trim cs) := by
  rw [DumpLine.ofLine, Margin.around,
    Text.trim_append_append cs margin.before.blank margin.after.blank]

/-- A line adds its row, if it shows one, under the last header. -/
theorem Line.step_chars (reading : Reading) (line : Line) :
    (reading.step (DumpLine.ofLine line.chars)).directory = reading.directory ∧
      (reading.step (DumpLine.ofLine line.chars)).rows.toList =
        reading.rows.toList ++ (line.row? reading.directory).toList := by
  rw [Line.chars, ofLine_around, Entry.ofTrimmed_chars, Line.row?]
  cases line.entry <;> simp [Entry.reading, Reading.step]

/-- Lines add their rows in order. -/
theorem Line.foldl_step (lines : List Line) (reading : Reading) :
    let after := (lines.map (DumpLine.ofLine ·.chars)).foldl Reading.step reading
    after.directory = reading.directory ∧
      after.rows.toList = reading.rows.toList ++ lines.filterMap (row? reading.directory) := by
  induction lines generalizing reading with
  | nil => simp
  | cons line lines ih =>
    obtain ⟨hdirectory, hrows⟩ := line.step_chars reading
    obtain ⟨hdirectory', hrows'⟩ := ih (reading.step (DumpLine.ofLine line.chars))
    rw [hdirectory] at hdirectory' hrows'
    refine ⟨hdirectory', ?_⟩
    rw [List.map_cons, List.foldl_cons, hrows', hrows]
    cases hrow : line.row? reading.directory <;> simp [hrow]

/-- A block adds its rows under its own header, whatever was read before it. -/
theorem Block.foldl_step (block : Block) (reading : Reading) :
    ((block.lines.map DumpLine.ofLine).foldl Reading.step reading).rows.toList =
      reading.rows.toList ++ block.rows := by
  have hheading : DumpLine.ofLine (block.margin.around block.heading.chars) =
      .header block.heading.directory := by
    rw [ofLine_around, block.heading.isTrimmed_chars.trim, Heading.ofTrimmed_chars]
  rw [Block.lines, List.map_cons, List.foldl_cons, hheading, List.map_map]
  exact (Line.foldl_step block.body ⟨block.heading.directory, reading.rows⟩).2

theorem foldl_blocks (blocks : List Block) (reading : Reading) :
    (((blocks.flatMap Block.lines).map DumpLine.ofLine).foldl Reading.step reading).rows.toList =
      reading.rows.toList ++ blocks.flatMap Block.rows := by
  induction blocks generalizing reading with
  | nil => simp
  | cons block blocks ih =>
    rw [List.flatMap_cons, List.map_append, List.foldl_append, ih, block.foldl_step]
    simp

/-! ## Cutting a text into its lines -/

theorem Margin.inLine_around {cs : List Char} (margin : Margin) (h : '\n' ∉ cs) :
    '\n' ∉ margin.around cs := by
  simp [Margin.around, margin.before.inLine, margin.after.inLine, h]

theorem Heading.inLine_chars (heading : Heading) : '\n' ∉ heading.chars := by
  have hend (included : Bool) : '\n' ∉ headingEnd included := by cases included <;> decide
  cases heading with
  | unit path included => simp [Heading.chars, unitMark, path.inLine, hend]
  | file path included =>
    have hpath : '\n' ∉ path.chars := fun h => absurd (path.solid _ h) (by decide)
    simp [Heading.chars, hpath, hend]

theorem Entry.inLine_chars (entry : Entry) : '\n' ∉ entry.chars := by
  cases entry with
  | row written =>
    change '\n' ∉ written.columns.chars
    exact Columns.inLine_chars _
  | blank => exact List.not_mem_nil
  | columnHeads rest inLine =>
    change '\n' ∉ "File name".toList ++ rest
    simp [inLine]
  | sequenceEnd =>
    change '\n' ∉ Columns.chars _
    exact Columns.inLine_chars _

theorem Layout.inLine_lines (layout : Layout) : ∀ cs ∈ layout.lines, '\n' ∉ cs := by
  have hline (line : Line) : '\n' ∉ line.chars := line.margin.inLine_around line.entry.inLine_chars
  have hlines (lines : List Line) : ∀ cs ∈ lines.map Line.chars, '\n' ∉ cs := by
    intro cs hcs
    obtain ⟨line, -, rfl⟩ := List.mem_map.mp hcs
    exact hline line
  intro cs hcs
  rcases List.mem_append.mp hcs with hcs | hcs
  · exact hlines _ cs hcs
  · obtain ⟨block, -, hcs⟩ := List.mem_flatMap.mp hcs
    rcases List.mem_cons.mp hcs with rfl | hcs
    · exact block.margin.inLine_around block.heading.inLine_chars
    · exact hlines _ cs hcs

/-- The text of a layout is cut into its own lines. Where there are none, it is one blank line. -/
theorem Layout.lines_text (layout : Layout) :
    LineDump.lines layout.text = layout.lines.map DumpLine.ofLine ∨
      layout.lines = [] ∧ LineDump.lines layout.text = [.empty] := by
  rw [LineDump.lines, Layout.text, String.toList_ofList, Text.lines]
  by_cases h : layout.lines = []
  · exact .inr ⟨h, by rw [h]; rfl⟩
  · exact .inl (by rw [List.splitOn_intercalate '\n' layout.inLine_lines h])

theorem Layout.rows_text (layout : Layout) : LineDump.rows layout.text = layout.rows := by
  have hread : (LineDump.lines layout.text).foldl Reading.step ⟨"", #[]⟩ =
      (layout.lines.map DumpLine.ofLine).foldl Reading.step ⟨"", #[]⟩ := by
    rcases layout.lines_text with h | ⟨hnil, h⟩
    · rw [h]
    · rw [h, hnil]
      rfl
  obtain ⟨hdirectory, hrows⟩ := Line.foldl_step layout.preamble ⟨"", #[]⟩
  rw [LineDump.rows, hread, Layout.lines, List.map_append, List.foldl_append, foldl_blocks,
    List.map_map]
  exact congrArg (· ++ layout.blocks.flatMap Block.rows) hrows

end LineDump

/-- A dump reads back as the table of the rows that were laid out: every row once, in order, and
under its own header. -/
theorem LineTable.ofDump_text (layout : LineDump.Layout) :
    LineDump.rows layout.text = layout.rows ∧
      (LineTable.ofDump layout.text).value = LineTable.ofRows layout.rows := by
  have hrows := layout.rows_text
  exact ⟨hrows, congrArg LineTable.ofRows hrows⟩

namespace LineDump

def noMargin : Margin := ⟨⟨[], by decide, by decide⟩, ⟨[], by decide, by decide⟩⟩

def oneBlank : Gap := ⟨⟨[' '], by decide, by decide⟩, by decide⟩

def mainFile : FileName := ⟨⟨"main.c".toList, by decide, by decide⟩, by decide⟩

/-- A row, and the end of its sequence. -/
def sample : Layout where
  preamble := [⟨noMargin, .blank⟩]
  blocks := [{
    margin := noMargin
    heading := .unit ⟨"./src/main file".toList, by decide, by decide⟩ true
    body := [
      ⟨noMargin, .columnHeads "  Line number".toList (by decide)⟩,
      ⟨noMargin, .row ⟨mainFile, oneBlank, 12, by decide, oneBlank,
        ⟨0x401a0, "0x".toList, 1, "0401A0".toList, by decide, by decide⟩,
        [(oneBlank, ⟨"x".toList, by decide, by decide⟩)]⟩⟩,
      ⟨noMargin, .sequenceEnd mainFile oneBlank oneBlank
        ⟨0x401c4, [], 0, "401c4".toList, by decide, by decide⟩⟩] }]

example : sample.text = "\nCU: ./src/main file:[++]\nFile name  Line number\n" ++
    "main.c 12 0x0401A0 x\nmain.c - 401c4" := by
  decide

example : sample.rows = [⟨"./src/main file", "main.c", 0x401a0, 12⟩] := by decide

end LineDump

end Symbolication
