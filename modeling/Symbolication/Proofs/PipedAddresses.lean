import Symbolication.Proofs.DumpLayout
import Symbolication.Proofs.EncodedText
import Symbolication.Proofs.Runs

/-! Addresses are given as arguments, or piped into standard input line by line. There they may have
blanks around them and blank lines between them. A run makes no difference between the two, but for
the words in which it refuses an address. -/

namespace Symbolication

theorem Address.read?_trim (cs : List Char) : read? (Text.trim cs) = read? cs := by
  rw [read?, read?, Text.trim_trim]

namespace LineDump

theorem Margin.trim_around (margin : Margin) (cs : List Char) :
    Text.trim (margin.around cs) = Text.trim cs :=
  Text.trim_append_append cs margin.before.blank margin.after.blank

end LineDump

namespace Command

/-! ## The layout of an input -/

/-- What stands for an address, well formed or not. It is not blank, and it is within a line. -/
structure Token where
  text : String
  solid : ∃ c ∈ text.toList, Text.isBlank c = false
  inLine : '\n' ∉ text.toList

namespace Token

def address? (token : Token) : Option Address := Address.read? token.text.toList

def trimmed (token : Token) : String := String.ofList (Text.trim token.text.toList)

theorem read?_trimmed (token : Token) : Address.read? token.trimmed.toList = token.address? := by
  rw [trimmed, String.toList_ofList, Address.read?_trim, address?]

end Token

/-- A line of input. The carriage return of a line end is the last blank of its margin. -/
structure InputLine where
  margin : LineDump.Margin
  token : Option Token

def InputLine.chars (line : InputLine) : List Char :=
  line.margin.around (line.token.elim [] (·.text.toList))

def tokens (lines : List InputLine) : List Token := lines.filterMap (·.token)

/-- An input, line by line. A line feed at its very end stands before a blank line. -/
def inputOf (lines : List InputLine) : Bytes :=
  Text.Utf8.encode (String.ofList (['\n'].intercalate (lines.map InputLine.chars)))

/-- The tokens of an input as requests, where they are arguments. -/
def given (lines : List InputLine) : List Request :=
  (tokens lines).map fun token => .argument token.text

/-- The tokens of an input as requests, where its lines are counted from a number on. -/
def piped (lines : List InputLine) (number : Nat) : List Request :=
  (lines.zipIdx number).filterMap fun (line, n) => line.token.map (.inputLine n ·.trimmed)

/-! ## Reading an input -/

theorem InputLine.inLine_chars (line : InputLine) : '\n' ∉ line.chars := by
  refine line.margin.inLine_around ?_
  cases line.token with
  | none => simp
  | some token => exact token.inLine

/-- A line asks for its token, and a line without one for nothing. -/
theorem InputLine.ofLine_chars (line : InputLine) (number : Nat) :
    Request.ofLine (Text.Utf8.encode (String.ofList line.chars)) number =
      line.token.map (.inputLine number ·.trimmed) := by
  rw [Request.ofLine, Text.Utf8.decode?_encode]
  simp only [String.toList_ofList, chars, LineDump.Margin.trim_around]
  cases line.token with
  | none => rfl
  | some token =>
    obtain ⟨c, hc, hsolid⟩ := token.solid
    have hne : (Text.trim token.text.toList).isEmpty = false := by
      simpa using List.ne_nil_of_mem (Text.mem_trim hc hsolid)
    simp [hne, Token.trimmed]

theorem ofInput_inputOf (lines : List InputLine) :
    Request.ofInput (inputOf lines) = piped lines 1 := by
  by_cases hne : lines = []
  · subst hne
    rfl
  · have hlines : ∀ chars ∈ lines.map InputLine.chars, '\n' ∉ chars := by
      intro chars hmem
      obtain ⟨line, -, rfl⟩ := List.mem_map.mp hmem
      exact line.inLine_chars
    rw [Request.ofInput, inputOf, Text.Utf8.splitOn_encode hlines (by simpa using hne),
      List.map_map, List.zipIdx_map, List.filterMap_map, piped]
    exact congrArg (List.filterMap · _) (funext fun entry => entry.1.ofLine_chars entry.2)

theorem tokens_append (above below : List InputLine) :
    tokens (above ++ below) = tokens above ++ tokens below := by
  simp [tokens]

theorem piped_append (above below : List InputLine) (number : Nat) :
    piped (above ++ below) number = piped above number ++ piped below (number + above.length) := by
  simp [piped, List.zipIdx_append]

section Split

variable (above : List InputLine) (margin : LineDump.Margin) (token : Token)
  (below : List InputLine)

theorem given_append_cons :
    given (above ++ ⟨margin, some token⟩ :: below) =
      given above ++ .argument token.text :: given below := by
  simp [given, tokens]

theorem piped_append_cons :
    piped (above ++ ⟨margin, some token⟩ :: below) 1 =
      piped above 1 ++ .inputLine (above.length + 1) token.trimmed ::
        piped below (above.length + 2) := by
  rw [piped_append, Nat.add_comm 1]
  rfl

end Split

theorem map_address?_given (lines : List InputLine) :
    (given lines).map (·.address?) = (tokens lines).map (·.address?) := by
  rw [given, List.map_map]
  rfl

/-- The blanks around a token are no part of its address. -/
theorem map_address?_piped (lines : List InputLine) (number : Nat) :
    (piped lines number).map (·.address?) = (tokens lines).map (·.address?) := by
  induction lines generalizing number with
  | nil => rfl
  | cons line lines ih =>
    have hpiped := piped_append [line] lines number
    have htokens := tokens_append [line] lines
    rw [List.singleton_append] at hpiped htokens
    rw [hpiped, htokens, List.map_append, List.map_append, ih]
    congr 1
    cases htoken : line.token with
    | none => simp [piped, tokens, htoken]
    | some token =>
      simp [piped, tokens, htoken, Request.address?, token.read?_trimmed]

/-! ## Where a run stops -/

section Stopping

variable {request : Request} {requests before after : List Request}

theorem answered_eq_takeWhile (requests : List Request) :
    answered requests = ((requests.map (·.address?)).takeWhile (·.isSome)).filterMap id := by
  simp [answered, List.takeWhile_map, List.filterMap_map, Function.comp_def]

theorem stopping?_eq_none_iff :
    stopping? requests = none ↔ ∀ a ∈ requests.map (·.address?), a.isSome := by
  simp [stopping?, Option.isSome_iff_ne_none]

theorem stopping?_append (hbefore : ∀ a ∈ before.map (·.address?), a.isSome)
    (hnone : request.address? = none) :
    stopping? (before ++ request :: after) = some request := by
  rw [stopping?, List.find?_append, ← stopping?, stopping?_eq_none_iff.mpr hbefore]
  simp [hnone]

theorem answered_append (hbefore : ∀ a ∈ before.map (·.address?), a.isSome)
    (hnone : request.address? = none) :
    answered (before ++ request :: after) = (before.map (·.address?)).filterMap id := by
  rw [answered_eq_takeWhile, List.map_append, List.takeWhile_append_of_pos hbefore]
  simp [hnone]

end Stopping

/-- Among tokens of which some are no addresses, there is a first one that is none. -/
theorem exists_first_refused {lines : List InputLine}
    (h : ∃ token ∈ tokens lines, token.address? = none) :
    ∃ above margin refused below, lines = above ++ ⟨margin, some refused⟩ :: below ∧
      (∀ token ∈ tokens above, token.address?.isSome) ∧ refused.address? = none := by
  obtain ⟨token, htoken, hnone⟩ := h
  obtain ⟨line, hline, hheld⟩ := List.mem_filterMap.mp htoken
  let refuses (line : InputLine) : Bool := line.token.any (·.address?.isNone)
  have hsome : (lines.find? refuses).isSome :=
    List.find?_isSome.mpr ⟨line, hline, by simp [refuses, hheld, hnone]⟩
  obtain ⟨⟨margin, first⟩, hfirst⟩ := Option.isSome_iff_exists.mp hsome
  obtain ⟨hrefuses, above, below, rfl, habove⟩ := List.find?_eq_some_iff_append.mp hfirst
  obtain ⟨refused, rfl, hrefused⟩ := (Option.any_eq_true _ _).mp hrefuses
  refine ⟨above, margin, refused, below, rfl, fun token htoken => ?_, by simpa using hrefused⟩
  obtain ⟨line, hline, hheld⟩ := List.mem_filterMap.mp htoken
  simpa [refuses, hheld, Option.isSome_iff_ne_none] using habove line hline

/-! ## The two runs -/

def Options.withoutAddresses (options : Options) : Options := { options with addresses := [] }

section Running

variable {files : Files} {options : Options} {input : Bytes} {engine : Engine}
  {lines : List InputLine}

theorem requests_piped (options : Options) (lines : List InputLine) :
    requests options.withoutAddresses (inputOf lines) = piped lines 1 :=
  ofInput_inputOf lines

theorem requests_given (htokens : tokens lines ≠ [])
    (haddresses : options.addresses = (tokens lines).map (·.text)) (input : Bytes) :
    requests options input = given lines := by
  simp [requests, given, haddresses, htokens]

/-- Where there is nothing to look addresses up in, none is read. -/
theorem perform_piped_of_error {failure : RunFailure}
    (hengine : Command.engine files options = .error failure) (input input' : Bytes) :
    perform files options.withoutAddresses input' = perform files options input := by
  have hpiped : Command.engine files options.withoutAddresses = .error failure := hengine
  rw [perform_of_error hengine, perform_of_error hpiped]
  rfl

theorem perform_piped_of_valid (htokens : tokens lines ≠ [])
    (haddresses : options.addresses = (tokens lines).map (·.text))
    (hengine : Command.engine files options = .ok engine)
    (hvalid : ∀ token ∈ tokens lines, token.address?.isSome) (input : Bytes) :
    perform files options.withoutAddresses (inputOf lines) = perform files options input := by
  have hengine' : Command.engine files options.withoutAddresses = .ok engine := hengine
  have hrequests := requests_given htokens haddresses input
  have hsame := (map_address?_piped lines 1).trans (map_address?_given lines).symm
  have hanswered : answered (piped lines 1) = answered (given lines) := by
    rw [answered_eq_takeWhile, answered_eq_takeWhile, hsame]
  have hlength : (piped lines 1).length = (given lines).length := by
    simpa using congrArg List.length hsame
  have hgiven_all : stopping? (given lines) = none := by
    rw [stopping?_eq_none_iff, map_address?_given]
    simpa using hvalid
  have hpiped_all : stopping? (piped lines 1) = none := by
    rw [stopping?_eq_none_iff, map_address?_piped]
    simpa using hvalid
  rw [perform_of_complete hengine (hrequests ▸ hgiven_all),
    perform_of_complete hengine' (requests_piped options lines ▸ hpiped_all),
    hrequests, requests_piped, hanswered, hlength]
  rfl

/-- What the tokens in front of a refused one give is written, and the run ends as a usage error. -/
theorem perform_of_refused {above : List InputLine} {before after : List Request}
    {request : Request} (hengine : Command.engine files options = .ok engine)
    (hrequests : requests options input = before ++ request :: after)
    (hbefore : before.map (·.address?) = (tokens above).map (·.address?))
    (hvalid : ∀ token ∈ tokens above, token.address?.isSome) (hrefused : request.address? = none)
    (hwellFormed : request ≠ .illFormedLine) :
    perform files options input =
      ⟨2,
        String.join (((tokens above).filterMap (·.address?)).map
          fun a => (engine.answer a).line options.json),
        warning files options ++ errorLine request.failure⟩ := by
  have hall : ∀ a ∈ before.map (·.address?), a.isSome := by
    rw [hbefore]
    simpa using hvalid
  have hstop : stopping? (requests options input) = some request := by
    rw [hrequests, stopping?_append hall hrefused]
  have hcode : request.failure.code = 2 := by rw [request.code_failure, if_neg hwellFormed]
  rw [perform_of_stopping hengine hstop, hcode, hrequests, answered_append hall hrefused, hbefore,
    List.filterMap_map]
  rfl

end Running

/-- A run does the same with addresses that it is given and with those that are piped into it, one a
line. Where the tables cannot be built, no address is read. Otherwise a run stops at the first token
that is no address. -/
theorem run_given_or_piped (files : Files) (arguments bare : List String) (options : Options)
    (lines : List InputLine) (input : Bytes) (harguments : Options.read arguments = .ok options)
    (hbare : Options.read bare = .ok options.withoutAddresses)
    (haddresses : options.addresses = (tokens lines).map (·.text))
    (htokens : options.addresses ≠ []) :
    ∃ byArguments byInput, run files arguments input = .ok byArguments ∧
      run files bare (inputOf lines) = .ok byInput ∧
      byInput.stdout = byArguments.stdout ∧ byInput.code = byArguments.code ∧
      ((∀ token ∈ tokens lines, token.address?.isSome) → byInput.stderr = byArguments.stderr) ∧
      match Command.engine files options with
      | .error failure =>
        byArguments = ⟨failure.code, "", warning files options ++ errorLine failure⟩ ∧
          byInput = byArguments
      | .ok engine => (∃ token ∈ tokens lines, token.address? = none) →
        ∃ above margin refused below, lines = above ++ ⟨margin, some refused⟩ :: below ∧
          (∀ token ∈ tokens above, token.address?.isSome) ∧ refused.address? = none ∧
          byArguments = ⟨2,
            String.join (((tokens above).filterMap (·.address?)).map
              fun a => (engine.answer a).line options.json),
            warning files options ++ errorLine (.badArgument refused.text)⟩ ∧
          byInput = { byArguments with
            stderr := warning files options ++
              errorLine (.badInputLine (above.length + 1) refused.trimmed) } := by
  have hne : tokens lines ≠ [] := by
    rintro h
    rw [haddresses, h] at htokens
    exact htokens rfl
  refine ⟨perform files options input, perform files options.withoutAddresses (inputOf lines),
    by rw [run, harguments]; rfl, by rw [run, hbare]; rfl, ?_⟩
  cases hengine : Command.engine files options with
  | error failure =>
    rw [perform_piped_of_error hengine input]
    exact ⟨rfl, rfl, fun _ => rfl, perform_of_error hengine, rfl⟩
  | ok engine =>
    by_cases hvalid : ∀ token ∈ tokens lines, token.address?.isSome
    · rw [perform_piped_of_valid hne haddresses hengine hvalid input]
      refine ⟨rfl, rfl, fun _ => rfl, ?_⟩
      rintro ⟨token, htoken, hnone⟩
      have hsome := hvalid token htoken
      rw [hnone] at hsome
      cases hsome
    · have hsome : ∃ token ∈ tokens lines, token.address? = none := by simpa using hvalid
      obtain ⟨above, margin, refused, below, rfl, habove, hrefused⟩ := exists_first_refused hsome
      have hgiven_split := (requests_given hne haddresses input).trans
        (given_append_cons above margin refused below)
      have hpiped_split := (requests_piped options _).trans
        (piped_append_cons above margin refused below)
      have hengine' : Command.engine files options.withoutAddresses = .ok engine := hengine
      have hgiven := perform_of_refused hengine hgiven_split (map_address?_given above) habove
        hrefused (by simp)
      have hpiped := perform_of_refused hengine' hpiped_split (map_address?_piped above 1) habove
        (refused.read?_trimmed.trans hrefused) (by simp)
      rw [hgiven, hpiped]
      exact ⟨rfl, rfl, fun hvalid' => absurd hvalid' hvalid, fun _ =>
        ⟨above, margin, refused, below, rfl, habove, hrefused, rfl, rfl⟩⟩

/-- A good address and a bad one, on a line with a carriage return, below a blank line. -/
theorem run_given_or_piped_refused :
    let files : Files := fun _ => .file (Bytes.ofAscii "main.c 7 10")
    let crlf : LineDump.Margin := ⟨⟨[' '], by decide, by decide⟩, ⟨['\r'], by decide, by decide⟩⟩
    let lines : List InputLine :=
      [⟨crlf, some ⟨"10", ⟨'1', by decide, by decide⟩, by decide⟩⟩, ⟨crlf, none⟩,
        ⟨crlf, some ⟨"zz", ⟨'z', by decide, by decide⟩, by decide⟩⟩]
    inputOf lines = Bytes.ofAscii " 10\r\n \r\n zz\r" ∧
      ∃ byArguments byInput,
        run files ["--line-dump", "dump", "10", "zz"] [] = .ok byArguments ∧
        run files ["--line-dump", "dump"] (inputOf lines) = .ok byInput ∧
        byInput.stdout = byArguments.stdout ∧ byArguments.code = 2 ∧ byInput.code = 2 := by
  intro files crlf lines
  let options : Options := ⟨none, some "dump", false, false, ["10", "zz"]⟩
  have hrefused : ∃ token ∈ tokens lines, token.address? = none :=
    ⟨_, List.mem_cons_of_mem _ List.mem_cons_self, by decide⟩
  obtain ⟨byArguments, byInput, harguments, hinput, hstdout, -, -, hstops⟩ :=
    run_given_or_piped files ["--line-dump", "dump", "10", "zz"] ["--line-dump", "dump"] options
      lines [] rfl rfl rfl (by decide)
  obtain ⟨_, _, _, _, -, -, -, hbyArguments, hbyInput⟩ := hstops hrefused
  refine ⟨by decide +kernel, byArguments, byInput, harguments, hinput, hstdout, ?_, ?_⟩
  · rw [hbyArguments]
  · rw [hbyInput, hbyArguments]

/-- A missing dump and a bad address. The address is not even read. -/
theorem code_run_without_tables :
    let files : Files := fun _ => .unreachable .notFound
    Address.read? "zz".toList = none ∧
      (run files ["--line-dump", "missing.txt", "zz"] []).map Output.code = .ok 1 ∧
      (run files ["--line-dump", "missing.txt"] (Bytes.ofAscii "zz\n")).map Output.code = .ok 1 := by
  decide +kernel

end Command

end Symbolication
