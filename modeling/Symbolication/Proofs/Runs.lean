import Mathlib.Data.List.Forall2
import Mathlib.Data.List.Infix
import Symbolication.Proofs.ExitCodes

namespace Symbolication

namespace Command

/-! ## Lines of input -/

/-- A line of input by its number, with neither its line end nor that of any other. -/
structure IsLine (input : Bytes) (number : Nat) (line : Bytes) : Prop where
  whole : 0x0a ∉ line
  placed : ∃ before after : Bytes, input = before ++ line ++ after ∧
    before.count 0x0a + 1 = number ∧
    (∀ byte ∈ before.getLast?, byte = 0x0a) ∧ ∀ byte ∈ after.head?, byte = 0x0a

theorem IsLine.behind {lead input : Bytes} {number : Nat} {line : Bytes} (hlead : 0x0a ∉ lead)
    (h : IsLine input number line) : IsLine (lead ++ 0x0a :: input) (number + 1) line := by
  obtain ⟨hline, before, after, rfl, rfl, hbefore, hafter⟩ := h
  refine ⟨hline, lead ++ 0x0a :: before, after, by simp, ?_, ?_, hafter⟩
  · simp [List.count_eq_zero_of_not_mem hlead]
  · intro byte hbyte
    cases before with
    | nil => simpa [eq_comm] using hbyte
    | cons first rest =>
      rw [List.getLast?_append_cons, List.getLast?_cons_cons] at hbyte
      exact hbefore byte hbyte

theorem isLine_of_splitOn {input line : Bytes} {i : Nat}
    (h : (input.splitOn 0x0a)[i]? = some line) : IsLine input (i + 1) line := by
  -- The parts of what follows the first line end are shorter than the input.
  induction hlength : input.length using Nat.strong_induction_on generalizing input i with
  | _ length ih =>
    by_cases hend : 0x0a ∈ input
    · obtain ⟨lead, rest, rfl, hlead⟩ := List.eq_append_cons_of_mem hend
      rw [List.splitOn_append_cons_self_of_not_mem hlead] at h
      cases i with
      | zero =>
        obtain rfl : lead = line := by simpa using h
        exact ⟨hlead, [], 0x0a :: rest, by simp, rfl, by simp, by simp⟩
      | succ i =>
        exact (ih rest.length (by simp at hlength; omega) (by simpa using h) rfl).behind hlead
    · rw [List.splitOn_eq_singleton hend, List.getElem?_singleton] at h
      split at h
      · subst i
        obtain rfl : input = line := by simpa using h
        exact ⟨hend, [], [], by simp, rfl, by simp, by simp⟩
      · cases h

/-! ## Requests -/

/-- What a line of input asks for, by its number: the text between its blanks, and nothing where all
of it is blank. -/
inductive LineAsks (line : Bytes) (number : Nat) : Option Request → Prop
  | illFormed (hline : Text.Utf8.decode? line = none) : LineAsks line number (some .illFormedLine)
  | blank {written : String} (hline : Text.Utf8.decode? line = some written)
      (hblank : ∀ c ∈ written.toList, Text.isBlank c = true) : LineAsks line number none
  | filled {written : String} {c : Char} (hline : Text.Utf8.decode? line = some written)
      (hc : c ∈ written.toList) (hsolid : Text.isBlank c = false) :
      LineAsks line number (some (.inputLine number (String.ofList (Text.trim written.toList))))

theorem lineAsks_ofLine (line : Bytes) (number : Nat) :
    LineAsks line number (Request.ofLine line number) := by
  unfold Request.ofLine
  split
  · next hline => exact .illFormed hline
  · next written hline =>
    simp only
    split
    · next hempty => exact .blank hline (Text.trim_eq_nil_iff.mp (List.isEmpty_iff.mp hempty))
    · next hfilled =>
      rw [List.isEmpty_iff, Text.trim_eq_nil_iff] at hfilled
      push Not at hfilled
      obtain ⟨c, hc, hsolid⟩ := hfilled
      exact .filled hline hc (Bool.eq_false_iff.mpr hsolid)

/-- A request from a line of input holds the number of the line, and its text without the blanks
around it. -/
theorem Request.isLine_of_mem_ofInput {input : Bytes} {number : Nat} {text : String}
    (h : Request.inputLine number text ∈ Request.ofInput input) :
    ∃ line written, IsLine input number line ∧ Text.Utf8.decode? line = some written ∧
      text = String.ofList (Text.trim written.toList) := by
  obtain ⟨⟨line, n⟩, hline, hrequest⟩ := List.mem_filterMap.mp h
  obtain ⟨hn, hpart⟩ := List.mem_zipIdx_iff_le_and_getElem?_sub.mp hline
  simp only at hn hpart hrequest
  have hasks := lineAsks_ofLine line n
  rw [hrequest] at hasks
  cases hasks with
  | filled hwritten =>
    have hnumber : number - 1 + 1 = number := by omega
    exact ⟨line, _, hnumber ▸ isLine_of_splitOn hpart, hwritten, rfl⟩

/-- What a run is asked: by its arguments, or where there are none by the lines of its input, which
are numbered from 1. -/
structure Asks (options : Options) (input : Bytes) (requests : List Request) : Prop where
  arguments : options.addresses ≠ [] → requests = options.addresses.map .argument
  lines : options.addresses = [] → ∃ (lines : List Bytes) (asked : List (Option Request)),
    (∀ line ∈ lines, 0x0a ∉ line) ∧ [0x0a].intercalate lines = input ∧
    List.Forall₂ (fun entry request => LineAsks entry.1 entry.2 request) (lines.zipIdx 1) asked ∧
    requests = asked.filterMap id

theorem asks_requests (options : Options) (input : Bytes) :
    Asks options input (requests options input) where
  arguments h := by simp [requests, h]
  lines h := by
    let asked := ((input.splitOn 0x0a).zipIdx 1).map fun entry => Request.ofLine entry.1 entry.2
    refine ⟨input.splitOn 0x0a, asked, fun _ => Text.notMem_of_mem_splitOn,
      List.intercalate_splitOn _, ?_, ?_⟩
    · exact List.forall₂_map_right_iff.mpr
        (List.forall₂_same.mpr fun entry _ => lineAsks_ofLine entry.1 entry.2)
    · simp [asked, requests, h, Request.ofInput, List.filterMap_map]

namespace Request

/-- The text of a request is an address. -/
inductive Names : Request → Address → Prop
  | argument {text : String} {a : Address} (h : Address.read? text.toList = some a) :
      Names (.argument text) a
  | inputLine {number : Nat} {text : String} {a : Address}
      (h : Address.read? text.toList = some a) : Names (.inputLine number text) a

theorem address?_eq_some_iff {request : Request} {a : Address} :
    request.address? = some a ↔ request.Names a := by
  constructor
  · intro h
    cases request with
    | argument => exact .argument h
    | inputLine => exact .inputLine h
    | illFormedLine => cases h
  · intro h
    cases h with
    | argument h | inputLine h => exact h

theorem forall₂_names {requests : List Request} {addresses : List Address}
    (h : requests.map (·.address?) = addresses.map some) :
    List.Forall₂ Names requests addresses := by
  rw [← List.forall₂_eq_eq_eq, List.forall₂_map_left_iff, List.forall₂_map_right_iff] at h
  exact h.imp fun _ _ => address?_eq_some_iff.mp

/-- A request that ends a run, with the exit code and what is said about it. Only a text that is no
address is a usage error. -/
inductive Refused : Request → Nat → String → Prop
  | argument {text : String} (h : Address.read? text.toList = none) :
      Refused (.argument text) 2 ("Invalid address: " ++ text)
  | inputLine {number : Nat} {text : String} (h : Address.read? text.toList = none) :
      Refused (.inputLine number text) 2
        ("Invalid address on stdin line " ++ Numeral.decimal number ++ ": " ++ text)
  | illFormedLine : Refused .illFormedLine 1
      "Failed to read addresses from stdin: stream did not contain valid UTF-8"

/-- A request without an address is a usage error, except for a line that cannot be read. -/
theorem code_failure (request : Request) :
    request.failure.code = if request = .illFormedLine then 1 else 2 := by
  cases request with
  | argument | inputLine => exact RunFailure.code_of_isUsage rfl
  | illFormedLine => simp [failure, RunFailure.code_eq, RunFailure.cause?, RunFailure.isUsage,
      RunFailure.repeated]

theorem refused_failure {request : Request} (h : request.address? = none) :
    request.Refused request.failure.code request.failure.chain := by
  rw [code_failure]
  cases request with
  | argument => exact .argument h
  | inputLine => exact .inputLine h
  | illFormedLine => exact .illFormedLine

end Request

/-! ## The engine of a run -/

section Building

variable {files : Files} {options : Options}

theorem engine_eq (files : Files) (options : Options) :
    Command.engine files options =
      match checkTarget files options with
      | .error fault => .error (.badTarget fault)
      | .ok _ =>
        match lines files options with
        | .error failure => .error failure
        | .ok lines => (tables files options lines).result.mapError .badTable := by
  rw [Command.engine]
  cases checkTarget files options with
  | error fault => rfl
  | ok shortage => cases lines files options <;> rfl

theorem engine_eq_ok_iff {engine : Engine} :
    Command.engine files options = .ok engine ↔
      (∃ shortage, checkTarget files options = .ok shortage) ∧
        ∃ loading, lines files options = .ok loading ∧
          (tables files options loading).result = .ok engine := by
  rw [engine_eq]
  cases checkTarget files options with
  | error fault => simp
  | ok shortage => cases lines files options <;> simp [mapError_eq_ok_iff]

theorem engine_error_cases {failure : RunFailure}
    (h : Command.engine files options = .error failure) :
    (∃ fault, failure = .badTarget fault) ∨ lines files options = .error failure ∨
      ∃ fault, failure = .badTable fault := by
  rw [engine_eq] at h
  split at h
  · cases h
    exact .inl ⟨_, rfl⟩
  · split at h
    · next hlines =>
      cases h
      exact .inr (.inl hlines)
    · next loading _ =>
      cases hresult : (tables files options loading).result with
      | error fault =>
        rw [hresult] at h
        cases h
        exact .inr (.inr ⟨fault, rfl⟩)
      | ok engine =>
        rw [hresult] at h
        cases h

end Building

/-! ## Answering -/

/-- The addresses that are answered: those before the first request that has none. -/
def answered (requests : List Request) : List Address :=
  (requests.takeWhile (·.address?.isSome)).filterMap (·.address?)

section Answering

variable {request : Request} {requests : List Request}

theorem answered_cons_of_some {a : Address} (h : request.address? = some a) :
    answered (request :: requests) = a :: answered requests := by
  simp [answered, h]

theorem answered_cons_of_none (h : request.address? = none) :
    answered (request :: requests) = [] := by
  simp [answered, h]

/-- The first request that has no address. -/
def stopping? (requests : List Request) : Option Request :=
  requests.find? (·.address?.isNone)

theorem stopping?_cons_of_some {a : Address} (h : request.address? = some a) :
    stopping? (request :: requests) = stopping? requests := by
  simp [stopping?, h]

theorem stopping?_cons_of_none (h : request.address? = none) :
    stopping? (request :: requests) = some request := by
  simp [stopping?, h]

theorem map_address?_of_complete (h : stopping? requests = none) :
    requests.map (·.address?) = (answered requests).map some := by
  induction requests with
  | nil => rfl
  | cons request requests ih =>
    cases haddress : request.address? with
    | none => simp [stopping?_cons_of_none haddress] at h
    | some a =>
      rw [stopping?_cons_of_some haddress] at h
      rw [answered_cons_of_some haddress, List.map_cons, List.map_cons, ih h, haddress]

theorem length_answered (h : stopping? requests = none) :
    (answered requests).length = requests.length := by
  simpa using (congrArg List.length (map_address?_of_complete h)).symm

/-- The answered addresses are those in front of the request that ends the run. -/
theorem split_of_stopping (h : stopping? requests = some request) :
    ∃ before after, requests = before ++ request :: after ∧
      before.map (·.address?) = (answered requests).map some ∧ request.address? = none := by
  induction requests with
  | nil => cases h
  | cons first requests ih =>
    cases haddress : first.address? with
    | none =>
      rw [stopping?_cons_of_none haddress] at h
      cases h
      exact ⟨[], requests, rfl, by simp [answered_cons_of_none haddress], haddress⟩
    | some a =>
      rw [stopping?_cons_of_some haddress] at h
      obtain ⟨before, after, rfl, hbefore, hnone⟩ := ih h
      refine ⟨first :: before, after, rfl, ?_, hnone⟩
      rw [answered_cons_of_some haddress, List.map_cons, List.map_cons, hbefore, haddress]

/-- What the addresses give is written in their order, and both counters count it. -/
theorem answerAll_eq (engine : Engine) (asJson : Bool) (progress : Progress)
    (requests : List Request) :
    answerAll engine asJson progress requests =
      (⟨progress.written ++
          String.join ((answered requests).map fun a => (engine.answer a).line asJson),
        progress.total + (answered requests).length,
        progress.resolved + (answered requests).countP fun a => (engine.lookUp a).isOk⟩,
        (stopping? requests).map Request.failure) := by
  induction requests generalizing progress with
  | nil => simp [answerAll, answered, stopping?]
  | cons request requests ih =>
    cases haddress : request.address? with
    | none =>
      simp [answerAll, haddress, answered_cons_of_none haddress, stopping?_cons_of_none haddress]
    | some a =>
      have hstep : answerAll engine asJson progress (request :: requests) =
          answerAll engine asJson (progress.write asJson (engine.answer a)) requests := by
        simp [answerAll, haddress]
      rw [hstep, ih, answered_cons_of_some haddress, stopping?_cons_of_some haddress]
      simp [Progress.write, Answer.isHit, Engine.answer, String.append_assoc, List.countP_cons,
        Nat.add_assoc, Nat.add_comm]
      rfl

end Answering

/-! ## How a run ends -/

section Performing

variable {files : Files} {options : Options} {input : Bytes} {engine : Engine}

theorem perform_of_error {failure : RunFailure}
    (h : Command.engine files options = .error failure) :
    perform files options input =
      ⟨failure.code, "", warning files options ++ errorLine failure⟩ := by
  simp [perform, h]

theorem perform_of_stopping {request : Request} (h : Command.engine files options = .ok engine)
    (hstop : stopping? (requests options input) = some request) :
    perform files options input =
      ⟨request.failure.code,
        String.join ((answered (requests options input)).map
          fun a => (engine.answer a).line options.json),
        warning files options ++ errorLine request.failure⟩ := by
  simp [perform, h, reply, answerAll_eq, hstop]

theorem perform_of_complete (h : Command.engine files options = .ok engine)
    (hstop : stopping? (requests options input) = none) :
    perform files options input =
      ⟨0,
        String.join ((answered (requests options input)).map
          fun a => (engine.answer a).line options.json),
        warning files options ++ if options.quiet then "" else
          "resolved " ++ Numeral.decimal ((answered (requests options input)).countP
            fun a => (engine.lookUp a).isOk) ++
          " of " ++ Numeral.decimal (requests options input).length ++ " addresses\n"⟩ := by
  simp [perform, h, reply, answerAll_eq, hstop, Progress.summary, length_answered hstop]

/-- The addresses of a run that have a row. -/
def resolved (files : Files) (options : Options) (input : Bytes) : List Address :=
  match Command.engine files options with
  | .error _ => []
  | .ok engine => (answered (requests options input)).filter fun a => (engine.lookUp a).isOk

theorem length_resolved (h : Command.engine files options = .ok engine) :
    (resolved files options input).length =
      (answered (requests options input)).countP fun a => (engine.lookUp a).isOk := by
  rw [resolved, h, List.countP_eq_length_filter]

/-- Whether or not a request ends the run, what the addresses before it give is written. -/
theorem stdout_perform (h : Command.engine files options = .ok engine) :
    (perform files options input).stdout =
      String.join ((answered (requests options input)).map
        fun a => (engine.answer a).line options.json) := by
  cases hstop : stopping? (requests options input) with
  | none => rw [perform_of_complete h hstop]
  | some request => rw [perform_of_stopping h hstop]

theorem isLine_of_mem_requests {number : Nat} {text : String}
    (h : Request.inputLine number text ∈ requests options input) :
    ∃ line written, IsLine input number line ∧ Text.Utf8.decode? line = some written ∧
      text = String.ofList (Text.trim written.toList) := by
  rw [requests] at h
  split at h
  · exact Request.isLine_of_mem_ofInput h
  · simp at h

end Performing

/-- A run writes what its addresses give one by one. A request without an address ends it, and
leaves what was written before. -/
theorem perform_eq (files : Files) (options : Options) (input : Bytes) :
    Asks options input (requests options input) ∧
    match Command.engine files options with
    | .error failure =>
      perform files options input =
        ⟨failure.code, "", warning files options ++ errorLine failure⟩ ∧ failure.code ≠ 0
    | .ok engine => ∃ addresses : List Address,
      (perform files options input).stdout =
        String.join (addresses.map fun a => (engine.answer a).line options.json) ∧
      (List.Forall₂ Request.Names (requests options input) addresses ∧
          (perform files options input).code = 0 ∧
          (perform files options input).stderr = warning files options ++
            (if options.quiet then "" else
              "resolved " ++ Numeral.decimal (addresses.countP fun a => (engine.lookUp a).isOk) ++
              " of " ++ Numeral.decimal (requests options input).length ++ " addresses\n") ∨
        ∃ before request after code message,
          requests options input = before ++ request :: after ∧
          List.Forall₂ Request.Names before addresses ∧ request.Refused code message ∧
          (perform files options input).code = code ∧
          (perform files options input).stderr =
            warning files options ++ ("error: " ++ message ++ "\n") ∧
          ∀ number text, request = .inputLine number text →
            ∃ line written, IsLine input number line ∧ Text.Utf8.decode? line = some written ∧
              text = String.ofList (Text.trim written.toList)) := by
  refine ⟨asks_requests options input, ?_⟩
  cases hengine : Command.engine files options with
  | error failure => exact ⟨perform_of_error hengine, failure.code_ne_zero⟩
  | ok engine =>
    refine ⟨answered (requests options input), ?_⟩
    cases hstop : stopping? (requests options input) with
    | none =>
      rw [perform_of_complete hengine hstop]
      exact ⟨rfl, .inl ⟨Request.forall₂_names (map_address?_of_complete hstop), rfl, rfl⟩⟩
    | some request =>
      obtain ⟨before, after, hsplit, hbefore, hnone⟩ := split_of_stopping hstop
      rw [perform_of_stopping hengine hstop]
      refine ⟨rfl, .inr ⟨before, request, after, _, _, hsplit, Request.forall₂_names hbefore,
        Request.refused_failure hnone, rfl, rfl, fun number text hrequest => ?_⟩⟩
      subst hrequest
      have hmem : Request.inputLine number text ∈ requests options input := by simp [hsplit]
      exact isLine_of_mem_requests hmem

/-! ## Usage errors -/

/-- Why a run ends early, if it does. -/
def failure? (files : Files) (options : Options) (input : Bytes) : Option RunFailure :=
  match Command.engine files options with
  | .error failure => some failure
  | .ok _ => (stopping? (requests options input)).map Request.failure

theorem code_perform_eq (files : Files) (options : Options) (input : Bytes) :
    (perform files options input).code = (failure? files options input).elim 0 RunFailure.code := by
  cases hengine : Command.engine files options with
  | error failure => simp [perform_of_error hengine, failure?, hengine]
  | ok engine =>
    cases hstop : stopping? (requests options input) with
    | none => simp [perform_of_complete hengine hstop, failure?, hengine, hstop]
    | some request => simp [perform_of_stopping hengine hstop, failure?, hengine, hstop]

theorem lines_eq_error_iff {files : Files} {options : Options} {failure : RunFailure} :
    lines files options = .error failure ↔
      options.target = none ∧ options.lineDump = none ∧ failure = .noSource := by
  rw [lines]
  split <;> simp_all [eq_comm]

/-- Before the first request is read, only the lack of a source is a usage error. -/
theorem engine_eq_error_isUsage_iff {files : Files} {options : Options} :
    (∃ failure, Command.engine files options = .error failure ∧ failure.isUsage) ↔
      options.target = none ∧ options.lineDump = none := by
  constructor
  · rintro ⟨failure, hfailure, husage⟩
    rcases engine_error_cases hfailure with ⟨fault, rfl⟩ | hlines | ⟨fault, rfl⟩
    · cases husage
    · obtain ⟨htarget, hdump, -⟩ := lines_eq_error_iff.mp hlines
      exact ⟨htarget, hdump⟩
    · cases husage
  · rintro ⟨htarget, hdump⟩
    exact ⟨.noSource, by simp [engine_eq, checkTarget, lines, htarget, hdump], rfl⟩

theorem Request.isUsage_failure (request : Request) :
    request.failure.isUsage = true ↔ request ≠ .illFormedLine := by
  cases request <;> simp [failure, RunFailure.isUsage]

/-- The exit code tells usage errors from other failures, unless the failure repeats a text that
sounds like a usage error itself. -/
theorem code_perform (files : Files) (options : Options) (input : Bytes) :
    (perform files options input).code =
        (match failure? files options input with
        | none => 0
        | some failure =>
          if failure.cause? = some .denied then 77
          else if failure.isUsage ∨
            ∃ text ∈ failure.repeated, RunFailure.SoundsLikeUsage text then 2
          else 1) ∧
      ((∃ failure, failure? files options input = some failure ∧ failure.isUsage) ↔
        options.target = none ∧ options.lineDump = none ∨
          ∃ engine request, Command.engine files options = .ok engine ∧
            stopping? (requests options input) = some request ∧ request ≠ .illFormedLine) := by
  constructor
  · rw [code_perform_eq]
    cases failure? files options input with
    | none => rfl
    | some failure => exact failure.code_eq
  · rw [← @engine_eq_error_isUsage_iff files]
    cases hengine : Command.engine files options with
    | error failure => simp [failure?, hengine]
    | ok engine => simp [failure?, hengine, Request.isUsage_failure]

/-- A missing line dump whose name sounds like a usage error. The address is not even read. -/
theorem code_run_misled :
    (run (fun _ => .unreachable .notFound) ["--line-dump", "invalid address", "0x10"] []).map
        Output.code = .ok 2 ∧
      (Options.read ["--line-dump", "invalid address", "0x10"]).map
          (Command.engine (fun _ => .unreachable .notFound)) =
        .ok (.error (.badTable (.unreadable "invalid address" .notFound))) :=
  ⟨by decide +kernel, rfl⟩

end Command

end Symbolication
