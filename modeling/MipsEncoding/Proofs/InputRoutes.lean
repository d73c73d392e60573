import MipsEncoding.Proofs.ArgumentReading
import MipsEncoding.Proofs.NormalForm
import MipsEncoding.Proofs.ReportTable
import MipsEncoding.Proofs.Schedules

/-! The two ways to give instructions to the command line. `Runs` says what the program can write,
whatever the reader of arguments and the schedule of the workers are. The lines of the standard input
that hold an instruction are treated like arguments, and each of them as if it were the only one: what
is written for many lines is what is written for each, in their order. -/
namespace MipsEncoding.CommandLine
open Text

/-- A text as bytes in UTF-8. -/
def encode (t : Text) : ByteArray := (String.ofList t).toUTF8

/-- The lines of a text. A line ends with a line feed, or with a carriage return and a line feed, or
where the text ends; a carriage return anywhere else belongs to its line. -/
inductive Lines : Text → List Text → Prop
  | nil : Lines [] []
  | last {t : Text} (nonempty : t ≠ []) (unbroken : '\n' ∉ t) : Lines t [t]
  | lineFeed {t rest : Text} {ls : List Text} (unbroken : '\n' ∉ t)
      (unreturned : t.getLast? ≠ some '\r') (more : Lines rest ls) :
      Lines (t ++ '\n' :: rest) (t :: ls)
  | returnLineFeed {t rest : Text} {ls : List Text} (unbroken : '\n' ∉ t) (more : Lines rest ls) :
      Lines (t ++ '\r' :: '\n' :: rest) (t :: ls)

/-- What the program can write for its arguments and the bytes on its standard input. The reader of
arguments and the number of workers that are used unless another one is asked for come from outside. -/
inductive Runs (read : ArgumentReader) (parallelism : Nat) (arguments : List Text)
    (bytes : ByteArray) : Transcript → Prop
  | answered {r : Request} {lines : List Text} {outcome : Batch.Outcome}
      (asked : read arguments = .ok r) (given : r.lines? (decodeInput bytes) = some lines)
      (possible : Batch.Possible (r.workers.getD parallelism) lines outcome) :
      Runs read parallelism arguments bytes (respondAll r.hexOnly lines outcome.results)
  | unreadable {r : Request} (asked : read arguments = .ok r)
      (missing : r.lines? (decodeInput bytes) = none) :
      Runs read parallelism arguments bytes unreadableInput

/-- Whether something visible stands in front of the comment of a line. -/
def isVisible (line : Text) : Bool := (before '#' line).any (!isBlank ·)

section Lines

theorem linesOf_of_unbroken {t : Text} (h : '\n' ∉ t) : linesOf t = if t.isEmpty then [] else [t] := by
  rw [linesOf, List.splitOn_eq_singleton h, linesOfParts]

theorem linesOf_append {t : Text} (h : '\n' ∉ t) (rest : Text) :
    linesOf (t ++ '\n' :: rest) = dropReturn t :: linesOf rest := by
  rw [linesOf, List.splitOn_append_cons_self_of_not_mem h, linesOfParts, linesOf]
  exact List.splitOn_ne_nil '\n' rest

theorem linesOf_of_lines {t : Text} {ls : List Text} (h : Lines t ls) : linesOf t = ls := by
  induction h with
  | nil => rfl
  | last nonempty unbroken => simp [linesOf_of_unbroken unbroken, nonempty]
  | lineFeed unbroken unreturned more ih =>
    rw [linesOf_append unbroken, ih, dropReturn, if_neg (by simpa using unreturned)]
  | @returnLineFeed t rest ls unbroken more ih =>
    have htext : t ++ '\r' :: '\n' :: rest = (t ++ ['\r']) ++ '\n' :: rest := by simp
    rw [htext, linesOf_append (by simp [unbroken]), ih, dropReturn, if_pos (by simp)]
    simp

theorem exists_lines_cons {t : Text} {ls : List Text} (c : Char) (h : Lines t ls) :
    ∃ ls', Lines (c :: t) ls' := by
  by_cases hc : c = '\n'
  · exact ⟨[] :: ls, hc ▸ .lineFeed List.not_mem_nil (by decide) h⟩
  have hcons {s : Text} (hs : '\n' ∉ s) : '\n' ∉ c :: s := by
    simpa [hs] using Ne.symm hc
  cases h with
  | nil => exact ⟨_, .last (List.cons_ne_nil c []) (hcons List.not_mem_nil)⟩
  | last nonempty unbroken => exact ⟨_, .last (List.cons_ne_nil c t) (hcons unbroken)⟩
  | @lineFeed s rest ls unbroken unreturned more =>
    -- A carriage return joins the line feed only if it stands right before it.
    by_cases hreturn : c :: s = ['\r']
    · obtain ⟨rfl, rfl⟩ := List.cons.inj hreturn
      exact ⟨_, .returnLineFeed List.not_mem_nil more⟩
    · refine ⟨_, .lineFeed (hcons unbroken) ?_ more⟩
      cases s with
      | nil => simpa using hreturn
      | cons d s => simpa [List.getLast?_cons_cons] using unreturned
  | returnLineFeed unbroken more => exact ⟨_, .returnLineFeed (hcons unbroken) more⟩

/-- The lines that are found are the lines of the text. -/
theorem lines_iff {t : Text} {ls : List Text} : Lines t ls ↔ linesOf t = ls := by
  refine ⟨linesOf_of_lines, ?_⟩
  rintro rfl
  obtain ⟨ls, hls⟩ : ∃ ls, Lines t ls := by
    induction t with
    | nil => exact ⟨[], .nil⟩
    | cons c t ih =>
      obtain ⟨ls, hls⟩ := ih
      exact exists_lines_cons c hls
  rwa [linesOf_of_lines hls]

end Lines

section Input

theorem decodeInput_encode (t : Text) : decodeInput (encode t) = some t := by
  have hvalid : (encode t).IsValidUTF8 := (String.ofList t).isValidUTF8
  have hread : String.fromUTF8? (encode t) = some (String.ofList t) := dif_pos hvalid
  rw [decodeInput, hread, Option.map_some, String.toList_ofList]

/-- The lines with an instruction on them are those with something visible before any comment. -/
theorem holdsInstruction_eq (line : Text) : holdsInstruction line = isVisible line := by
  have hvisible : isVisible line = true ↔ ¬Blank (before '#' line) := by
    simp [isVisible, Blank]
  rw [Bool.eq_iff_iff, hvisible, holdsInstruction]
  cases hfound : Instruction.ofLine line with
  | ok i =>
    refine iff_of_true rfl fun hblank => ?_
    rw [Instruction.ofLine_eq_error_iff.mpr ⟨rfl, hblank⟩] at hfound
    cases hfound
  | error e =>
    exact iff_of_false Bool.false_ne_true (not_not_intro (Instruction.ofLine_eq_error_iff.mp hfound).2)

/-- Where an instruction is found, no failure is that of an empty line. -/
theorem interpret_ne_empty {line : Text} (h : holdsInstruction line = true) :
    (interpret line).outcome ≠ .error (.line .empty) := by
  have hstages : (interpret line).outcome = (Interpretation.ofLine line).outcome := rfl
  rw [hstages]
  cases hfound : Instruction.ofLine line with
  | error e =>
    rw [holdsInstruction, hfound] at h
    cases h
  | ok i =>
    simp [Interpretation.ofLine, bind_eq_error_iff, Run.outcome_mapError_eq_error_iff, hfound]

end Input

/-- What is written for one line, and whether it failed. -/
def answerTo (hexOnly : Bool) (line : Text) : Transcript := respond hexOnly line (interpret line).outcome

/-- The lines that tell of a failure, with an empty one behind them unless there are only words. -/
def complaint (hexOnly : Bool) (line : Text) (failure : Failure) : List Text :=
  [line.trim, "error (".toList ++ failure.stage.name ++ " stage): ".toList ++ failure.message] ++
    (failure.help.map ("help: ".toList ++ ·)).toList ++ if hexOnly then [] else [[]]

section Transcripts

variable {read : ArgumentReader} {parallelism : Nat} {arguments : List Text} {bytes : ByteArray}
  {r : Request} {lines : List Text} {t : Transcript}

/-- Each line is paired with its own outcome, however the batch went. -/
theorem respondAll_of_possible {workers : Nat} {outcome : Batch.Outcome} (hexOnly : Bool)
    (h : Batch.Possible workers lines outcome) :
    respondAll hexOnly lines outcome.results = Transcript.concat (lines.map (answerTo hexOnly)) := by
  rw [respondAll, h.results_eq, Batch.results_interpretAll, ← List.map_prod_left_eq_zip, List.map_map]
  rfl

/-- The transcript depends neither on the number of workers nor on their schedule. -/
theorem runs_iff_of_lines (asked : read arguments = .ok r)
    (given : r.lines? (decodeInput bytes) = some lines) :
    Runs read parallelism arguments bytes t ↔
      t = Transcript.concat (lines.map (answerTo r.hexOnly)) := by
  constructor
  · intro h
    cases h with
    | @answered r' lines' outcome asked' given' possible =>
      obtain rfl : r = r' := Except.ok.inj (asked.symm.trans asked')
      obtain rfl : lines = lines' := Option.some.inj (given.symm.trans given')
      exact respondAll_of_possible _ possible
    | @unreadable r' asked' missing =>
      obtain rfl : r = r' := Except.ok.inj (asked.symm.trans asked')
      rw [given] at missing
      cases missing
  · rintro rfl
    have possible := Batch.possible_interpretAll (r.workers.getD parallelism) lines
    rw [← respondAll_of_possible _ possible]
    exact .answered asked given possible

/-- An input that is needed and is no text leaves one transcript only. -/
theorem runs_iff_of_missing (asked : read arguments = .ok r)
    (missing : r.lines? (decodeInput bytes) = none) :
    Runs read parallelism arguments bytes t ↔ t = unreadableInput := by
  constructor
  · intro h
    cases h with
    | @answered r' lines' outcome asked' given' possible =>
      obtain rfl : r = r' := Except.ok.inj (asked.symm.trans asked')
      rw [missing] at given'
      cases given'
    | unreadable => rfl
  · rintro rfl
    exact .unreadable asked missing

theorem Runs.exists_asked (h : Runs read parallelism arguments bytes t) :
    ∃ r, read arguments = .ok r := by
  cases h with
  | answered asked => exact ⟨_, asked⟩
  | unreadable asked => exact ⟨_, asked⟩

/-- `answer` gives the only transcript that is possible. -/
theorem runs_iff_answer : Runs read parallelism arguments bytes t ↔
    ∃ r, read arguments = .ok r ∧ t = answer r (decodeInput bytes) := by
  have hanswer (r : Request) (asked : read arguments = .ok r) :
      Runs read parallelism arguments bytes t ↔ t = answer r (decodeInput bytes) := by
    cases given : r.lines? (decodeInput bytes) with
    | some lines =>
      rw [runs_iff_of_lines asked given, answer, given,
        ← respondAll_of_possible _ (Batch.possible_interpretAll (r.workers.getD defaultWorkers) lines)]
    | none => rw [runs_iff_of_missing asked given, answer, given]
  constructor
  · intro h
    obtain ⟨r, asked⟩ := h.exists_asked
    exact ⟨r, asked, (hanswer r asked).mp h⟩
  · rintro ⟨r, asked, ht⟩
    exact (hanswer r asked).mpr ht

theorem failed_answerTo (hexOnly : Bool) (line : Text) :
    (answerTo hexOnly line).failed = true ↔ ∃ e, (interpret line).outcome = .error e := by
  rw [answerTo]
  cases (interpret line).outcome <;> simp [respond]

theorem exitCode_eq_one_iff : t.exitCode = 1 ↔ t.failed = true := by
  cases hfailed : t.failed <;> simp [Transcript.exitCode, hfailed]

theorem exitCode_eq_one_or_zero (t : Transcript) : t.exitCode = 1 ∨ t.exitCode = 0 := by
  cases hfailed : t.failed <;> simp [Transcript.exitCode, hfailed]

theorem exitCode_concat_eq_one_iff (hexOnly : Bool) (lines : List Text) :
    (Transcript.concat (lines.map (answerTo hexOnly))).exitCode = 1 ↔
      ∃ l ∈ lines, ∃ e, (interpret l).outcome = .error e := by
  rw [exitCode_eq_one_iff, Transcript.concat]
  simp only [List.any_map, List.any_eq_true, Function.comp_apply, failed_answerTo]

end Transcripts

section Writing

theorem failureText_eq (hexOnly : Bool) (line : Text) (failure : Failure) :
    failureText hexOnly line failure = (complaint hexOnly line failure).flatMap Text.line := by
  rw [failureText, complaint]
  cases failure.help <;> cases hexOnly <;> simp

/-- An accepted line leaves its word or its report, a refused one a complaint. -/
theorem answerTo_eq (hexOnly : Bool) (line : Text) :
    (∀ i, (interpret line).outcome = .ok i →
        answerTo hexOnly line = { output := Text.line (if hexOnly then i.hex else i.report) }) ∧
      ∀ failure, (interpret line).outcome = .error failure →
        answerTo hexOnly line =
          { errors := (complaint hexOnly line failure).flatMap Text.line, failed := true } := by
  constructor
  · intro i hi
    rw [answerTo, hi, respond]
  · intro failure hfailure
    rw [answerTo, hfailure, respond, failureText_eq]

/-- Without reports, the lines of the output are the words of the accepted instructions. -/
theorem linesOf_output_hexOnly (lines : List Text) :
    Report.linesOf (Transcript.concat (lines.map (answerTo true))).output =
      lines.filterMap fun line => (interpret line).outcome.toOption.map (·.hex) := by
  have houtput : lines.flatMap (fun line => (answerTo true line).output) =
      (lines.filterMap fun line => (interpret line).outcome.toOption.map (·.hex)).flatMap Text.line := by
    induction lines with
    | nil => rfl
    | cons l lines ih =>
      rw [List.flatMap_cons, ih, List.filterMap_cons]
      cases hl : (interpret l).outcome with
      | ok i => simp [(answerTo_eq true l).1 i hl, Except.toOption]
      | error failure => simp [(answerTo_eq true l).2 failure hl, Except.toOption]
  rw [Transcript.concat, List.flatMap_map, houtput]
  refine Report.linesOf_flatMap_line fun hex hmem => ?_
  obtain ⟨l, -, hl⟩ := List.mem_filterMap.mp hmem
  cases houtcome : (interpret l).outcome with
  | error failure => simp [houtcome, Except.toOption] at hl
  | ok i =>
    obtain rfl : i.hex = hex := by simpa [houtcome, Except.toOption] using hl
    exact Report.unbroken_hex (interpret_eq_ok_iff.mp houtcome)

end Writing

/-- A run over the standard input answers each line with something visible before any comment as a
run on that line alone does, and a run on all of them as arguments does the same, with any number of
workers and on any schedule. It fails exactly if one of them is refused, none of them for being
empty. -/
theorem run_input_agrees {read : ArgumentReader} (hread : Reads read) {hexOnly : Bool}
    {workers : Option Nat} {options : List Text} (asked : Asks hexOnly workers options)
    (parallelism : Nat) (input : Text) :
    ∃ lines held t, Lines input lines ∧ lines.filter isVisible = held ∧
      (∀ t', Runs read parallelism options (encode input) t' ↔ t' = t) ∧
      (t.exitCode = 1 ↔ ∃ l ∈ held, ∃ e, (interpret l).outcome = .error e) ∧
      (t.exitCode = 1 ∨ t.exitCode = 0) ∧
      (∀ l ∈ held, ∀ bytes t',
        Runs read parallelism (options ++ ["--".toList, l]) bytes t' ↔ t' = answerTo hexOnly l) ∧
      t.output = held.flatMap (fun l => (answerTo hexOnly l).output) ∧
      t.errors = held.flatMap (fun l => (answerTo hexOnly l).errors) ∧
      (∀ l ∈ held, (interpret l).outcome ≠ .error (.line .empty)) ∧
      (held ≠ [] → ∀ bytes t',
        Runs read parallelism (options ++ "--".toList :: held) bytes t' ↔ t' = t) := by
  have hheld : (linesOf input).filter isVisible = instructionLines input :=
    List.filter_congr fun l _ => (holdsInstruction_eq l).symm
  have hescaped {instructions : List Text} (hne : instructions ≠ []) (bytes : ByteArray)
      (t : Transcript) : Runs read parallelism (options ++ "--".toList :: instructions) bytes t ↔
        t = Transcript.concat (instructions.map (answerTo hexOnly)) :=
    runs_iff_of_lines (hread.escaped asked instructions) (if_neg (by simpa using hne))
  refine ⟨linesOf input, instructionLines input,
    Transcript.concat ((instructionLines input).map (answerTo hexOnly)), lines_iff.mpr rfl, hheld,
    ?_, exitCode_concat_eq_one_iff _ _, exitCode_eq_one_or_zero _, ?_, ?_, ?_, ?_, ?_⟩
  · intro t'
    refine runs_iff_of_lines (hread.options asked) ?_
    rw [decodeInput_encode]
    rfl
  · intro l _ bytes t'
    rw [hescaped (List.cons_ne_nil l []), List.map_singleton]
    simp [Transcript.concat]
  · simp only [Transcript.concat, List.flatMap_map]
  · simp only [Transcript.concat, List.flatMap_map]
  · intro l hl
    exact interpret_ne_empty (List.mem_filter.mp hl).2
  · intro hne bytes t'
    exact hescaped hne bytes t'

/-- Of four lines two hold an instruction. The second is refused, as an argument too, and not taken for
an option. -/
theorem run_input_agrees_refused :
    ∃ t, Runs conventional 4 ["--hex".toList, "-j".toList, "2".toList]
        (encode " # note\r\nj 4\r\n\n-j 4\r".toList) t ∧ t.exitCode = 1 ∧
      ∀ bytes, Runs conventional 4 ["--hex".toList, "-j".toList, "2".toList, "--".toList, "j 4".toList,
        "-j 4\r".toList] bytes t := by
  have hcounts : Counts 2 "2".toList := by
    have hsigned : (([] : Text), (1 : Int)) ∈ Numeral.signs := by decide
    have hlisted : ∀ d ∈ [('2', 2)], d ∈ Radix.decimal.digits := by decide
    exact ⟨.intro hsigned (List.mem_singleton_self []) (by simp) hlisted, by decide, by decide⟩
  obtain ⟨lines, held, t, hlines, hheld, hrun, hexit, -, -, -, -, -, hsame⟩ :=
    run_input_agrees reads_conventional (.hexFirst (.short hcounts)) 4
      " # note\r\nj 4\r\n\n-j 4\r".toList
  have hvisible : (linesOf " # note\r\nj 4\r\n\n-j 4\r".toList).filter isVisible =
      ["j 4".toList, "-j 4\r".toList] := by
    decide +kernel
  rw [lines_iff.mp hlines, hheld] at hvisible
  subst hvisible
  have hrefused : (interpret "-j 4\r".toList).outcome.isOk = false := by decide +kernel
  refine ⟨t, (hrun t).mpr rfl, hexit.mpr ⟨"-j 4\r".toList, by simp, ?_⟩,
    fun bytes => (hsame (by simp) bytes t).mpr rfl⟩
  cases houtcome : (interpret "-j 4\r".toList).outcome with
  | error e => exact ⟨e, rfl⟩
  | ok i =>
    rw [houtcome] at hrefused
    cases hrefused

end MipsEncoding.CommandLine
