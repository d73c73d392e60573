import MipsEncoding.Proofs.Faults
import MipsEncoding.Proofs.ReportTable
import MipsEncoding.Proofs.Schedules

/-! The order of the journal. A line leaves one record for each thing that was done to it, in the order
of the stages: it was split, its operands were taken one after the other, they were read, and last how
it ended. The records stop where the line is refused: operands are taken up to the leftmost one that
its role refuses, and none if their number is wrong. Each record quotes the texts it speaks of, so it
stays on one line. The journal of a batch on one worker is made of the journals of its lines. -/
namespace MipsEncoding
open Text

namespace Operands

/-- The records of operands that were taken, each with its role. -/
def taken (entries : List (Role × Text)) : List Record :=
  entries.map fun (role, piece) => .operandTaken piece role

section Passes

variable {ops filled : Operands} {role : Role} {piece : Text} {e : OperandError}

theorem fill_cons_of_error (h : ops.assign role piece = .error e) (rest : List (Role × Text)) :
    fill ops ((role, piece) :: rest) = ⟨[.operandTaken piece role], .error e⟩ := by
  rw [fill, h]
  rfl

theorem fill_cons_of_ok (h : ops.assign role piece = .ok filled) (rest : List (Role × Text)) :
    fill ops ((role, piece) :: rest) =
      ⟨.operandTaken piece role :: (fill filled rest).log, (fill filled rest).outcome⟩ := by
  rw [fill, h]
  rfl

end Passes

/-- A pass over operands takes all of them if their roles accept them, else those up to the leftmost
one that is refused, which is to blame. -/
theorem fill_cases (ops : Operands) {entries : List (Role × Text)}
    (ht : ∀ entry ∈ entries, Trimmed entry.2) :
    (∃ filled, (∀ entry ∈ entries, Accepts entry.1 entry.2) ∧
        fill ops entries = ⟨taken entries, .ok filled⟩) ∨
      ∃ before role piece after e, entries = before ++ (role, piece) :: after ∧
        (∀ entry ∈ before, Accepts entry.1 entry.2) ∧ ¬ Accepts role piece ∧ Blames role piece e ∧
        fill ops entries = ⟨taken (before ++ [(role, piece)]), .error e⟩ := by
  induction entries generalizing ops with
  | nil => exact .inl ⟨ops, by simp, rfl⟩
  | cons entry rest ih =>
    obtain ⟨role, piece⟩ := entry
    obtain ⟨hpiece, hrest⟩ := List.forall_mem_cons.mp ht
    cases hassign : ops.assign role piece with
    | error e =>
      obtain ⟨hillegal, hblames⟩ := (assign_eq_error_iff hpiece).mp hassign
      have hrun := fill_cons_of_error hassign rest
      exact .inr ⟨[], role, piece, rest, e, rfl, by simp, hillegal, hblames, hrun⟩
    | ok filled =>
      have hlegal := (accepts_iff ops).mpr ⟨filled, (assign_eq_ok_iff hpiece).mp hassign⟩
      rw [fill_cons_of_ok hassign]
      -- the rest of the pass starts from the filled slots and puts its records behind this one
      rcases ih filled hrest with ⟨last, hall, hrun⟩ |
        ⟨before, role', piece', after, e, rfl, hbefore, hillegal, hblames, hrun⟩
      · refine .inl ⟨last, List.forall_mem_cons.mpr ⟨hlegal, hall⟩, ?_⟩
        rw [hrun]
        rfl
      · refine .inr ⟨(role, piece) :: before, role', piece', after, e, rfl,
          List.forall_mem_cons.mpr ⟨hlegal, hbefore⟩, hillegal, hblames, ?_⟩
        rw [hrun]
        rfl

/-- With known roles, only the number of pieces is checked before the operands are taken. -/
theorem read_cases {template : Text} {roles : List Role} (hroles : Template.roles template = .ok roles)
    (operands : Option Text) :
    (found operands).length ≠ (template.splitOn ',').length ∧
        read operands template = Run.fail (.wrongCount template (operands.getD [])) ∨
      (found operands).length = roles.length ∧
        read operands template = fill {} (roles.zip (found operands)) := by
  rw [read_eq_found, hroles]
  split
  · next hcount => exact .inl ⟨hcount, rfl⟩
  · next hcount =>
    have hlength := (not_not.mp hcount).trans (length_roles hroles)
    exact .inr ⟨hlength, rfl⟩

end Operands

/-- An instruction on a line, its definition and the pieces of its operands. -/
structure Requests (line : Text) (i : Instruction) (d : Definition) (ps : List Text) : Prop where
  split : Instruction.ofLine line = .ok i
  listed : d ∈ Catalog.definitions
  named : d.mnemonic = i.mnemonic
  made : Operands.MadeOf i.operands ps

/-- The operands in their roles: the roles are those of the template, and the texts are the pieces, both
in order and without one left over. -/
structure Assigns (d : Definition) (ps : List Text) (entries : List (Role × Text)) : Prop where
  roles : entries.map (·.1.name) = (d.template.splitOn ',').map trim
  pieces : entries.map (·.2) = ps

theorem assigns_zip {d : Definition} {roles : List Role} {ps : List Text}
    (hroles : Template.roles d.template = .ok roles) (hlength : ps.length = roles.length) :
    Assigns d ps (roles.zip ps) := by
  constructor
  · have hfst : (roles.zip ps).map Prod.fst = roles := List.map_fst_zip hlength.ge
    rw [Template.names_of_roles hroles, ← congrArg (List.map Role.name) hfst, List.map_map]
    rfl
  · exact List.map_snd_zip hlength.le

/-- What the journal holds of a line before it says how the line ended, and how it ended. -/
inductive Recorded (line : Text) : List Record → Except Failure Interpretation → Prop
  | unsplit {e : LineError} (unsplit : Instruction.ofLine line = .error e) :
      Recorded line [] (.error (.line e))
  | unknown {i : Instruction} (split : Instruction.ofLine line = .ok i)
      (unlisted : ∀ d ∈ Catalog.definitions, d.mnemonic ≠ i.mnemonic) :
      Recorded line [.lineSplit line i] (.error (.operand (.unknownMnemonic i.mnemonic)))
  | miscounted {i : Instruction} {d : Definition} {ps : List Text} (requests : Requests line i d ps)
      (miscounted : ps.length ≠ (d.template.splitOn ',').length) :
      Recorded line [.lineSplit line i]
        (.error (.operand (.wrongCount d.template (i.operands.getD []))))
  | refused {i : Instruction} {d : Definition} {ps : List Text} {before after : List (Role × Text)}
      {role : Role} {piece : Text} {e : OperandError} (requests : Requests line i d ps)
      (assigns : Assigns d ps (before ++ (role, piece) :: after))
      (legal : ∀ entry ∈ before, Operands.Accepts entry.1 entry.2)
      (illegal : ¬ Operands.Accepts role piece) (blamed : Operands.Blames role piece e) :
      Recorded line (.lineSplit line i :: Operands.taken (before ++ [(role, piece)]))
        (.error (.operand e))
  | unencoded {i : Instruction} {d : Definition} {ps : List Text} {entries : List (Role × Text)}
      {ops : Operands} {e : EncodingError} (requests : Requests line i d ps)
      (assigns : Assigns d ps entries)
      (legal : ∀ entry ∈ entries, Operands.Accepts entry.1 entry.2)
      (read : (Operands.read i.operands d.template).outcome = .ok ops) :
      Recorded line (.lineSplit line i :: Operands.taken entries ++ [.operandsRead ops])
        (.error (.encoding e))
  | encoded {d : Definition} {ps : List Text} {entries : List (Role × Text)}
      {interpretation : Interpretation}
      (requests : Requests line interpretation.instruction d ps) (assigns : Assigns d ps entries)
      (legal : ∀ entry ∈ entries, Operands.Accepts entry.1 entry.2)
      (read : (Operands.read interpretation.instruction.operands d.template).outcome =
        .ok interpretation.operands) :
      Recorded line (.lineSplit line interpretation.instruction :: Operands.taken entries ++
        [.operandsRead interpretation.operands]) (.ok interpretation)

namespace Interpretation

/-- The stages behind the reading of operands. -/
def encode (line : Text) (i : Instruction) (d : Definition) (ops : Operands) :
    Run Failure Interpretation := do
  let assembly ← (Assembly.assemble d ops).mapError .encoding
  let hex ← (Word.hexOfBinary assembly.binary).mapError .encoding
  pure ⟨line, i, d, ops, assembly.fields, assembly.binary, hex⟩

theorem encode_cases {d : Definition} (hd : d ∈ Catalog.definitions) {i : Instruction}
    {ops : Operands} (hread : (Operands.read i.operands d.template).outcome = .ok ops) (line : Text) :
    (∃ interpretation, interpretation.instruction = i ∧ interpretation.operands = ops ∧
        encode line i d ops = Run.ok interpretation) ∨
      ∃ e, encode line i d ops = Run.fail (.encoding e) := by
  obtain ⟨f, hf, ha⟩ | ⟨e, -, ha⟩ := Assembly.assemble_cases hd (Assembly.supplied_of_read hd hread)
  · obtain ⟨hlen, hdigits⟩ := hf.concat_digits hd
    refine .inl ⟨⟨line, i, d, ops, f, f.concat, "0x".toList ++ Word.nibbles f.concat⟩, rfl, rfl, ?_⟩
    rw [encode, ha, Run.mapError_ok, Run.ok_bind, Word.hexOfBinary_of_digits hlen hdigits]
    rfl
  · refine .inr ⟨e, ?_⟩
    rw [encode, ha, Run.mapError_fail, Run.fail_bind]

/-- A line with a known name: its operands are read, and what is read is encoded. -/
theorem ofLine_of_find {line : Text} {i : Instruction} {d : Definition}
    (hsplit : Instruction.ofLine line = .ok i) (hfind : Catalog.find i.mnemonic = .ok d) :
    ofLine line = Run.note (.lineSplit line i) >>= fun _ =>
      (Operands.read i.operands d.template).mapError .operand >>= fun ops =>
        Run.note (.operandsRead ops) >>= fun _ => encode line i d ops := by
  rw [ofLine, hsplit, Run.ofExcept_ok, Run.mapError_ok, Run.ok_bind, hfind]
  rfl

/-- Once the operands are read, all records but the last one of the line have been made. -/
theorem ofLine_of_read {line : Text} {i : Instruction} {d : Definition}
    (hsplit : Instruction.ofLine line = .ok i) (hfind : Catalog.find i.mnemonic = .ok d)
    {log : List Record} {ops : Operands} (hread : Operands.read i.operands d.template = ⟨log, .ok ops⟩) :
    ofLine line = ⟨.lineSplit line i :: (log ++ .operandsRead ops :: (encode line i d ops).log),
      (encode line i d ops).outcome⟩ := by
  rw [ofLine_of_find hsplit hfind, hread]
  rfl

theorem recorded_of_find {line : Text} {i : Instruction} {d : Definition}
    (hsplit : Instruction.ofLine line = .ok i) (hfind : Catalog.find i.mnemonic = .ok d) :
    Recorded line (ofLine line).log (ofLine line).outcome := by
  obtain ⟨hd, hname⟩ := Catalog.find_eq_ok_iff.mp hfind
  obtain ⟨roles, -, hroles⟩ := (Catalog.wellFormed hd).template
  have hrequests : Requests line i d (Operands.found i.operands) :=
    ⟨hsplit, hd, hname, Operands.madeOf_iff.mpr rfl⟩
  rcases Operands.read_cases hroles i.operands with ⟨hcount, hread⟩ | ⟨hcount, hread⟩
  · rw [ofLine_of_find hsplit hfind, hread]
    exact .miscounted hrequests hcount
  have hassigns := assigns_zip hroles hcount
  rcases Operands.fill_cases {} Operands.trimmed_of_mem_zip_found with ⟨ops, hlegal, hfill⟩ |
    ⟨before, role, piece, after, e, hentries, hbefore, hillegal, hblames, hfill⟩
  · have hrun := hread.trans hfill
    have houtcome : (Operands.read i.operands d.template).outcome = .ok ops := by rw [hrun]
    rw [ofLine_of_read hsplit hfind hrun]
    rcases encode_cases hd houtcome line with ⟨interpretation, rfl, rfl, hencode⟩ | ⟨e, hencode⟩
    · rw [hencode]
      exact .encoded hrequests hassigns hlegal houtcome
    · rw [hencode]
      exact .unencoded hrequests hassigns hlegal houtcome
  · rw [ofLine_of_find hsplit hfind, hread, hfill]
    rw [hentries] at hassigns
    exact .refused hrequests hassigns hbefore hillegal hblames

theorem recorded_ofLine (line : Text) : Recorded line (ofLine line).log (ofLine line).outcome := by
  cases hsplit : Instruction.ofLine line with
  | error e =>
    rw [ofLine, hsplit, Run.ofExcept_error, Run.mapError_fail, Run.fail_bind]
    exact .unsplit hsplit
  | ok i =>
    cases hfind : Catalog.find i.mnemonic with
    | error cause =>
      rw [ofLine, hsplit, Run.ofExcept_ok, Run.mapError_ok, Run.ok_bind, hfind,
        Catalog.eq_unknownMnemonic_of_find hfind]
      refine .unknown hsplit fun d hd hname => ?_
      rw [Catalog.find_eq_ok_iff.mpr ⟨hd, hname⟩] at hfind
      cases hfind
    | ok d => exact recorded_of_find hsplit hfind

end Interpretation

/-- How the records of a line are shown, at which level and with which text. -/
inductive Record.Shown : Record → Level → Text → Prop
  | lineSplit (line : Text) (i : Instruction) :
    Shown (.lineSplit line i) .debug
      ("tokenized ".toList ++ line.quoted ++ " into ".toList ++ i.journalText)
  | operandTaken (piece : Text) (role : Role) :
    Shown (.operandTaken piece role) .trace
      ("parsing operand ".toList ++ piece.quoted ++ " as ".toList ++ role.name)
  | operandsRead (ops : Operands) :
    Shown (.operandsRead ops) .debug ("parsed operands ".toList ++ ops.journalText)
  | encoded (line hex : Text) : Shown (.encoded line hex) .debug (line.quoted ++ " => ".toList ++ hex)
  | rejected (line : Text) (failure : Failure) :
    Shown (.rejected line failure) .debug
      (line.quoted ++ " rejected at ".toList ++ failure.stage.name ++ " stage: ".toList ++
        failure.message)

/-- The records on the way: a line was split, an operand was taken, or operands were read. -/
theorem Recorded.kinds {line : Text} {records : List Record}
    {outcome : Except Failure Interpretation} (h : Recorded line records outcome) :
    ∀ r ∈ records, (∃ i, r = .lineSplit line i) ∨ (∃ piece role, r = .operandTaken piece role) ∨
      ∃ ops, r = .operandsRead ops := by
  have htaken (entries : List (Role × Text)) : ∀ r ∈ Operands.taken entries,
      (∃ i, r = .lineSplit line i) ∨ (∃ piece role, r = .operandTaken piece role) ∨
        ∃ ops, r = .operandsRead ops := by
    intro r hr
    obtain ⟨⟨role, piece⟩, -, rfl⟩ := List.mem_map.mp hr
    exact .inr (.inl ⟨piece, role, rfl⟩)
  cases h with
  | unsplit => simp
  | unknown | miscounted => simp
  | refused => exact List.forall_mem_cons.mpr ⟨by simp, htaken _⟩
  | unencoded | encoded =>
    exact List.forall_mem_append.mpr ⟨List.forall_mem_cons.mpr ⟨by simp, htaken _⟩, by simp⟩

/-- No line is rejected for a fault of the library, so a rejection is shown with its stage. -/
theorem shown_rejected {line : Text} {failure : Failure}
    (h : (interpret line).outcome = .error failure) :
    (Record.rejected line failure).Shown (Record.rejected line failure).level
      (Record.rejected line failure).text := by
  have hinternal : ¬ failure.isInternal = true := fun hi =>
    (failsOnly_interpret line).cause failure h (.internal hi)
  have hlevel : (Record.rejected line failure).level = .debug := if_neg hinternal
  have htext : (Record.rejected line failure).text = line.quoted ++ " rejected at ".toList ++
      failure.stage.name ++ " stage: ".toList ++ failure.message := if_neg hinternal
  rw [hlevel, htext]
  exact .rejected line failure

/-- The journal of a line: what was recorded on the way and how it ended. -/
theorem log_interpret (line : Text) :
    (interpret line).log = (Interpretation.ofLine line).log ++
      [Interpretation.verdict line (interpret line).outcome] := rfl

theorem shown_of_mem_log {line : Text} {r : Record} (h : r ∈ (interpret line).log) :
    r.Shown r.level r.text := by
  rw [log_interpret, List.mem_append, List.mem_singleton] at h
  rcases h with h | rfl
  · rcases (Interpretation.recorded_ofLine line).kinds r h with
      ⟨i, rfl⟩ | ⟨piece, role, rfl⟩ | ⟨ops, rfl⟩
    · exact .lineSplit line i
    · exact .operandTaken piece role
    · exact .operandsRead ops
  · cases houtcome : (interpret line).outcome with
    | ok i => exact .encoded line i.hex
    | error failure => exact shown_rejected houtcome

/-- The journal of a line holds what was done to it in order, and its last record says how the line
ended: with its word in hexadecimal, or with the stage that refused it. The operands are noted as
traces and everything else at the level `debug`, so nothing is noted as an error. A batch on at most
one worker notes its size and then, in order, what each of its lines leaves; several workers may mix
the records of their lines. -/
theorem interpret_journal_order :
    (∀ line : Text, ∃ records, Recorded line records (interpret line).outcome ∧
        (∀ i, (interpret line).outcome = .ok i →
          (interpret line).log = records ++ [.encoded line i.hex]) ∧
        (∀ failure, (interpret line).outcome = .error failure →
          (interpret line).log = records ++ [.rejected line failure]) ∧
        ∀ r ∈ (interpret line).log, r.Shown r.level r.text) ∧
      ∀ (workers : Nat) (lines : List Text), min workers lines.length ≤ 1 →
        (Batch.interpretAll workers lines).log =
          .batchStarted lines.length (min workers lines.length) ::
            lines.flatMap (fun line => (interpret line).log) ∧
        ∀ outcome, Batch.Possible workers lines outcome → outcome = Batch.interpretAll workers lines := by
  constructor
  · intro line
    have hrecorded := Interpretation.recorded_ofLine line
    refine ⟨_, hrecorded, ?_, ?_, fun r hr => shown_of_mem_log hr⟩
    · intro i hi
      rw [log_interpret, hi, Interpretation.verdict]
    · intro failure hfailure
      rw [log_interpret, hfailure, Interpretation.verdict]
  · intro workers lines hfew
    exact ⟨Batch.log_interpretAll workers lines, fun outcome hpossible => hpossible.eq_of_few hfew⟩

/-- An offset without a base is noted before it is refused; a symbol is refused only after all operands
were read. -/
theorem interpret_journal_order_refused :
    (Batch.interpretAll 1 ["lw $t0, 4".toList, "beq $t0, $0, x".toList]).log =
      .batchStarted 2 1 :: ((interpret "lw $t0, 4".toList).log ++
        (interpret "beq $t0, $0, x".toList).log) ∧
    (interpret "lw $t0, 4".toList).log =
      [.lineSplit "lw $t0, 4".toList ⟨"lw".toList, some "$t0, 4".toList⟩,
        .operandTaken "$t0".toList .rt, .operandTaken "4".toList .offsetBase,
        .rejected "lw $t0, 4".toList (.operand (.notAMemoryOperand "4".toList))] ∧
    (interpret "beq $t0, $0, x".toList).log.map (fun r => (r.level, String.ofList r.text)) =
      [(.debug, "tokenized \"beq $t0, $0, x\" into TokenizedInstr \x7b mnemonic: \"beq\", operands: Some(\"$t0, $0, x\") \x7d"),
        (.trace, "parsing operand \"$t0\" as rs"), (.trace, "parsing operand \"$0\" as rt"),
        (.trace, "parsing operand \"x\" as label"),
        (.debug, "parsed operands ParsedOperands \x7b rd: None, rs: Some(Reg(8)), rt: Some(Reg(0)), shamt: None, immediate: None, label: Some(\"x\") \x7d"),
        (.debug, "\"beq $t0, $0, x\" rejected at conversion stage: cannot resolve symbolic label \x27x\x27")] := by
  have hbatch := (interpret_journal_order.2 1 ["lw $t0, 4".toList, "beq $t0, $0, x".toList]
    (by decide)).1
  refine ⟨?_, by decide +kernel, by decide +kernel⟩
  rw [hbatch, List.flatMap_cons, List.flatMap_singleton]
  rfl

section Unbroken

theorem isDigit_of_mem_ofNatHex {n : Nat} {c : Char} (h : c ∈ Text.ofNatHex n) :
    Radix.hexadecimal.isDigit c = true := by
  have hdigit : ∀ d < 16, Radix.hexadecimal.isDigit (Nat.digitChar d) = true := by decide
  rw [Text.ofNatHex] at h
  induction n using Nat.strong_induction_on with
  | _ n ih =>
    rw [Nat.toDigits_eq_if (by decide)] at h
    split at h
    · next hsmall =>
      rw [List.mem_singleton.mp h]
      exact hdigit n hsmall
    · next hlarge =>
      rcases List.mem_append.mp h with h | h
      · exact ih (n / 16) (by omega) h
      · rw [List.mem_singleton.mp h]
        exact hdigit _ (by omega)

theorem unbroken_escape (c : Char) : '\n' ∉ Text.escape c := by
  unfold Text.escape
  split_ifs with hquote hback htab hreturn hfeed hzero hhidden
  · decide
  · decide
  · decide
  · decide
  · decide
  · decide
  · have hcode : '\n' ∉ Text.ofNatHex c.toNat := fun h => absurd (isDigit_of_mem_ofNatHex h) (by decide)
    exact List.not_mem_append (List.not_mem_append (by decide) hcode) (by decide)
  · intro h
    rw [List.mem_singleton] at h
    exact hfeed (by rw [← h]; rfl)

theorem unbroken_quoted (t : Text) : '\n' ∉ t.quoted := by
  simp [Text.quoted, unbroken_escape]

theorem unbroken_ofInt (n : Int) : '\n' ∉ Text.ofInt n := by
  have hdigits := (Report.plain_ofNat n.natAbs).unbroken
  unfold Text.ofInt
  split
  · simpa using hdigits
  · exact hdigits

theorem unbroken_ofSlot {α : Type} {render : α → Text} (h : ∀ a, '\n' ∉ render a) (slot : Option α) :
    '\n' ∉ Text.ofSlot render slot := by
  cases slot with
  | none =>
    have hnone : '\n' ∉ "None".toList := by decide
    exact hnone
  | some a => exact List.not_mem_append (List.not_mem_append (by decide) (h a)) (by decide)

theorem unbroken_instruction (i : Instruction) : '\n' ∉ i.journalText := by
  have hoperands := unbroken_ofSlot unbroken_quoted i.operands
  unfold Instruction.journalText
  simp only [List.mem_append, not_or]
  exact ⟨⟨⟨⟨by decide, unbroken_quoted _⟩, by decide⟩, hoperands⟩, by decide⟩

theorem unbroken_operands (ops : Operands) : '\n' ∉ ops.journalText := by
  have hnumber (n : Nat) : '\n' ∉ Text.ofNat n := (Report.plain_ofNat n).unbroken
  have hregister (r : Register) : '\n' ∉ r.journalText :=
    List.not_mem_append (List.not_mem_append (by decide) (hnumber _)) (by decide)
  have hslot := unbroken_ofSlot hregister
  unfold Operands.journalText
  simp only [List.mem_append, not_or]
  refine ⟨⟨⟨⟨⟨⟨⟨⟨⟨⟨⟨⟨by decide, hslot _⟩, by decide⟩, hslot _⟩, by decide⟩, hslot _⟩, by decide⟩, ?_⟩,
    by decide⟩, ?_⟩, by decide⟩, ?_⟩, by decide⟩
  · exact unbroken_ofSlot hnumber _
  · exact unbroken_ofSlot unbroken_ofInt _
  · exact unbroken_ofSlot unbroken_quoted _

/-- Whatever stands on a line, only the record of its rejection can take more than one line. -/
theorem unbroken_of_mem_log {line : Text} {r : Record} (h : r ∈ (interpret line).log)
    (hrejected : ∀ failure, r ≠ .rejected line failure) : '\n' ∉ r.text := by
  rw [log_interpret, List.mem_append, List.mem_singleton] at h
  rcases h with h | rfl
  · rcases (Interpretation.recorded_ofLine line).kinds r h with
      ⟨i, rfl⟩ | ⟨piece, role, rfl⟩ | ⟨ops, rfl⟩
    · exact List.not_mem_append (List.not_mem_append (List.not_mem_append (by decide)
        (unbroken_quoted line)) (by decide)) (unbroken_instruction i)
    · have hname : '\n' ∉ role.name := by cases role <;> decide
      exact List.not_mem_append (List.not_mem_append (List.not_mem_append (by decide)
        (unbroken_quoted piece)) (by decide)) hname
    · exact List.not_mem_append (by decide) (unbroken_operands ops)
  · cases houtcome : (interpret line).outcome with
    | ok i =>
      have hhex := Report.unbroken_hex (interpret_eq_ok_iff.mp houtcome)
      exact List.not_mem_append (List.not_mem_append (unbroken_quoted line) (by decide)) hhex
    | error failure =>
      rw [houtcome] at hrejected
      exact absurd rfl (hrejected failure)

end Unbroken

end MipsEncoding
