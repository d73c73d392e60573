import MipsEncoding.Proofs.OperandErrors
import MipsEncoding.Proofs.Stages

/-! Faults. A failure is a fault if it lies in the catalog or in the encoder and not in the line. No
line leads to a fault: every role of the catalog is known, a template fills the slots that the
encoder asks for, and what is encoded has the length of a word. -/
namespace MipsEncoding

inductive Failure.IsFault : Failure → Prop
  | internal {failure : Failure} (h : failure.isInternal = true) : IsFault failure
  | unknownRole (name : Text) : IsFault (.operand (.unknownRole name))
  | missingRegister (field : Text) : IsFault (.encoding (.missingRegister field))
  | missingShiftAmount : IsFault (.encoding .missingShiftAmount)
  | missingFunct : IsFault (.encoding .missingFunct)
  | missingValue : IsFault (.encoding .missingValue)

namespace Operands

/-- A piece that its role refuses is a failure of the line. -/
theorem Blames.not_isFault {role : Role} {piece : Text} {cause : OperandError}
    (h : Blames role piece cause) : ¬ (Failure.operand cause).IsFault := by
  rintro (⟨⟨⟩⟩ | ⟨name⟩)
  exact h.ne.2 name rfl

theorem failsOnly_fill {ops : Operands} {assigned : List (Role × Text)}
    (ht : ∀ entry ∈ assigned, entry.2.Trimmed) :
    (fill ops assigned).FailsOnly fun cause => ¬ (Failure.operand cause).IsFault := by
  induction assigned generalizing ops with
  | nil => exact .of_ok ops
  | cons entry rest ih =>
    obtain ⟨hpiece, hrest⟩ := List.forall_mem_cons.mp ht
    apply Run.FailsOnly.bind (.of_note (by simp [Record.level]))
    intro _ _
    apply Run.FailsOnly.bind (.of_except fun cause h => (blames_of_assign hpiece h).not_isFault)
    intro filled _
    exact ih hrest

theorem failsOnly_read {template : Text} {roles : List Role}
    (hroles : Template.roles template = .ok roles) (operands : Option Text) :
    (read operands template).FailsOnly fun cause => ¬ (Failure.operand cause).IsFault := by
  rw [read_eq_found]
  split
  · exact .of_fail (by rintro ⟨⟨⟩⟩)
  · rw [hroles, Run.ofExcept_ok, Run.ok_bind]
    exact failsOnly_fill trimmed_of_mem_zip_found

end Operands

namespace Assembly

theorem Refusal.not_isFault {k : Kind} {cause : EncodingError} (h : Refusal k cause) :
    ¬ (Failure.encoding cause).IsFault := by
  intro hfault
  cases h <;> cases hfault <;> contradiction

theorem Refusal.format_ne {d : Definition} {cause : EncodingError} (h : Refusal d.kind cause) :
    d.format ≠ .register := by
  intro hformat
  rcases Definition.kind_of_register hformat with hk | hk
  · rw [hk] at h
    cases h
  · rw [hk] at h
    cases h

/-- Operands that a template yields are written in hexadecimal or refused, without a record. -/
theorem hexOfBinary_assemble_cases {d : Definition} (hd : d ∈ Catalog.definitions)
    {operands : Option Text} {ops : Operands}
    (hread : (Operands.read operands d.template).outcome = .ok ops) :
    (∃ hex, (assemble d ops >>= fun a => Word.hexOfBinary a.binary) = Run.ok hex) ∨
      ∃ cause, Refusal d.kind cause ∧
        (assemble d ops >>= fun a => Word.hexOfBinary a.binary) = Run.fail cause := by
  obtain ⟨f, hf, ha⟩ | ⟨cause, hcause, ha⟩ := assemble_cases hd (supplied_of_read hd hread)
  · obtain ⟨hlen, hdigits⟩ := hf.concat_digits hd
    refine .inl ⟨"0x".toList ++ Word.nibbles f.concat, ?_⟩
    rw [ha, Run.ok_bind, Word.hexOfBinary_of_digits hlen hdigits]
  · refine .inr ⟨cause, hcause, ?_⟩
    rw [ha, Run.fail_bind]

end Assembly

namespace Interpretation

theorem failsOnly_split (line : Text) :
    ((Run.ofExcept (Instruction.ofLine line)).mapError Failure.line).FailsOnly
      fun failure => ¬ failure.IsFault := by
  have hsplit : (Run.ofExcept (Instruction.ofLine line)).FailsOnly fun _ => True :=
    .of_except fun _ _ => trivial
  exact hsplit.mapError (by rintro cause - ⟨⟨⟩⟩)

theorem failsOnly_find (mnemonic : Text) :
    ((Run.ofExcept (Catalog.find mnemonic)).mapError Failure.operand).FailsOnly
      fun failure => ¬ failure.IsFault := by
  have hfind : (Run.ofExcept (Catalog.find mnemonic)).FailsOnly
      fun cause => cause = .unknownMnemonic mnemonic :=
    .of_except fun _ => Catalog.eq_unknownMnemonic_of_find
  exact hfind.mapError (by rintro cause rfl ⟨⟨⟩⟩)

theorem failsOnly_ofLine (line : Text) :
    (ofLine line).FailsOnly fun failure => ¬ failure.IsFault := by
  apply Run.FailsOnly.bind (failsOnly_split line)
  intro instruction _
  apply Run.FailsOnly.bind (.of_note (by simp [Record.level]))
  intro _ _
  apply Run.FailsOnly.bind (failsOnly_find instruction.mnemonic)
  intro d hfind
  obtain ⟨hd, -⟩ := Catalog.find_eq_ok_iff.mp (Run.outcome_mapError_eq_ok_iff.mp hfind)
  obtain ⟨roles, -, hroles⟩ := (Catalog.wellFormed hd).template
  refine Run.FailsOnly.bind ((Operands.failsOnly_read hroles _).mapError ?_) ?_
  · intro cause hcause
    exact hcause
  intro ops hread
  have hsupplied := Assembly.supplied_of_read hd (Run.outcome_mapError_eq_ok_iff.mp hread)
  apply Run.FailsOnly.bind (.of_note (by simp [Record.level]))
  intro _ _
  obtain ⟨f, hf, ha⟩ | ⟨cause, hcause, ha⟩ := Assembly.assemble_cases hd hsupplied
  · obtain ⟨hlen, hdigits⟩ := hf.concat_digits hd
    rw [ha, Run.mapError_ok, Run.ok_bind, Word.hexOfBinary_of_digits hlen hdigits, Run.mapError_ok,
      Run.ok_bind]
    exact .of_ok _
  · rw [ha, Run.mapError_fail, Run.fail_bind]
    exact .of_fail hcause.not_isFault

end Interpretation

theorem level_verdict_ne_error {line : Text} {outcome : Except Failure Interpretation}
    (h : ∀ failure, outcome = .error failure → ¬ failure.IsFault) :
    (Interpretation.verdict line outcome).level ≠ .error := by
  cases outcome with
  | ok i => simp [Interpretation.verdict, Record.level]
  | error failure =>
    have hinternal : failure.isInternal = false := by
      rw [← Bool.not_eq_true]
      exact fun hi => h failure rfl (.internal hi)
    simp [Interpretation.verdict, Record.level, hinternal]

theorem failsOnly_interpret (line : Text) :
    (interpret line).FailsOnly fun failure => ¬ failure.IsFault := by
  have hstages := Interpretation.failsOnly_ofLine line
  refine ⟨?_, hstages.cause⟩
  intro r hr
  rcases List.mem_append.mp hr with hr | hr
  · exact hstages.quiet r hr
  · rw [List.mem_singleton.mp hr]
    exact level_verdict_ne_error hstages.cause

/-- No line leads to a fault or to a record of an error, and every accepted line has a word. Once
the operands have been read, the register format cannot fail, and the other instructions fail only
for the causes of their kind. -/
theorem no_fault_reachable :
    (∀ line : Text, (∀ r ∈ (interpret line).log, r.level ≠ .error) ∧
      (∀ failure, (interpret line).outcome = .error failure → ¬ failure.IsFault) ∧
      ∀ i, (interpret line).outcome = .ok i → ∃ w, i.word? = some w) ∧
    ∀ d ∈ Catalog.definitions, ∀ operands ops,
      (Operands.read operands d.template).outcome = .ok ops →
        (d.format = .register → ∃ hex,
          (Assembly.assemble d ops >>= fun a => Word.hexOfBinary a.binary).outcome = .ok hex) ∧
        ∀ kind, d.mnemonic ∈ kind.mnemonics → ∀ cause,
          (Assembly.assemble d ops >>= fun a => Word.hexOfBinary a.binary).outcome = .error cause →
            Assembly.Refusal kind cause := by
  constructor
  · intro line
    obtain ⟨hquiet, hcause⟩ := failsOnly_interpret line
    refine ⟨hquiet, hcause, ?_⟩
    intro i hi
    obtain ⟨w, hw, -⟩ := (interpret_eq_ok_iff.mp hi).word
    exact ⟨w, hw⟩
  · intro d hd operands ops hread
    obtain ⟨hex, hrun⟩ | ⟨cause, hcause, hrun⟩ := Assembly.hexOfBinary_assemble_cases hd hread
    · rw [hrun]
      exact ⟨fun _ => ⟨hex, rfl⟩, by simp⟩
    · rw [hrun]
      constructor
      · intro hformat
        exact absurd hformat hcause.format_ne
      · intro kind hkind cause' h
        cases h
        rwa [← Catalog.kind_eq_of_mem hd hkind]

theorem no_fault_reachable_branch :
    ∃ d ∈ Catalog.definitions, ∃ ops,
      (Operands.read (some "$t0, $t1, loop".toList) d.template).outcome = .ok ops ∧
      ∃ cause, (Assembly.assemble d ops >>= fun a => Word.hexOfBinary a.binary).outcome =
        .error cause ∧ Assembly.Refusal .branch cause := by
  have hrun : ∃ d ∈ Catalog.definitions, d.mnemonic = "bne".toList ∧
      ((Operands.read (some "$t0, $t1, loop".toList) d.template).outcome.toOption.map fun ops =>
        (Assembly.assemble d ops >>= fun a => Word.hexOfBinary a.binary).outcome.toOption) =
        some none := by
    decide +kernel
  obtain ⟨d, hd, hmnemonic, hread⟩ := hrun
  obtain ⟨ops, hops, hnone⟩ := exists_ok_of_toOption_map hread
  have hkind : d.mnemonic ∈ Kind.branch.mnemonics := by simp [hmnemonic, Kind.mnemonics]
  have hcauses := (no_fault_reachable.2 d hd _ ops hops).2 .branch hkind
  refine ⟨d, hd, ops, hops, ?_⟩
  cases hout : (Assembly.assemble d ops >>= fun a => Word.hexOfBinary a.binary).outcome with
  | ok hex =>
    rw [hout] at hnone
    cases hnone
  | error cause => exact ⟨cause, rfl, hcauses cause hout⟩

end MipsEncoding
