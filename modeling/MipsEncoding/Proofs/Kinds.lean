import Mathlib.Data.List.Nodup
import MipsEncoding.BitField
import MipsEncoding.Instruction
import MipsEncoding.Operands

/-! The kinds of instructions in the catalog. The kind of a definition follows from its format and
flags; it fixes which operands the template asks for, and within the catalog it is the same thing
as a list of mnemonics. The codes of a definition are binary and tell it from all others. -/
namespace MipsEncoding

/-- What an instruction word is made of, apart from the codes of the instruction. -/
inductive Kind
  | threeRegisters
  | shift
  | immediate
  | branch
  | jump
  deriving DecidableEq, Repr

/-- The kind of a definition, as the encoder sees it. -/
def Definition.kind (d : Definition) : Kind :=
  match d.format with
  | .register => if d.zeroesRs then .shift else .threeRegisters
  | .immediate => if d.branches then .branch else .immediate
  | .jump => .jump

/-- What the format and the flags of a definition of some kind are. -/
def Kind.Describes (d : Definition) : Kind → Prop
  | threeRegisters => d.format = .register ∧ d.zeroesRs = false
  | shift => d.format = .register ∧ d.zeroesRs = true
  | immediate => d.format = .immediate ∧ d.branches = false
  | branch => d.format = .immediate ∧ d.branches = true
  | jump => d.format = .jump

namespace Definition

variable {d : Definition}

theorem kind_eq_iff {k : Kind} : d.kind = k ↔ k.Describes d := by
  unfold kind
  cases k <;> simp only [Kind.Describes] <;> cases d.format <;> cases d.zeroesRs <;>
    cases d.branches <;> simp

theorem kind_of_register (h : d.format = .register) :
    d.kind = .threeRegisters ∨ d.kind = .shift := by
  unfold kind
  rw [h]
  cases d.zeroesRs <;> simp

end Definition

namespace Kind

def mnemonics : Kind → List Text
  | threeRegisters => ["add", "sub", "and", "or", "nor", "slt"].map String.toList
  | shift => ["sll", "srl", "sra"].map String.toList
  | immediate => ["addi", "slti", "lw", "sw"].map String.toList
  | branch => ["beq", "bne"].map String.toList
  | jump => ["j", "jal"].map String.toList

/-- The roles that the operands of a kind can have. An offset with its base takes the place of an
immediate value and a register. -/
def templates : Kind → List (List Role)
  | threeRegisters => [[.rd, .rs, .rt]]
  | shift => [[.rd, .rt, .shamt]]
  | immediate => [[.rt, .rs, .immediate], [.rt, .offsetBase]]
  | branch => [[.rs, .rt, .label]]
  | jump => [[.targetAddress]]

end Kind

def IsCode (t : Text) : Prop := t.length = 6 ∧ t.all Bits.isDigit = true

instance (t : Text) : Decidable (IsCode t) := inferInstanceAs (Decidable (_ ∧ _))

/-- What the encoder relies on in a definition: the template asks for exactly the operands that the
kind is made of, and the codes are there and have the right length. -/
structure Definition.WellFormed (d : Definition) : Prop where
  named : d.mnemonic ∈ d.kind.mnemonics
  template : ∃ roles ∈ d.kind.templates, Template.roles d.template = .ok roles
  opcode : IsCode d.opcode
  funct : ∀ {funct}, d.funct = some funct → IsCode funct
  functGiven : d.format = .register → ∃ funct, d.funct = some funct
  opcodeZero : d.format = .register → d.opcode = "000000".toList

namespace Catalog

theorem wellFormed {d : Definition} (hd : d ∈ definitions) : d.WellFormed := by
  have h : ∀ d ∈ definitions, d.mnemonic ∈ d.kind.mnemonics ∧
      (∃ roles ∈ d.kind.templates, Template.roles d.template = .ok roles) ∧ IsCode d.opcode ∧
      (∀ funct ∈ d.funct, IsCode funct) ∧ (d.format = .register → d.funct.isSome) ∧
      (d.format = .register → d.opcode = "000000".toList) := by decide +kernel
  obtain ⟨named, template, opcode, funct, functGiven, opcodeZero⟩ := h d hd
  exact ⟨named, template, opcode, fun hf => funct _ hf,
    fun hf => Option.isSome_iff_exists.mp (functGiven hf), opcodeZero⟩

/-- A mnemonic stands for one definition only. -/
theorem eq_of_mnemonic {d d' : Definition} (hd : d ∈ definitions) (hd' : d' ∈ definitions)
    (h : d.mnemonic = d'.mnemonic) : d = d' := by
  have hnodup : (definitions.map (·.mnemonic)).Nodup := by decide +kernel
  exact List.inj_on_of_nodup_map hnodup hd hd' h

theorem mnemonic_ne_nil {d : Definition} (hd : d ∈ definitions) : d.mnemonic ≠ [] := by
  intro h
  have hnamed := (wellFormed hd).named
  rw [h] at hnamed
  cases hk : d.kind <;> simp [hk, Kind.mnemonics] at hnamed

theorem find_eq_ok_iff {mnemonic : Text} {d : Definition} :
    find mnemonic = .ok d ↔ d ∈ definitions ∧ d.mnemonic = mnemonic := by
  unfold find
  constructor
  · intro h
    split at h
    · next d' hfind =>
      cases h
      exact ⟨List.mem_of_find?_eq_some hfind, by simpa using List.find?_some hfind⟩
    · cases h
  · rintro ⟨hd, rfl⟩
    split
    · next d' hfind =>
      have hmnemonic : d'.mnemonic = d.mnemonic := by simpa using List.find?_some hfind
      rw [eq_of_mnemonic (List.mem_of_find?_eq_some hfind) hd hmnemonic]
    · next hnone =>
      rw [List.find?_eq_none] at hnone
      exact absurd (hnone d hd) (by simp)

theorem eq_unknownMnemonic_of_find {mnemonic : Text} {cause : OperandError}
    (h : find mnemonic = .error cause) : cause = .unknownMnemonic mnemonic := by
  unfold find at h
  split at h
  · cases h
  · cases h
    rfl

theorem kind_eq_of_mem {d : Definition} (hd : d ∈ definitions) {k : Kind}
    (hk : d.mnemonic ∈ k.mnemonics) : d.kind = k := by
  have h : ∀ d ∈ definitions, ∀ k ∈ [Kind.threeRegisters, .shift, .immediate, .branch, .jump],
      d.mnemonic ∈ k.mnemonics → d.kind = k := by decide +kernel
  exact h d hd k (by cases k <;> simp) hk

/-- Two definitions have different opcodes, or both have function codes and these differ. -/
theorem eq_of_codes {d d' : Definition} (hd : d ∈ definitions) (hd' : d' ∈ definitions)
    (hopcode : d.opcode = d'.opcode)
    (hfunct : d.format = .register → d'.format = .register → d.funct = d'.funct) : d = d' := by
  have h : ∀ d ∈ definitions, ∀ d' ∈ definitions, d.opcode = d'.opcode →
      (d.format = .register → d'.format = .register → d.funct = d'.funct) →
      d.mnemonic = d'.mnemonic := by decide +kernel
  exact eq_of_mnemonic hd hd' (h d hd d' hd' hopcode hfunct)

end Catalog

end MipsEncoding
