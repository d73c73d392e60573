import Mathlib.Data.List.Forall2
import MipsEncoding.Proofs.OperandReading

/-! The grammar of operands. A template whose parts name roles accepts exactly the texts that are
made of padded cores, one for each role, with commas between them, and a text is made of them in one
way only. Each slot then holds what the last role that writes to it says, and a slot without such a
role is empty. -/
namespace MipsEncoding

/-- The slots of the operands. -/
inductive Slot
  | rd
  | rs
  | rt
  | shiftAmount
  | immediate
  | label
  deriving DecidableEq, Repr

abbrev Slot.Value : Slot → Type
  | rd | rs | rt => Register
  | shiftAmount => Nat
  | immediate => Int
  | label => Text

/-- The slots that a role writes to. -/
def Role.slots : Role → List Slot
  | rd => [.rd]
  | rs => [.rs]
  | rt => [.rt]
  | immediate => [.immediate]
  | shamt => [.shiftAmount]
  | label => [.label]
  | targetAddress => [.label]
  | offsetBase => [.immediate, .rs]

namespace Operands
open Text

def get (ops : Operands) : (slot : Slot) → Option slot.Value
  | .rd => ops.rd
  | .rs => ops.rs
  | .rt => ops.rt
  | .shiftAmount => ops.shiftAmount
  | .immediate => ops.immediate
  | .label => ops.label

/-- The texts that a role accepts. -/
def Accepts (role : Role) (core : Text) : Prop :=
  match role with
  | .rd | .rs | .rt => ∃ n, (core, n) ∈ Register.names
  | .immediate => ∃ radix value, Denotes radix core value ∧ -2 ^ 31 ≤ value ∧ value < 2 ^ 31
  | .shamt => ∃ amount, Denotes .decimal core amount ∧ 0 ≤ amount ∧ amount ≤ 31
  | .label | .targetAddress => IsTarget core
  | .offsetBase =>
    ∃ offset base, SpellsMemory core offset base ∧ -2 ^ 31 ≤ offset ∧ offset < 2 ^ 31

/-- The value that a core has for a slot in a given role. -/
inductive Gives : Role → Text → (slot : Slot) → slot.Value → Prop
  | rd {core : Text} {r : Register} (named : (core, r.number) ∈ Register.names) :
      Gives .rd core .rd r
  | rs {core : Text} {r : Register} (named : (core, r.number) ∈ Register.names) :
      Gives .rs core .rs r
  | rt {core : Text} {r : Register} (named : (core, r.number) ∈ Register.names) :
      Gives .rt core .rt r
  | immediate {radix : Radix} {core : Text} {value : Int} (denotes : Denotes radix core value) :
      Gives .immediate core .immediate value
  | shamt {core : Text} {amount : Nat} (denotes : Denotes .decimal core amount) :
      Gives .shamt core .shiftAmount amount
  | label (core : Text) : Gives .label core .label core
  | targetAddress (core : Text) : Gives .targetAddress core .label core
  | offset {core : Text} {value : Int} {base : Register} (spells : SpellsMemory core value base)
      (fits : fitsSignedWord value = true) : Gives .offsetBase core .immediate value
  | base {core : Text} {value : Int} {base : Register} (spells : SpellsMemory core value base)
      (fits : fitsSignedWord value = true) : Gives .offsetBase core .rs base

/-- A text is made of padded cores: one for each role that accepts it, with commas between them. -/
structure Decomposes (roles : List Role) (t : Text) (parts : List Padded) : Prop where
  joined : [','].intercalate (parts.map Padded.text) = t
  accepted : List.Forall₂ Accepts roles (parts.map Padded.core)

/-- The slots hold what the roles say of their cores: a slot is empty exactly if no role writes to
it, and otherwise it has the value of the last role that does. -/
def Collects (assigned : List (Role × Text)) (ops : Operands) : Prop :=
  ∀ slot : Slot, (ops.get slot = none ↔ ∀ entry ∈ assigned, slot ∉ entry.1.slots) ∧
    ∀ before role core after, assigned = before ++ (role, core) :: after → slot ∈ role.slots →
      (∀ entry ∈ after, slot ∉ entry.1.slots) →
      ∀ value, ops.get slot = some value ↔ Gives role core slot value

theorem accepts_iff {role : Role} {core : Text} (ops : Operands) :
    Accepts role core ↔ ∃ ops', Fills role core ops ops' := by
  cases role with
  | rd | rs | rt =>
    constructor
    · intro h
      obtain ⟨n, named⟩ := h
      exact ⟨_, ⟨n⟩, named, rfl⟩
    · intro h
      obtain ⟨_, r, named, _⟩ := h
      exact ⟨r.number, named⟩
  | immediate =>
    constructor
    · intro h
      obtain ⟨radix, value, denotes, range⟩ := h
      exact ⟨_, radix, value, denotes, fitsSignedWord_iff.mpr range, rfl⟩
    · intro h
      obtain ⟨_, radix, value, denotes, fits, _⟩ := h
      exact ⟨radix, value, denotes, fitsSignedWord_iff.mp fits⟩
  | shamt =>
    constructor
    · intro h
      obtain ⟨amount, denotes, low, high⟩ := h
      lift amount to Nat using low
      exact ⟨_, amount, denotes, by omega, rfl⟩
    · intro h
      obtain ⟨_, amount, denotes, small, _⟩ := h
      exact ⟨amount, denotes, by omega, by omega⟩
  | label | targetAddress =>
    constructor
    · intro target
      exact ⟨_, target, rfl⟩
    · intro h
      obtain ⟨_, target, _⟩ := h
      exact target
  | offsetBase =>
    constructor
    · intro h
      obtain ⟨offset, base, spells, range⟩ := h
      exact ⟨_, offset, base, spells, fitsSignedWord_iff.mpr range, rfl⟩
    · intro h
      obtain ⟨_, offset, base, spells, fits, _⟩ := h
      exact ⟨offset, base, spells, fitsSignedWord_iff.mp fits⟩

theorem Accepts.shape {role : Role} {core : Text} (h : Accepts role core) :
    Trimmed core ∧ Closed core ∧ core ≠ [] := by
  obtain ⟨ops', hfills⟩ := (accepts_iff {}).mp h
  exact hfills.shape

theorem shape_of_accepts {roles : List Role} {cores : List Text}
    (h : List.Forall₂ Accepts roles cores) :
    ∀ core ∈ cores, Trimmed core ∧ Closed core ∧ core ≠ [] := by
  induction h with
  | nil => simp
  | cons haccepts _ ih => exact List.forall_mem_cons.mpr ⟨haccepts.shape, ih⟩

theorem exists_fillsAll_iff {roles : List Role} {cores : List Text}
    (hlen : cores.length = roles.length) (ops : Operands) :
    (∃ ops', FillsAll ops (roles.zip cores) ops') ↔ List.Forall₂ Accepts roles cores := by
  induction roles generalizing cores ops with
  | nil =>
    obtain rfl : cores = [] := List.length_eq_zero_iff.mp hlen
    simp [FillsAll]
  | cons role roles ih =>
    cases cores with
    | nil => cases hlen
    | cons core cores =>
      have hlen' : cores.length = roles.length := by simpa using hlen
      rw [List.forall₂_cons, accepts_iff ops]
      constructor
      · intro h
        obtain ⟨ops', mid, hmid, hrest⟩ := h
        exact ⟨⟨mid, hmid⟩, (ih hlen' mid).mp ⟨ops', hrest⟩⟩
      · intro h
        obtain ⟨⟨mid, hmid⟩, hrest⟩ := h
        obtain ⟨ops', hops'⟩ := (ih hlen' mid).mpr hrest
        exact ⟨ops', mid, hmid, hops'⟩

theorem eq_of_named {name : Text} {r r' : Register} (h : (name, r.number) ∈ Register.names)
    (h' : (name, r'.number) ∈ Register.names) : r = r' := by
  rw [← Register.ofName?_eq_some_iff] at h h'
  exact Option.some.inj (h.symm.trans h')

theorem SpellsMemory.unique {core : Text} {v v' : Int} {base base' : Register}
    (h : SpellsMemory core v base) (hfits : fitsSignedWord v = true)
    (h' : SpellsMemory core v' base') (hfits' : fitsSignedWord v' = true) :
    v = v' ∧ base = base' := by
  have hread := (readMemoryOperand_eq_ok_iff h.trimmed).mpr ⟨h, hfits⟩
  have hread' := (readMemoryOperand_eq_ok_iff h.trimmed).mpr ⟨h', hfits'⟩
  exact Prod.mk.inj (Except.ok.inj (hread.symm.trans hread'))

/-- A core has at most one value for a slot. -/
theorem Gives.unique {role : Role} {core : Text} {slot : Slot} {value value' : slot.Value}
    (h : Gives role core slot value) (h' : Gives role core slot value') : value = value' := by
  cases h with
  | rd named => cases h' with | rd named' => exact eq_of_named named named'
  | rs named => cases h' with | rs named' => exact eq_of_named named named'
  | rt named => cases h' with | rt named' => exact eq_of_named named named'
  | immediate denotes => cases h' with | immediate denotes' => exact (denotes.unique denotes').2
  | shamt denotes =>
    cases h' with
    | shamt denotes' => exact Int.ofNat.inj (denotes.unique denotes').2
  | label => cases h' with | label => rfl
  | targetAddress => cases h' with | targetAddress => rfl
  | offset spells fits =>
    cases h' with
    | offset spells' fits' => exact (spells.unique fits spells' fits').1
  | base spells fits =>
    cases h' with
    | base spells' fits' => exact (spells.unique fits spells' fits').2

namespace Fills

variable {role : Role} {core : Text} {ops ops' : Operands} {slot : Slot}

theorem get_of_mem (h : Fills role core ops ops') (hslot : slot ∈ role.slots) :
    ∃ value, Gives role core slot value ∧ ops'.get slot = some value := by
  cases role with
  | rd =>
    obtain ⟨r, named, rfl⟩ := h
    obtain rfl : slot = .rd := by simpa [Role.slots] using hslot
    exact ⟨r, .rd named, rfl⟩
  | rs =>
    obtain ⟨r, named, rfl⟩ := h
    obtain rfl : slot = .rs := by simpa [Role.slots] using hslot
    exact ⟨r, .rs named, rfl⟩
  | rt =>
    obtain ⟨r, named, rfl⟩ := h
    obtain rfl : slot = .rt := by simpa [Role.slots] using hslot
    exact ⟨r, .rt named, rfl⟩
  | immediate =>
    obtain ⟨radix, value, denotes, -, rfl⟩ := h
    obtain rfl : slot = .immediate := by simpa [Role.slots] using hslot
    exact ⟨value, .immediate denotes, rfl⟩
  | shamt =>
    obtain ⟨amount, denotes, -, rfl⟩ := h
    obtain rfl : slot = .shiftAmount := by simpa [Role.slots] using hslot
    exact ⟨amount, .shamt denotes, rfl⟩
  | label =>
    obtain ⟨-, rfl⟩ := h
    obtain rfl : slot = .label := by simpa [Role.slots] using hslot
    exact ⟨core, .label core, rfl⟩
  | targetAddress =>
    obtain ⟨-, rfl⟩ := h
    obtain rfl : slot = .label := by simpa [Role.slots] using hslot
    exact ⟨core, .targetAddress core, rfl⟩
  | offsetBase =>
    obtain ⟨offset, base, spells, fits, rfl⟩ := h
    have hslots : slot = .immediate ∨ slot = .rs := by simpa [Role.slots] using hslot
    rcases hslots with rfl | rfl
    · exact ⟨offset, .offset spells fits, rfl⟩
    · exact ⟨base, .base spells fits, rfl⟩

/-- A role leaves the slots that it does not write to as they are. -/
theorem get_of_not_mem (h : Fills role core ops ops') (hslot : slot ∉ role.slots) :
    ops'.get slot = ops.get slot := by
  cases role with
  | rd | rs | rt =>
    obtain ⟨r, -, rfl⟩ := h
    cases slot <;> simp_all [Role.slots, get]
  | immediate =>
    obtain ⟨radix, value, -, -, rfl⟩ := h
    cases slot <;> simp_all [Role.slots, get]
  | shamt =>
    obtain ⟨amount, -, -, rfl⟩ := h
    cases slot <;> simp_all [Role.slots, get]
  | label | targetAddress =>
    obtain ⟨-, rfl⟩ := h
    cases slot <;> simp_all [Role.slots, get]
  | offsetBase =>
    obtain ⟨offset, base, -, -, rfl⟩ := h
    cases slot <;> simp_all [Role.slots, get]

end Fills

namespace FillsAll

variable {assigned : List (Role × Text)} {ops ops' : Operands} {slot : Slot}

theorem get_of_forall_not_mem (h : FillsAll ops assigned ops')
    (hslot : ∀ entry ∈ assigned, slot ∉ entry.1.slots) : ops'.get slot = ops.get slot := by
  induction assigned generalizing ops with
  | nil => rw [h]
  | cons entry rest ih =>
    obtain ⟨role, core⟩ := entry
    obtain ⟨mid, hmid, hrest⟩ := h
    obtain ⟨hfirst, hlater⟩ := List.forall_mem_cons.mp hslot
    rw [ih hrest hlater, hmid.get_of_not_mem hfirst]

/-- What the last role that writes to a slot puts there stays. -/
theorem get_of_last {before after : List (Role × Text)} {role : Role} {core : Text}
    (h : FillsAll ops (before ++ (role, core) :: after) ops') (hslot : slot ∈ role.slots)
    (hlast : ∀ entry ∈ after, slot ∉ entry.1.slots) :
    ∃ value, Gives role core slot value ∧ ops'.get slot = some value := by
  induction before generalizing ops with
  | nil =>
    obtain ⟨mid, hmid, hrest⟩ := h
    obtain ⟨value, hgives, hvalue⟩ := hmid.get_of_mem hslot
    exact ⟨value, hgives, by rw [hrest.get_of_forall_not_mem hlast, hvalue]⟩
  | cons entry rest ih =>
    obtain ⟨mid, -, hrest⟩ := h
    exact ih hrest

/-- A slot that some role writes to does not stay empty. -/
theorem get_ne_none (h : FillsAll ops assigned ops')
    (hslot : ∃ entry ∈ assigned, slot ∈ entry.1.slots) : ops'.get slot ≠ none := by
  induction assigned generalizing ops with
  | nil =>
    obtain ⟨entry, hentry, -⟩ := hslot
    cases hentry
  | cons entry rest ih =>
    obtain ⟨mid, hmid, hrest⟩ := h
    by_cases hlater : ∃ entry ∈ rest, slot ∈ entry.1.slots
    · exact ih hrest hlater
    · simp only [not_exists, not_and] at hlater
      have hfirst : slot ∈ entry.1.slots := by
        obtain ⟨writer, hmem, hwrites⟩ := hslot
        rcases List.mem_cons.mp hmem with rfl | hmem
        · exact hwrites
        · exact absurd hwrites (hlater writer hmem)
      obtain ⟨value, -, hvalue⟩ := hmid.get_of_mem hfirst
      rw [hrest.get_of_forall_not_mem hlater, hvalue]
      exact Option.some_ne_none value

theorem collects (h : FillsAll {} assigned ops) : Collects assigned ops := by
  intro slot
  refine ⟨⟨?_, ?_⟩, ?_⟩
  · intro hnone entry hentry hwrites
    exact h.get_ne_none ⟨entry, hentry, hwrites⟩ hnone
  · intro hslot
    rw [h.get_of_forall_not_mem hslot]
    cases slot <;> rfl
  · intro before role core after hassigned hslot hlast value
    subst hassigned
    obtain ⟨held, hgives, hheld⟩ := h.get_of_last hslot hlast
    rw [hheld, Option.some.injEq]
    constructor
    · intro heq
      exact heq ▸ hgives
    · intro hvalue
      exact hgives.unique hvalue

end FillsAll

theorem roles_of_names {template : Text} {roles : List Role}
    (h : (template.splitOn ',').map trim = roles.map Role.name) :
    Template.roles template = .ok roles := by
  rw [Template.roles, mapM_eq_ok_iff]
  calc (template.splitOn ',').map (fun part => Role.ofName (trim part))
      = ((template.splitOn ',').map trim).map Role.ofName := by rw [List.map_map]; rfl
    _ = (roles.map Role.name).map Role.ofName := by rw [h]
    _ = roles.map .ok := by simp [Function.comp_def, Role.ofName_name]

namespace Decomposes

variable {roles : List Role} {t : Text} {parts : List Padded}

theorem map_text (h : Decomposes roles t parts) (hne : roles ≠ []) :
    parts.map Padded.text = cut 0 t := by
  have hshape := shape_of_accepts h.accepted
  have hclosed : ∀ text ∈ parts.map Padded.text, Closed text := by
    intro text htext
    obtain ⟨part, hpart, rfl⟩ := List.mem_map.mp htext
    have hcore := (hshape part.core (List.mem_map_of_mem hpart)).2.1
    exact ((closed_of_blank part.leftBlank).append hcore).append (closed_of_blank part.rightBlank)
  have hparts : parts.map Padded.text ≠ [] := by
    intro hnil
    have hlen := h.accepted.length_eq
    rw [List.map_eq_nil_iff.mp hnil] at hlen
    exact hne (List.length_eq_zero_iff.mp hlen)
  exact (cut_eq_iff.mpr ⟨.of_closed hparts hclosed, h.joined⟩).symm

/-- A text is made of the pieces of its cut, with the blanks that stand around them. -/
theorem eq_map_ofText (h : Decomposes roles t parts) (hne : roles ≠ []) :
    parts = (cut 0 t).map Padded.ofText := by
  have hshape := shape_of_accepts h.accepted
  have hparts : parts.map (fun part => Padded.ofText part.text) = parts.map id := by
    apply List.map_congr_left
    intro part hpart
    obtain ⟨htrimmed, -, hcore⟩ := hshape part.core (List.mem_map_of_mem hpart)
    exact Padded.ofText_text htrimmed hcore
  rw [← h.map_text hne, List.map_map]
  exact (List.map_id parts).symm.trans hparts.symm

theorem map_core (h : Decomposes roles t parts) (hne : roles ≠ []) :
    parts.map Padded.core = pieces t := by
  rw [h.eq_map_ofText hne, List.map_map]
  rfl

end Decomposes

theorem decomposes_of_accepts {roles : List Role} {t : Text}
    (h : List.Forall₂ Accepts roles (pieces t)) :
    Decomposes roles t ((cut 0 t).map Padded.ofText) where
  joined := by
    have htexts : ((cut 0 t).map Padded.ofText).map Padded.text = (cut 0 t).map id := by
      rw [List.map_map]
      exact List.map_congr_left fun piece _ => Padded.text_ofText piece
    rw [htexts, List.map_id, intercalate_cut]
  accepted := by
    rw [List.map_map]
    exact h

/-- Operands are read from exactly the texts of the template's grammar. The way in which a text is
made up is unique, and the slots hold what its cores say. -/
theorem read_iff_decomposes {template : Text} {roles : List Role}
    (hroles : (template.splitOn ',').map trim = roles.map Role.name) (t : Text) :
    ((∃ ops, (read (some t) template).outcome = .ok ops) ↔ ∃ parts, Decomposes roles t parts) ∧
      (∀ parts parts', Decomposes roles t parts → Decomposes roles t parts' → parts = parts') ∧
      ∀ ops parts, (read (some t) template).outcome = .ok ops → Decomposes roles t parts →
        Collects (roles.zip (parts.map Padded.core)) ops := by
  have hne : roles ≠ [] := by
    rintro rfl
    exact List.splitOn_ne_nil ',' template (List.map_eq_nil_iff.mp hroles)
  have hread : ∀ ops, (read (some t) template).outcome = .ok ops ↔
      (pieces t).length = roles.length ∧ FillsAll {} (roles.zip (pieces t)) ops := by
    intro ops
    rw [read_eq_ok_iff (roles_of_names hroles)]
    simp only [Option.some.injEq, exists_eq_left']
  refine ⟨⟨?_, ?_⟩, ?_, ?_⟩
  · intro h
    obtain ⟨ops, hops⟩ := h
    obtain ⟨hlen, hfills⟩ := (hread ops).mp hops
    exact ⟨_, decomposes_of_accepts ((exists_fillsAll_iff hlen {}).mp ⟨ops, hfills⟩)⟩
  · intro h
    obtain ⟨parts, hparts⟩ := h
    have haccepted := hparts.accepted
    rw [hparts.map_core hne] at haccepted
    have hlen := haccepted.length_eq.symm
    obtain ⟨ops, hfills⟩ := (exists_fillsAll_iff hlen {}).mpr haccepted
    exact ⟨ops, (hread ops).mpr ⟨hlen, hfills⟩⟩
  · intro parts parts' hparts hparts'
    rw [hparts.eq_map_ofText hne, hparts'.eq_map_ofText hne]
  · intro ops parts hops hparts
    rw [hparts.map_core hne]
    exact ((hread ops).mp hops).2.collects

/-- The base register of the offset takes the place of the register before it. -/
theorem read_iff_decomposes_offset :
    ∃ ops parts, (read (some "$t0 ,-0x10( $sp )".toList) " rs,offset(rs)".toList).outcome = .ok ops ∧
      Decomposes [.rs, .offsetBase] "$t0 ,-0x10( $sp )".toList parts ∧
      Collects ([Role.rs, .offsetBase].zip (parts.map Padded.core)) ops ∧
      ops.get .rs = some ⟨29⟩ ∧ ops.get .rt = none := by
  have hrun : ((read (some "$t0 ,-0x10( $sp )".toList) " rs,offset(rs)".toList).outcome.toOption.map
      fun ops => (ops.get .rs, ops.get .rt)) = some (some ⟨29⟩, none) := by
    decide +kernel
  obtain ⟨ops, hops, hview⟩ := exists_ok_of_toOption_map hrun
  obtain ⟨hrs, hrt⟩ := Prod.mk.inj hview
  have hroles : (" rs,offset(rs)".toList.splitOn ',').map trim =
      [Role.rs, .offsetBase].map Role.name := by
    decide +kernel
  obtain ⟨hiff, -, hslots⟩ := read_iff_decomposes hroles "$t0 ,-0x10( $sp )".toList
  obtain ⟨parts, hparts⟩ := hiff.mp ⟨ops, hops⟩
  exact ⟨ops, parts, hops, hparts, hslots ops parts hops hparts, hrs, hrt⟩

end Operands

end MipsEncoding
