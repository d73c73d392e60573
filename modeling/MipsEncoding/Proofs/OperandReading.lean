import MipsEncoding.Operands.Reading
import MipsEncoding.Proofs.Lexing
import MipsEncoding.Proofs.OperandPieces

/-! What a piece of text says in its role. `Fills` gives for every role the texts that it accepts and
the slots that they write; reading operands follows it from left to right. -/
namespace MipsEncoding.Operands
open Text

/-- A text that can be a branch or jump target. -/
def IsTarget (t : Text) : Prop := t ≠ [] ∧ ∀ c ∈ t, Neutral c ∧ isBlank c = false

/-- A memory operand: an offset and the name of a base register in parentheses. Spacers may stand
between the four parts. -/
inductive SpellsMemory : Text → Int → Register → Prop
  | intro {radix : Radix} {offset name s₁ s₂ s₃ : Text} {value : Int} {base : Register}
      (denotes : Denotes radix offset value) (named : (name, base.number) ∈ Register.names)
      (spaced₁ : Spaced s₁) (spaced₂ : Spaced s₂) (spaced₃ : Spaced s₃) :
      SpellsMemory (offset ++ s₁ ++ ('(' :: (s₂ ++ name ++ s₃) ++ [')'])) value base

/-- What a piece of text does to the slots in a given role. -/
def Fills (role : Role) (piece : Text) (ops ops' : Operands) : Prop :=
  match role with
  | .rd => ∃ r : Register, (piece, r.number) ∈ Register.names ∧ ops' = { ops with rd := some r }
  | .rs => ∃ r : Register, (piece, r.number) ∈ Register.names ∧ ops' = { ops with rs := some r }
  | .rt => ∃ r : Register, (piece, r.number) ∈ Register.names ∧ ops' = { ops with rt := some r }
  | .immediate => ∃ radix value, Denotes radix piece value ∧ fitsSignedWord value = true ∧
      ops' = { ops with immediate := some value }
  | .shamt => ∃ amount : Nat, Denotes .decimal piece amount ∧ amount < 32 ∧
      ops' = { ops with shiftAmount := some amount }
  | .label => IsTarget piece ∧ ops' = { ops with label := some piece }
  | .targetAddress => IsTarget piece ∧ ops' = { ops with label := some piece }
  | .offsetBase => ∃ offset base, SpellsMemory piece offset base ∧ fitsSignedWord offset = true ∧
      ops' = { ops with immediate := some offset, rs := some base }

/-- What pieces do to the slots, one after the other. -/
def FillsAll (ops : Operands) : List (Role × Text) → Operands → Prop
  | [], ops' => ops' = ops
  | (role, piece) :: rest, ops' => ∃ mid, Fills role piece ops mid ∧ FillsAll mid rest ops'

theorem isTarget_of_named {name : Text} {n : Fin 32} (h : (name, n) ∈ Register.names) :
    IsTarget name := by
  have hnames : ∀ entry ∈ Register.names, entry.1 ≠ [] ∧
      entry.1.all (fun c => Neutral c ∧ isBlank c = false) = true := by decide +kernel
  obtain ⟨hne, hall⟩ := hnames (name, n) h
  refine ⟨hne, ?_⟩
  intro c hc
  simpa using List.all_eq_true.mp hall c hc

theorem isTarget_of_denotes {radix : Radix} {t : Text} {v : Int} (h : Denotes radix t v) :
    IsTarget t := by
  refine ⟨h.ne_nil, ?_⟩
  intro c hc
  have hdelimiter := h.not_isDelimiter hc
  simp only [isDelimiter, Bool.or_eq_false_iff, beq_eq_false_iff_ne] at hdelimiter
  exact ⟨⟨by tauto, by tauto, by tauto⟩, h.solid c hc⟩

theorem IsTarget.trimmed {t : Text} (h : IsTarget t) : Trimmed t :=
  Solid.trimmed fun c hc => (h.2 c hc).2

theorem IsTarget.closed {t : Text} (h : IsTarget t) : Closed t :=
  closed_of_neutral fun c hc => (h.2 c hc).1

namespace SpellsMemory

variable {piece : Text} {value : Int} {base : Register}

theorem closed (h : SpellsMemory piece value base) : Closed piece := by
  obtain ⟨denotes, named, spaced₁, spaced₂, spaced₃⟩ := h
  rename_i radix offset name s₁ s₂ s₃
  have hinner : ∀ c ∈ s₂ ++ name ++ s₃, Neutral c := by
    intro c hc
    simp only [List.mem_append] at hc
    rcases hc with (hc | hc) | hc
    · exact neutral_of_isBlank (spaced₂.blank c hc)
    · exact ((isTarget_of_named named).2 c hc).1
    · exact neutral_of_isBlank (spaced₃.blank c hc)
  have hoffset := (isTarget_of_denotes denotes).closed
  exact (hoffset.append (closed_of_blank spaced₁.blank)).append (closed_parens hinner)

theorem trimmed (h : SpellsMemory piece value base) : Trimmed piece := by
  obtain ⟨denotes, named, spaced₁, spaced₂, spaced₃⟩ := h
  rename_i radix offset name s₁ s₂ s₃
  have hclose : Trimmed [')'] := Solid.trimmed (by simp [Solid]; decide)
  have hmemory := denotes.solid.trimmed.append_append hclose denotes.ne_nil (by simp)
    (s₁ ++ '(' :: (s₂ ++ name ++ s₃))
  simpa using hmemory

end SpellsMemory

/-- What fills a role neither starts nor ends with a blank and is not cut. -/
theorem Fills.shape {role : Role} {piece : Text} {ops ops' : Operands}
    (h : Fills role piece ops ops') : Trimmed piece ∧ Closed piece ∧ piece ≠ [] := by
  have htarget : IsTarget piece → Trimmed piece ∧ Closed piece ∧ piece ≠ [] :=
    fun ht => ⟨ht.trimmed, ht.closed, ht.1⟩
  cases role with
  | rd | rs | rt =>
    obtain ⟨r, hname, -⟩ := h
    exact htarget (isTarget_of_named hname)
  | immediate =>
    obtain ⟨radix, value, denotes, -⟩ := h
    exact htarget (isTarget_of_denotes denotes)
  | shamt =>
    obtain ⟨amount, denotes, -⟩ := h
    exact htarget (isTarget_of_denotes denotes)
  | label | targetAddress => exact htarget h.1
  | offsetBase =>
    obtain ⟨offset, base, spells, -⟩ := h
    refine ⟨spells.trimmed, spells.closed, ?_⟩
    obtain ⟨denotes, -⟩ := spells
    simp

theorem readRegister_eq_ok_iff {piece : Text} (ht : Trimmed piece) {r : Register} :
    readRegister piece = .ok r ↔ (piece, r.number) ∈ Register.names := by
  have htoken : readRegister piece = .ok r ↔ Token.ofText piece = .ok [.register r] := by
    unfold readRegister
    split <;> simp_all
  rw [htoken, Token.ofText_eq_ok_singleton_iff ht]
  constructor
  · intro h
    exact h.register_mem rfl
  · intro h
    exact Lexeme.isCut_register h (by simp)

theorem read_number_iff {piece : Text} (ht : Trimmed piece) {radix : Radix} {v : Int} :
    Literal.read piece = .ok (.number radix v) ↔
      Denotes radix piece v ∧ fitsSignedWord v = true := by
  rw [Literal.read_eq_number_iff, Token.ofText_eq_ok_singleton_iff ht]
  constructor
  · intro h
    exact h.number_denotes rfl
  · rintro ⟨hd, hfits⟩
    exact Lexeme.isCut_number hd hfits (by simp)

theorem readImmediate_eq_ok_iff {piece : Text} (ht : Trimmed piece) {v : Int} :
    readImmediate piece = .ok v ↔ ∃ radix, Denotes radix piece v ∧ fitsSignedWord v = true := by
  simp only [← read_number_iff ht]
  unfold readImmediate
  cases Literal.read piece with
  | error e => simp [Except.toOption]
  | ok literal => cases literal <;> simp [Except.toOption, Literal.value?]

theorem readShiftAmount_eq_ok_iff {piece : Text} (ht : Trimmed piece) {amount : Nat} :
    readShiftAmount piece = .ok amount ↔ Denotes .decimal piece amount ∧ amount < 32 := by
  have hliteral : readShiftAmount piece = .ok amount ↔
      Literal.read piece = .ok (.number .decimal amount) ∧ amount < 32 := by
    unfold readShiftAmount
    split
    · next value hvalue =>
      split
      · simp only [hvalue, Except.ok.injEq, Literal.number.injEq, true_and]
        omega
      · simp only [hvalue, Except.ok.injEq, Literal.number.injEq, true_and, reduceCtorEq, false_iff]
        omega
    · simp_all
    · simp_all
  have hfits : amount < 32 → fitsSignedWord amount = true := by
    intro h
    rw [fitsSignedWord_iff]
    omega
  rw [hliteral, read_number_iff ht]
  constructor
  · rintro ⟨⟨hd, -⟩, hsmall⟩
    exact ⟨hd, hsmall⟩
  · rintro ⟨hd, hsmall⟩
    exact ⟨⟨hd, hfits hsmall⟩, hsmall⟩

theorem readTarget_eq_ok_iff {piece t : Text} :
    readTarget piece = .ok t ↔ t = piece ∧ IsTarget piece := by
  have hbreak : ∀ c, isTargetBreak c = false ↔ Neutral c ∧ isBlank c = false := by
    intro c
    simp only [isTargetBreak, Neutral, Bool.or_eq_false_iff, beq_eq_false_iff_ne, ne_eq]
    tauto
  unfold readTarget IsTarget
  simp only [← hbreak]
  split
  · next h =>
    simp only [Bool.or_eq_true, List.isEmpty_iff, List.any_eq_true] at h
    simp only [reduceCtorEq, false_iff]
    rintro ⟨-, hne, hall⟩
    rcases h with rfl | ⟨c, hc, hbad⟩
    · exact hne rfl
    · simp [hall c hc] at hbad
  · next h =>
    simp only [Bool.or_eq_true, List.isEmpty_iff, List.any_eq_true, not_or, not_exists, not_and,
      Bool.not_eq_true] at h
    simp only [Except.ok.injEq]
    constructor
    · rintro rfl
      exact ⟨rfl, h⟩
    · rintro ⟨rfl, -⟩
      rfl

theorem spellsMemory_of_spells {piece : Text} (ht : Trimmed piece) {l₁ l₂ l₃ l₄ : Lexeme}
    (h : Lexeme.Spells [l₁, l₂, l₃, l₄] piece) {radix : Radix} {v : Int} {base : Register}
    (h₁ : l₁.token = .ok (.number radix v)) (h₂ : l₂.token = .ok .leftParen)
    (h₃ : l₃.token = .ok (.register base)) (h₄ : l₄.token = .ok .rightParen) :
    SpellsMemory piece v base ∧ fitsSignedWord v = true := by
  obtain ⟨w₁, rest₁, spaced₁, cut₁, more₁, rfl⟩ := h.exists_of_cons
  obtain ⟨w₂, rest₂, spaced₂, cut₂, more₂, rfl⟩ := more₁.exists_of_cons
  obtain ⟨w₃, rest₃, spaced₃, cut₃, more₃, rfl⟩ := more₂.exists_of_cons
  obtain ⟨w₄, rest₄, spaced₄, cut₄, more₄, rfl⟩ := more₃.exists_of_cons
  obtain ⟨hdenotes, hfits⟩ := cut₁.number_denotes h₁
  have hopen := cut₂.paren_slice.1 h₂
  have hnamed := cut₃.register_mem h₃
  have hclose := cut₄.paren_slice.2 h₄
  have htext : w₁ ++ l₁.slice ++ (w₂ ++ l₂.slice ++ (w₃ ++ l₃.slice ++ (w₄ ++ l₄.slice ++ rest₄))) =
      w₁ ++ (l₁.slice ++ w₂ ++ ('(' :: (w₃ ++ l₃.slice ++ w₄) ++ [')'])) ++ rest₄ := by
    simp [hopen, hclose]
  rw [htext] at ht ⊢
  obtain ⟨rfl, rfl⟩ := ht.eq_nil_of_append spaced₁.blank more₄.spaced_of_nil.blank
  rw [List.nil_append, List.append_nil]
  exact ⟨.intro hdenotes hnamed spaced₂ spaced₃ spaced₄, hfits⟩

theorem SpellsMemory.tokens {piece : Text} {v : Int} {base : Register}
    (h : SpellsMemory piece v base) (hfits : fitsSignedWord v = true) :
    ∃ radix, Token.ofText piece =
      .ok [.number radix v, .leftParen, .register base, .rightParen] := by
  obtain @⟨radix, offset, name, s₁, s₂, s₃, _, _, denotes, named, spaced₁, spaced₂, spaced₃⟩ := h
  refine ⟨radix, Token.ofText_eq_ok_iff.mpr
    ⟨[⟨offset, .ok (.number radix v)⟩, ⟨['('], .ok .leftParen⟩, ⟨name, .ok (.register base)⟩,
      ⟨[')'], .ok .rightParen⟩], ?_, rfl⟩⟩
  have hclose : Lexeme.Spells [⟨[')'], .ok .rightParen⟩] (s₃ ++ [')'] ++ []) :=
    .cons spaced₃ (.punctuation rfl) (.nil (by simp [Spaced]))
  have hbase : Lexeme.Spells [⟨name, .ok (.register base)⟩, ⟨[')'], .ok .rightParen⟩]
      (s₂ ++ name ++ (s₃ ++ [')'] ++ [])) := by
    refine .cons spaced₂ (Lexeme.isCut_register named ?_) hclose
    have hparen : Text.isWordCharacter ')' = false := by decide
    cases s₃ with
    | nil => simpa using hparen
    | cons c s => simpa using isWordCharacter_of_isSpacer (spaced₃.isSpacer (by simp))
  have hopen : Lexeme.Spells [⟨['('], .ok .leftParen⟩, ⟨name, .ok (.register base)⟩,
      ⟨[')'], .ok .rightParen⟩] (s₁ ++ ['('] ++ (s₂ ++ name ++ (s₃ ++ [')'] ++ []))) :=
    .cons spaced₁ (.punctuation rfl) hbase
  have hoffset := Lexeme.IsCut.spells (Lexeme.isCut_number denotes hfits ?_) hopen
  · simpa using hoffset
  · cases s₁ with
    | nil => simp [isDelimiter]
    | cons c s => simpa using isDelimiter_of_isSpacer (spaced₁.isSpacer (by simp))

theorem readMemoryOperand_eq_ok_iff {piece : Text} (ht : Trimmed piece) {v : Int}
    {base : Register} :
    readMemoryOperand piece = .ok (v, base) ↔
      SpellsMemory piece v base ∧ fitsSignedWord v = true := by
  have htokens : readMemoryOperand piece = .ok (v, base) ↔ ∃ radix, Token.ofText piece =
      .ok [.number radix v, .leftParen, .register base, .rightParen] := by
    unfold readMemoryOperand
    split <;> simp_all
  rw [htokens]
  constructor
  · rintro ⟨radix, h⟩
    obtain ⟨ls, hspells, hmap⟩ := Token.ofText_eq_ok_iff.mp h
    simp only [List.map_cons, List.map_nil, List.map_eq_cons_iff, List.map_eq_nil_iff] at hmap
    obtain ⟨l₁, _, rfl, h₁, l₂, _, rfl, h₂, l₃, _, rfl, h₃, l₄, _, rfl, h₄, rfl⟩ := hmap
    exact spellsMemory_of_spells ht hspells h₁ h₂ h₃ h₄
  · rintro ⟨h, hfits⟩
    exact h.tokens hfits

/-- A trimmed piece is accepted in its role exactly if it is one of the texts of that role. -/
theorem assign_eq_ok_iff {ops ops' : Operands} {role : Role} {piece : Text} (ht : Trimmed piece) :
    ops.assign role piece = .ok ops' ↔ Fills role piece ops ops' := by
  cases role with
  | rd => simp only [assign, Fills, map_eq_ok_iff, readRegister_eq_ok_iff ht]
  | rs => simp only [assign, Fills, map_eq_ok_iff, readRegister_eq_ok_iff ht]
  | rt => simp only [assign, Fills, map_eq_ok_iff, readRegister_eq_ok_iff ht]
  | immediate =>
    simp only [assign, Fills, map_eq_ok_iff, readImmediate_eq_ok_iff ht]
    constructor
    · rintro ⟨value, ⟨radix, hd, hfits⟩, rfl⟩
      exact ⟨radix, value, hd, hfits, rfl⟩
    · rintro ⟨radix, value, hd, hfits, rfl⟩
      exact ⟨value, ⟨radix, hd, hfits⟩, rfl⟩
  | shamt =>
    simp only [assign, Fills, map_eq_ok_iff, readShiftAmount_eq_ok_iff ht, and_assoc]
  | label => simp [assign, Fills, map_eq_ok_iff, readTarget_eq_ok_iff, and_assoc]
  | targetAddress => simp [assign, Fills, map_eq_ok_iff, readTarget_eq_ok_iff, and_assoc]
  | offsetBase =>
    simp [assign, Fills, map_eq_ok_iff, readMemoryOperand_eq_ok_iff ht, and_assoc]

theorem fill_eq_ok_iff {ops ops' : Operands} {assigned : List (Role × Text)}
    (ht : ∀ entry ∈ assigned, Trimmed entry.2) :
    (fill ops assigned).outcome = .ok ops' ↔ FillsAll ops assigned ops' := by
  induction assigned generalizing ops with
  | nil => simp [fill, FillsAll, eq_comm]
  | cons entry rest ih =>
    obtain ⟨role, piece⟩ := entry
    have hpiece : Trimmed piece := ht (role, piece) (by simp)
    have hrest : ∀ entry ∈ rest, Trimmed entry.2 := fun e he => ht e (by simp [he])
    simp only [fill, FillsAll, Run.outcome_bind, Run.outcome_note, Run.outcome_ofExcept,
      bind_eq_ok_iff, assign_eq_ok_iff hpiece, ih hrest]
    simp

theorem length_roles {template : Text} {roles : List Role}
    (h : Template.roles template = .ok roles) : (Template.parts template).length = roles.length := by
  have hmap := mapM_eq_ok_iff.mp h
  simpa using congrArg List.length hmap

/-- Operands are read exactly if there is one piece for each role and every piece fills its role. -/
theorem read_eq_ok_iff {operands : Option Text} {template : Text} {roles : List Role}
    {ops : Operands} (hroles : Template.roles template = .ok roles) :
    (read operands template).outcome = .ok ops ↔
      ∃ t, operands = some t ∧ (pieces t).length = roles.length ∧
        FillsAll {} (roles.zip (pieces t)) ops := by
  have hlength := length_roles hroles
  have hne : (Template.parts template).length ≠ 0 := by
    rw [ne_eq, List.length_eq_zero_iff]
    exact List.splitOn_ne_nil ',' template
  cases operands with
  | none =>
    simp only [read, List.length_nil]
    rw [if_pos (Ne.symm hne)]
    simp
  | some t =>
    have htrimmed : ∀ entry ∈ roles.zip (pieces t), Trimmed entry.2 :=
      fun entry he => trimmed_of_mem_pieces (List.of_mem_zip he).2
    simp only [read, hlength, Option.some.injEq, exists_eq_left']
    split
    · next h => simp [h]
    · next h =>
      simp only [Run.outcome_bind, Run.outcome_ofExcept, hroles, bind_eq_ok_iff, Except.ok.injEq,
        exists_eq_left', fill_eq_ok_iff htrimmed]
      simp only [ne_eq, not_not] at h
      simp [h]

end MipsEncoding.Operands
