import MipsEncoding.Proofs.OperandGrammar
import MipsEncoding.Proofs.Stages

/-! The language of accepted lines. A line is accepted exactly if, in front of its comment, it has
the name of an instruction and behind it legal operands for the instruction's roles. -/
namespace MipsEncoding
open Text Operands

/-- The texts that are legal in a role. -/
def Legal (role : Role) (t : Text) : Prop :=
  match role with
  | .rd | .rs | .rt => ∃ n, (t, n) ∈ Register.names
  | .immediate | .label => ∃ radix value, Denotes radix t value ∧ -32768 ≤ value ∧ value ≤ 32767
  | .shamt => ∃ amount, Denotes .decimal t amount ∧ 0 ≤ amount ∧ amount ≤ 31
  | .offsetBase => ∃ offset base, SpellsMemory t offset base ∧ -32768 ≤ offset ∧ offset ≤ 32767
  | .targetAddress =>
    ∃ radix address, Denotes radix t address ∧ 0 ≤ address ∧ address < 2 ^ 28 ∧ 4 ∣ address

/-- The shape of an accepted line in front of its comment: blanks, a name, blanks, legal operands
with commas between them, and blanks. -/
inductive AcceptedShape : Text → Prop
  | intro {d : Definition} {roles : List Role} {cores : List Text} {w₀ word w₁ body w₂ : Text}
      (listed : d ∈ Catalog.definitions) (template : Template.roles d.template = .ok roles)
      (leading : Blank w₀) (solid : Solid word) (named : lowercase word = d.mnemonic)
      (gap : Blank w₁) (gapNonempty : w₁ ≠ []) (joined : Joined cores body)
      (legal : List.Forall₂ Legal roles cores) (trailing : Blank w₂) :
      AcceptedShape (w₀ ++ word ++ w₁ ++ body ++ w₂)

theorem fitsSignedWord_of_mem {v : Int} (hlow : -32768 ≤ v) (hhigh : v ≤ 32767) :
    fitsSignedWord v = true := by
  rw [fitsSignedWord_iff]
  omega

/-- Legal texts are accepted in their role; their values are in a smaller range. -/
theorem Legal.accepts {role : Role} {t : Text} (h : Legal role t) : Accepts role t := by
  cases role with
  | rd | rs | rt => exact h
  | immediate =>
    obtain ⟨radix, value, denotes, low, high⟩ := h
    exact ⟨radix, value, denotes, by omega, by omega⟩
  | shamt => exact h
  | label =>
    obtain ⟨radix, value, denotes, -, -⟩ := h
    exact isTarget_of_denotes denotes
  | targetAddress =>
    obtain ⟨radix, address, denotes, -⟩ := h
    exact isTarget_of_denotes denotes
  | offsetBase =>
    obtain ⟨offset, base, spells, low, high⟩ := h
    exact ⟨offset, base, spells, by omega, by omega⟩

theorem legal_immediate_iff {radix : Radix} {t : Text} {v : Int} (h : Denotes radix t v) :
    Legal .immediate t ↔ -32768 ≤ v ∧ v ≤ 32767 := by
  constructor
  · rintro ⟨radix', v', h', hrange⟩
    obtain ⟨-, rfl⟩ := h.unique h'
    exact hrange
  · intro hrange
    exact ⟨radix, v, h, hrange⟩

theorem legal_offsetBase_iff {t : Text} {offset : Int} {base : Register}
    (h : SpellsMemory t offset base) (hfits : fitsSignedWord offset = true) :
    Legal .offsetBase t ↔ -32768 ≤ offset ∧ offset ≤ 32767 := by
  constructor
  · rintro ⟨offset', base', h', hrange⟩
    obtain ⟨rfl, -⟩ := h.unique hfits h' (fitsSignedWord_of_mem hrange.1 hrange.2)
    exact hrange
  · intro hrange
    exact ⟨offset, base, h, hrange⟩

namespace Assembly

variable {d : Definition} {rs rt : Register} {label : Text}

theorem exists_encodes_immediate_iff {v : Int} :
    (∃ f, Encodes d .immediate { rs := some rs, rt := some rt, immediate := some v } f) ↔
      -32768 ≤ v ∧ v ≤ 32767 := by
  constructor
  · rintro ⟨f, h⟩
    cases h with
    | immediate _ _ low high => exact ⟨low, high⟩
  · rintro ⟨low, high⟩
    exact ⟨_, .immediate rs rt low high⟩

theorem exists_encodes_branch_iff :
    (∃ f, Encodes d .branch { rs := some rs, rt := some rt, label := some label } f) ↔
      Legal .label label := by
  constructor
  · rintro ⟨f, h⟩
    cases h with
    | branch _ _ denotes low high => exact ⟨_, _, denotes, low, high⟩
  · rintro ⟨radix, v, denotes, low, high⟩
    exact ⟨_, .branch rs rt denotes low high⟩

theorem exists_encodes_jump_iff :
    (∃ f, Encodes d .jump { label := some label } f) ↔ Legal .targetAddress label := by
  constructor
  · rintro ⟨f, h⟩
    cases h with
    | jump denotes low high aligned => exact ⟨_, _, denotes, low, high, aligned⟩
  · rintro ⟨radix, address, denotes, low, high, aligned⟩
    exact ⟨_, .jump denotes low high aligned⟩

/-- Operands that have been read can be encoded exactly if every piece is legal in its role. -/
theorem exists_encodes_iff {d : Definition} (hd : d ∈ Catalog.definitions) {roles : List Role}
    (hroles : roles ∈ d.kind.templates) {ps : List Text} (hlen : ps.length = roles.length)
    {ops : Operands} (hfills : FillsAll {} (roles.zip ps) ops) :
    (∃ f, Encodes d d.kind ops f) ↔ List.Forall₂ Legal roles ps := by
  have hfilled := filled_of_fillsAll hroles hlen hfills
  generalize hk : d.kind = k at hfilled ⊢
  cases hfilled with
  | threeRegisters hrd hrs hrt =>
    have hformat := (Definition.kind_eq_iff.mp hk).1
    obtain ⟨funct, hfunct⟩ := (Catalog.wellFormed hd).functGiven hformat
    exact iff_of_true ⟨_, .threeRegisters hfunct _ _ _⟩
      (.cons ⟨_, hrd⟩ (.cons ⟨_, hrs⟩ (.cons ⟨_, hrt⟩ .nil)))
  | shift hrd hrt denotes small =>
    have hformat := (Definition.kind_eq_iff.mp hk).1
    obtain ⟨funct, hfunct⟩ := (Catalog.wellFormed hd).functGiven hformat
    have hamount : Legal .shamt _ := ⟨_, denotes, by omega, by omega⟩
    exact iff_of_true ⟨_, .shift hfunct _ _ small⟩
      (.cons ⟨_, hrd⟩ (.cons ⟨_, hrt⟩ (.cons hamount .nil)))
  | @immediate a b _ _ _ _ _ hrt hrs denotes =>
    have ha : Legal .rt a := ⟨_, hrt⟩
    have hb : Legal .rs b := ⟨_, hrs⟩
    rw [exists_encodes_immediate_iff, ← legal_immediate_iff denotes]
    simp [ha, hb]
  | @memory a _ _ _ _ hrt spells fits =>
    have ha : Legal .rt a := ⟨_, hrt⟩
    rw [exists_encodes_immediate_iff, ← legal_offsetBase_iff spells fits]
    simp [ha]
  | @branch a b _ _ _ hrs hrt target =>
    have ha : Legal .rs a := ⟨_, hrs⟩
    have hb : Legal .rt b := ⟨_, hrt⟩
    rw [exists_encodes_branch_iff]
    simp [ha, hb]
  | jump target =>
    rw [exists_encodes_jump_iff]
    simp

end Assembly

section Lines

variable {line t : Text} {d : Definition} {roles : List Role} {ops : Operands} {f : Fields}

theorem interprets_of_fills (hd : d ∈ Catalog.definitions)
    (hroles : Template.roles d.template = .ok roles)
    (hsplit : Instruction.ofLine line = .ok ⟨d.mnemonic, some t⟩)
    (hlen : (pieces t).length = roles.length) (hfills : FillsAll {} (roles.zip (pieces t)) ops)
    (hf : Assembly.Encodes d d.kind ops f) :
    Interprets line ⟨line, ⟨d.mnemonic, some t⟩, d, ops, f, f.concat,
      "0x".toList ++ Word.nibbles f.concat⟩ where
  source := rfl
  split := hsplit
  listed := hd
  named := rfl
  read := (read_eq_ok_iff hroles).mpr ⟨t, rfl, hlen, hfills⟩
  encodes := hf
  binary := rfl
  hex := rfl

/-- A line with operands is accepted exactly if its pieces are legal in the roles of its template. -/
theorem exists_interprets_iff (hd : d ∈ Catalog.definitions)
    (hroles : Template.roles d.template = .ok roles)
    (hsplit : Instruction.ofLine line = .ok ⟨d.mnemonic, some t⟩) :
    (∃ i, Interprets line i) ↔ List.Forall₂ Legal roles (pieces t) := by
  obtain ⟨roles', hmem, hroles'⟩ := (Catalog.wellFormed hd).template
  obtain rfl : roles' = roles := Except.ok.inj (hroles'.symm.trans hroles)
  constructor
  · intro h
    obtain ⟨i, hi⟩ := h
    have hinstruction : i.instruction = ⟨d.mnemonic, some t⟩ :=
      Except.ok.inj (hi.split.symm.trans hsplit)
    obtain rfl : i.definition = d :=
      Catalog.eq_of_mnemonic hi.listed hd (by rw [hi.named, hinstruction])
    have hread := hi.read
    rw [hinstruction] at hread
    obtain ⟨_, ⟨⟩, hlen, hfills⟩ := (read_eq_ok_iff hroles).mp hread
    exact (Assembly.exists_encodes_iff hd hmem hlen hfills).mp ⟨_, hi.encodes⟩
  · intro hlegal
    have hlen := hlegal.length_eq.symm
    have haccepted := hlegal.imp fun _ _ => Legal.accepts
    obtain ⟨ops, hfills⟩ := (exists_fillsAll_iff hlen {}).mpr haccepted
    obtain ⟨f, hf⟩ := (Assembly.exists_encodes_iff hd hmem hlen hfills).mpr hlegal
    exact ⟨_, interprets_of_fills hd hroles hsplit hlen hfills hf⟩

end Lines

theorem acceptedShape_of_interprets {line : Text} {i : Interpretation} (h : Interprets line i) :
    AcceptedShape (before '#' line) := by
  obtain ⟨roles, -, hroles⟩ := (Catalog.wellFormed h.listed).template
  obtain ⟨t, ht, -⟩ := (read_eq_ok_iff hroles).mp h.read
  obtain ⟨v, body, v', hv, hv', hjoined, hbody⟩ := joined_pieces t
  have hsplit : Instruction.ofLine line = .ok ⟨i.definition.mnemonic, some t⟩ := by
    rw [h.split, h.named, ← ht]
  have hlegal := (exists_interprets_iff h.listed hroles hsplit).mp ⟨i, h⟩
  have hwritten := Instruction.ofLine_eq_ok_iff.mp hsplit
  have hlisted := h.listed
  generalize before '#' line = text at hwritten ⊢
  generalize hinstruction : (⟨i.definition.mnemonic, some t⟩ : Instruction) = instruction at hwritten
  cases hwritten with
  | bare =>
    have hoperands := congrArg Instruction.operands hinstruction
    cases hoperands
  | @withOperands w word gap operands w' left solid _ gapBlank gapNonempty _ _ right =>
    obtain ⟨hnamed, hoperands⟩ := Instruction.mk.inj hinstruction
    obtain rfl : t = operands := Option.some.inj hoperands
    have htext : w ++ word ++ gap ++ t ++ w' =
        w ++ word ++ (gap ++ v) ++ body ++ (v' ++ w') := by
      rw [hbody]
      simp
    rw [htext]
    exact .intro hlisted hroles left solid hnamed.symm (blank_append.mpr ⟨gapBlank, hv⟩)
      (by simp [gapNonempty]) hjoined hlegal (blank_append.mpr ⟨hv', right⟩)

theorem exists_interprets_of_acceptedShape {line : Text} (h : AcceptedShape (before '#' line)) :
    ∃ i, Interprets line i := by
  generalize hb : before '#' line = text at h
  obtain ⟨listed, template, leading, solid, named, gap, gapNonempty, joined, legal, trailing⟩ := h
  rename_i d roles cores w₀ word w₁ body w₂
  have hshape := shape_of_accepts (legal.imp fun _ _ => Legal.accepts)
  obtain ⟨htrimmed, hne⟩ := joined.trimmed fun p hp => ⟨(hshape p hp).1, (hshape p hp).2.2⟩
  have hpieces : pieces body = cores := by
    have := pieces_of_joined joined (fun p hp => (hshape p hp).2.1) (fun p hp => (hshape p hp).1)
      blank_nil blank_nil
    simpa using this
  have hword : word ≠ [] := by
    rintro rfl
    exact Catalog.mnemonic_ne_nil listed named.symm
  have hsplit : Instruction.ofLine line = .ok ⟨d.mnemonic, some body⟩ := by
    rw [Instruction.ofLine_eq_ok_iff, hb, ← named]
    exact .withOperands leading solid hword gap gapNonempty htrimmed hne trailing
  rw [exists_interprets_iff listed template hsplit, hpieces]
  exact legal

/-- The accepted lines are those with the shape above in front of the first `#`. -/
theorem interpret_accepts_iff (line : Text) :
    (∃ i, (interpret line).outcome = .ok i) ↔ AcceptedShape (before '#' line) := by
  simp only [interpret_eq_ok_iff]
  constructor
  · rintro ⟨i, hi⟩
    exact acceptedShape_of_interprets hi
  · exact exists_interprets_of_acceptedShape

end MipsEncoding
