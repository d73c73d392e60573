import MipsEncoding.Proofs.AcceptedLines
import MipsEncoding.Proofs.Layouts
import MipsEncoding.Proofs.ReferenceWord

/-! Immediate values and branch targets. An addition takes its last operand as a number when the
operands are read, a branch keeps it as a text until it is encoded. For every text behind the
registers the two accept or reject it together, and they put the same number into their fields. -/
namespace MipsEncoding
open Text Operands

/-- A line with a name, two operands and any text behind them, which may hold further operands,
blanks and a comment. -/
def lineOf (name a b t : Text) : Text :=
  name ++ " ".toList ++ a ++ ", ".toList ++ b ++ ", ".toList ++ t

theorem not_mem_of_named {name : Text} {n : Fin 32} (h : (name, n) ∈ Register.names) :
    '#' ∉ name := by
  have hnames : ∀ entry ∈ Register.names, '#' ∉ entry.1 := by decide
  exact hnames _ h

theorem Catalog.mnemonic_plain {d : Definition} (hd : d ∈ definitions) :
    Solid d.mnemonic ∧ '#' ∉ d.mnemonic ∧ lowercase d.mnemonic = d.mnemonic := by
  have h : ∀ d ∈ definitions, Solid d.mnemonic ∧ '#' ∉ d.mnemonic ∧
      lowercase d.mnemonic = d.mnemonic := by decide +kernel
  exact h d hd

section Lines

variable {d : Definition} {a b : Text} {m n : Fin 32}

theorem pieces_of_named (ha : (a, m) ∈ Register.names) (hb : (b, n) ∈ Register.names) (t : Text) :
    pieces (a ++ ", ".toList ++ b ++ ", ".toList ++ t) = a :: b :: pieces t := by
  have hspace : Blank [' '] := by decide
  have htext : a ++ ", ".toList ++ b ++ ", ".toList ++ t =
      a ++ ',' :: ([' '] ++ (b ++ ',' :: ([' '] ++ t))) := by simp
  rw [htext, pieces_append_comma (isTarget_of_named ha).closed, pieces_blank_append hspace,
    pieces_append_comma (isTarget_of_named hb).closed, pieces_blank_append hspace,
    trim_of_trimmed (isTarget_of_named ha).trimmed, trim_of_trimmed (isTarget_of_named hb).trimmed]

/-- The pieces of a line are those in front of its comment. -/
theorem ofLine_lineOf (hd : d ∈ Catalog.definitions) (ha : (a, m) ∈ Register.names)
    (hb : (b, n) ∈ Register.names) (t : Text) :
    ∃ operands, Instruction.ofLine (lineOf d.mnemonic a b t) = .ok ⟨d.mnemonic, some operands⟩ ∧
      pieces operands = a :: b :: pieces (before '#' t) := by
  obtain ⟨hsolid, hmark, hcase⟩ := Catalog.mnemonic_plain hd
  obtain ⟨comment, ht, hfree, hcomment⟩ := exists_comment t
  have hpieces := pieces_of_named ha hb (before '#' t)
  generalize hbody : a ++ ", ".toList ++ b ++ ", ".toList ++ before '#' t = body at hpieces
  have hlaid : LaidOut d.mnemonic [body] (lineOf d.mnemonic a b t) := by
    have htext : lineOf d.mnemonic a b t = [] ++ d.mnemonic ++ [' '] ++ body ++ [] ++ comment := by
      rw [← hbody]
      conv_lhs => rw [lineOf, ht]
      simp
    have hunmarked : '#' ∉ body := by
      simp [← hbody, not_mem_of_named ha, not_mem_of_named hb, hfree]
    rw [htext]
    exact .intro _ _ _ _ _ blank_nil hsolid (Catalog.mnemonic_ne_nil hd) hmark (by decide)
      (by decide) (.single body) (by simpa using hunmarked) blank_nil hcomment
  obtain ⟨body', hjoined, hline⟩ := hlaid.ofLine
  obtain rfl : body' = body := by
    cases hjoined with
    | single => rfl
    | cons _ _ more => exact absurd rfl more.ne_nil
  have hgiven : trim body' ≠ [] := by
    rw [ne_eq, trim_eq_nil_iff, ← pieces_eq_nil_piece_iff, hpieces]
    simp
  refine ⟨trim body', ?_, by rw [pieces_trim, hpieces]⟩
  simpa [Instruction.operandText, hgiven, hcase] using hline

/-- Behind two legal operands there must be exactly one more, which is legal in its role. -/
theorem exists_interprets_lineOf_iff {r₁ r₂ r₃ : Role} (hd : d ∈ Catalog.definitions)
    (hroles : Template.roles d.template = .ok [r₁, r₂, r₃]) (ha : (a, m) ∈ Register.names)
    (hb : (b, n) ∈ Register.names) (h₁ : Legal r₁ a) (h₂ : Legal r₂ b) (t : Text) :
    (∃ i, Interprets (lineOf d.mnemonic a b t) i) ↔
      ∃ c, pieces (before '#' t) = [c] ∧ Legal r₃ c := by
  obtain ⟨operands, hsplit, hpieces⟩ := ofLine_lineOf hd ha hb t
  rw [exists_interprets_iff hd hroles hsplit, hpieces]
  simp [h₁, h₂, List.forall₂_cons_left_iff, and_comm]

section Fields

variable {c t : Text} {radix : Radix} {v : Int} {i : Interpretation}

theorem fields_of_lineOf {r₁ r₂ r₃ : Role} {ops : Operands} {f : Fields}
    (hd : d ∈ Catalog.definitions) (hroles : Template.roles d.template = .ok [r₁, r₂, r₃])
    (ha : (a, m) ∈ Register.names) (hb : (b, n) ∈ Register.names)
    (hc : pieces (before '#' t) = [c]) (hfills : FillsAll {} [(r₁, a), (r₂, b), (r₃, c)] ops)
    (hf : Assembly.Encodes d d.kind ops f) (h : Interprets (lineOf d.mnemonic a b t) i) :
    i.fields = f := by
  obtain ⟨operands, hsplit, hpieces⟩ := ofLine_lineOf hd ha hb t
  rw [hc] at hpieces
  have hfills' : FillsAll {} ([r₁, r₂, r₃].zip (pieces operands)) ops := by
    rw [hpieces]
    exact hfills
  rw [h.unique (interprets_of_fills hd hroles hsplit (by simp [hpieces]) hfills' hf)]

theorem fields_of_immediate (hd : d ∈ Catalog.definitions) (hkind : d.kind = .immediate)
    (hroles : Template.roles d.template = .ok [.rt, .rs, .immediate])
    (ha : (a, m) ∈ Register.names) (hb : (b, n) ∈ Register.names)
    (hc : pieces (before '#' t) = [c]) (hv : Denotes radix c v) (low : -32768 ≤ v)
    (high : v ≤ 32767) (h : Interprets (lineOf d.mnemonic a b t) i) :
    i.fields = { opcode := d.opcode, rs := some (Bits.ofNat 5 n), rt := some (Bits.ofNat 5 m),
                 immediate := some (Bits.ofNat 16 (v % 2 ^ 16).toNat) } := by
  have hfits := fitsSignedWord_of_mem low high
  have hfills : FillsAll {} [(.rt, a), (.rs, b), (.immediate, c)]
      { rs := some ⟨n⟩, rt := some ⟨m⟩, immediate := some v } :=
    ⟨_, ⟨⟨m⟩, ha, rfl⟩, _, ⟨⟨n⟩, hb, rfl⟩, _, ⟨radix, v, hv, hfits, rfl⟩, rfl⟩
  have hencodes := Assembly.Encodes.immediate (d := d) ⟨n⟩ ⟨m⟩ low high
  rw [← hkind] at hencodes
  exact fields_of_lineOf hd hroles ha hb hc hfills hencodes h

theorem fields_of_branch (hd : d ∈ Catalog.definitions) (hkind : d.kind = .branch)
    (hroles : Template.roles d.template = .ok [.rs, .rt, .label])
    (ha : (a, m) ∈ Register.names) (hb : (b, n) ∈ Register.names)
    (hc : pieces (before '#' t) = [c]) (hv : Denotes radix c v) (low : -32768 ≤ v)
    (high : v ≤ 32767) (h : Interprets (lineOf d.mnemonic a b t) i) :
    i.fields = { opcode := d.opcode, rs := some (Bits.ofNat 5 m), rt := some (Bits.ofNat 5 n),
                 immediate := some (Bits.ofNat 16 (v % 2 ^ 16).toNat) } := by
  have hfills : FillsAll {} [(.rs, a), (.rt, b), (.label, c)]
      { rs := some ⟨m⟩, rt := some ⟨n⟩, label := some c } :=
    ⟨_, ⟨⟨m⟩, ha, rfl⟩, _, ⟨⟨n⟩, hb, rfl⟩, _, ⟨isTarget_of_denotes hv, rfl⟩, rfl⟩
  have hencodes := Assembly.Encodes.branch (d := d) ⟨m⟩ ⟨n⟩ hv low high
  rw [← hkind] at hencodes
  exact fields_of_lineOf hd hroles ha hb hc hfills hencodes h

/-- The word behind the opcode is made of the other fields alone. -/
theorem word_of_fields {line opcode rs rt immediate : Text} (h : Interprets line i)
    (hfields : i.fields = { opcode, rs := some rs, rt := some rt, immediate := some immediate })
    (hrs : rs.length = 5) (hrt : rt.length = 5) (himmediate : immediate.length = 16) :
    ∃ w, i.word? = some w ∧ w.toNat = Bits.toNat opcode * 2 ^ 26 +
      (Bits.toNat rs * 2 ^ 21 + Bits.toNat rt * 2 ^ 16 + Bits.toNat immediate) := by
  obtain ⟨w, hw, hvalue⟩ := h.word
  refine ⟨w, hw, ?_⟩
  rw [hvalue, h.binary, hfields, Fields.toNat_immediate hrs hrt himmediate]
  omega

end Fields

end Lines

/-- An addition and a branch with the same registers and the same text behind them are accepted
together. They then have the same fields and words but for the opcodes. -/
theorem immediate_branch_agree {a b : Text} {m n : Fin 32} (ha : (a, m) ∈ Register.names)
    (hb : (b, n) ∈ Register.names) (t : Text) :
    ((∃ i, (interpret (lineOf "addi".toList a b t)).outcome = .ok i) ↔
      ∃ j, (interpret (lineOf "beq".toList b a t)).outcome = .ok j) ∧
    ∀ i j, (interpret (lineOf "addi".toList a b t)).outcome = .ok i →
      (interpret (lineOf "beq".toList b a t)).outcome = .ok j →
      ∃ rs rt immediate,
        i.fields = { opcode := "001000".toList, rs := some rs, rt := some rt,
                     immediate := some immediate } ∧
        j.fields = { opcode := "000100".toList, rs := some rs, rt := some rt,
                     immediate := some immediate } ∧
        ∃ w w' low, i.word? = some w ∧ j.word? = some w' ∧ low < 2 ^ 26 ∧
          w.toNat = 8 * 2 ^ 26 + low ∧ w'.toNat = 4 * 2 ^ 26 + low := by
  obtain ⟨addi, hd, haddi, hkind, hroles, hopcode⟩ : ∃ d ∈ Catalog.definitions,
      d.mnemonic = "addi".toList ∧ d.kind = .immediate ∧
      Template.roles d.template = .ok [.rt, .rs, .immediate] ∧ d.opcode = "001000".toList := by
    decide +kernel
  obtain ⟨beq, hd', hbeq, hkind', hroles', hopcode'⟩ : ∃ d ∈ Catalog.definitions,
      d.mnemonic = "beq".toList ∧ d.kind = .branch ∧
      Template.roles d.template = .ok [.rs, .rt, .label] ∧ d.opcode = "000100".toList := by
    decide +kernel
  have haddition := exists_interprets_lineOf_iff hd hroles ha hb ⟨m, ha⟩ ⟨n, hb⟩ t
  have hbranch := exists_interprets_lineOf_iff hd' hroles' hb ha ⟨n, hb⟩ ⟨m, ha⟩ t
  simp only [← haddi, ← hbeq, interpret_eq_ok_iff]
  refine ⟨haddition.trans hbranch.symm, ?_⟩
  intro i j hi hj
  obtain ⟨c, hc, radix, v, hv, low, high⟩ := haddition.mp ⟨i, hi⟩
  have hfields := fields_of_immediate hd hkind hroles ha hb hc hv low high hi
  have hfields' := fields_of_branch hd' hkind' hroles' hb ha hc hv low high hj
  rw [hopcode] at hfields
  rw [hopcode'] at hfields'
  obtain ⟨w, hw, hvalue⟩ := word_of_fields hi hfields (by simp) (by simp) (by simp)
  obtain ⟨w', hw', hvalue'⟩ := word_of_fields hj hfields' (by simp) (by simp) (by simp)
  refine ⟨_, _, _, hfields, hfields', w, w', _, hw, hw', ?_, hvalue, hvalue'⟩
  simp only [Bits.toNat_ofNat]
  omega

/-- The comment may hold commas and parentheses. -/
theorem immediate_branch_agree_commented :
    ∃ i j, (interpret "addi $t0, $s8, -0x10 # back, (".toList).outcome = .ok i ∧
      (interpret "beq $s8, $t0, -0x10 # back, (".toList).outcome = .ok j ∧
      i.hex = "0x23C8FFF0".toList ∧
      ∃ rs rt immediate,
        i.fields = { opcode := "001000".toList, rs := some rs, rt := some rt,
                     immediate := some immediate } ∧
        j.fields = { opcode := "000100".toList, rs := some rs, rt := some rt,
                     immediate := some immediate } := by
  have hrun : ((interpret "addi $t0, $s8, -0x10 # back, (".toList).outcome.toOption.map
      (·.hex)) = some "0x23C8FFF0".toList := by
    decide +kernel
  obtain ⟨i, hi, hhex⟩ := exists_ok_of_toOption_map hrun
  have ha : ("$t0".toList, 8) ∈ Register.names := by decide
  have hb : ("$s8".toList, 30) ∈ Register.names := by decide
  obtain ⟨haccepted, hfields⟩ := immediate_branch_agree ha hb "-0x10 # back, (".toList
  obtain ⟨j, hj⟩ := haccepted.mp ⟨i, hi⟩
  obtain ⟨rs, rt, immediate, hfields, hfields', -⟩ := hfields i j hi hj
  exact ⟨i, j, hi, hj, hhex, rs, rt, immediate, hfields, hfields'⟩

end MipsEncoding
