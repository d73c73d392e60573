import MipsEncoding.Proofs.Encoding

/-! Branches to targets of any size. A target that is a numeral is judged by the integer that it
denotes, however many digits it has: one that fits 16 bits is encoded in two's complement, any other
is refused with that integer, cut off at the largest magnitude. The cut-off stays outside 16 bits,
so it never changes the verdict. All other targets are symbols, whatever they are made of. -/
namespace MipsEncoding.Assembly
open Operands

theorem read_branch {d : Definition} (hd : d ∈ Catalog.definitions) (hkind : d.kind = .branch)
    {a b t body : Text} {rs rt : Register} (hrs : (a, rs.number) ∈ Register.names)
    (hrt : (b, rt.number) ∈ Register.names) (ht : IsTarget t) (hbody : Joined [a, b, t] body) :
    (Operands.read (some body) d.template).outcome =
      .ok { rs := some rs, rt := some rt, label := some t } := by
  obtain ⟨roles, hmem, hroles⟩ := (Catalog.wellFormed hd).template
  obtain rfl : roles = [.rs, .rt, .label] := by simpa [hkind, Kind.templates] using hmem
  have htargets : ∀ p ∈ [a, b, t], IsTarget p := by
    simp [isTarget_of_named hrs, isTarget_of_named hrt, ht]
  have hpieces := pieces_of_joined hbody (fun p hp => (htargets p hp).closed)
    (fun p hp => (htargets p hp).trimmed) Text.blank_nil Text.blank_nil
  rw [List.nil_append, List.append_nil] at hpieces
  rw [read_eq_ok_iff hroles]
  refine ⟨body, rfl, by simp [hpieces], ?_⟩
  rw [hpieces]
  exact ⟨_, ⟨rs, hrs, rfl⟩, _, ⟨rt, hrt, rfl⟩, _, ⟨ht, rfl⟩, rfl⟩

theorem outcome_assemble_branch_of_encodes {d : Definition} (hd : d ∈ Catalog.definitions)
    (hkind : d.kind = .branch) (rs rt : Register) {radix : Radix} {t : Text} {v : Int}
    (h : Denotes radix t v) (hlow : -32768 ≤ v) (hhigh : v ≤ 32767) :
    (assemble d { rs := some rs, rt := some rt, label := some t }).outcome = .ok
      ⟨d.opcode ++ Text.fixedWidth 2 5 rs.number ++ Text.fixedWidth 2 5 rt.number ++
          Text.fixedWidth 2 16 (v % 2 ^ 16).toNat,
        { opcode := d.opcode, rs := some (Text.fixedWidth 2 5 rs.number),
          rt := some (Text.fixedWidth 2 5 rt.number),
          immediate := some (Text.fixedWidth 2 16 (v % 2 ^ 16).toNat) }⟩ := by
  have hencodes := Encodes.branch (d := d) rs rt h hlow hhigh
  rw [← hkind] at hencodes
  have hsmall : (v % 2 ^ 16).toNat < 2 ^ 16 := by omega
  have hnumber : ∀ r : Register, Bits.ofNat 5 r.number = Text.fixedWidth 2 5 r.number :=
    fun r => Bits.ofNat_eq_fixedWidth r.number.isLt
  rw [assemble_of_encodes hd hencodes, Bits.ofNat_eq_fixedWidth hsmall, hnumber, hnumber]
  simp [Fields.concat, Fields.entries]

/-- What becomes of a branch, by the integer that its target denotes. Any names of registers and any
target can be operands of a branch, and nothing else is ever read as such. -/
theorem assemble_branch_by_target {d : Definition} (hd : d ∈ Catalog.definitions)
    (hname : d.mnemonic ∈ Kind.branch.mnemonics) :
    (∀ a b t body (rs rt : Register), (a, rs.number) ∈ Register.names →
      (b, rt.number) ∈ Register.names → IsTarget t → Joined [a, b, t] body →
      (Operands.read (some body) d.template).outcome =
        .ok { rs := some rs, rt := some rt, label := some t }) ∧
    ∀ operands ops, (Operands.read operands d.template).outcome = .ok ops →
      ∃ rs rt t, ops = { rs := some rs, rt := some rt, label := some t } ∧
        ((∀ radix v, ¬ Denotes radix t v) →
          (assemble d ops).outcome = .error (.unresolvedLabel t)) ∧
        ∀ radix v, Denotes radix t v →
          (-32768 ≤ v → v ≤ 32767 → (assemble d ops).outcome = .ok
            ⟨d.opcode ++ Text.fixedWidth 2 5 rs.number ++ Text.fixedWidth 2 5 rt.number ++
                Text.fixedWidth 2 16 (v % 2 ^ 16).toNat,
              { opcode := d.opcode, rs := some (Text.fixedWidth 2 5 rs.number),
                rt := some (Text.fixedWidth 2 5 rt.number),
                immediate := some (Text.fixedWidth 2 16 (v % 2 ^ 16).toNat) }⟩) ∧
          (v < -32768 ∨ 32767 < v → (assemble d ops).outcome =
            .error (.outOfRange (max (-(2 ^ 63 - 1)) (min (2 ^ 63 - 1) v)) (-32768) 32767)) := by
  have hkind := Catalog.kind_eq_of_mem hd hname
  constructor
  · intro a b t body rs rt hrs hrt ht hbody
    exact read_branch hd hkind hrs hrt ht hbody
  intro operands ops hread
  have hsupplied := supplied_of_read hd hread
  rw [hkind] at hsupplied
  cases hsupplied with
  | @branch rs rt t ht =>
    refine ⟨rs, rt, t, rfl, ?_, ?_⟩
    · intro hsymbol
      exact outcome_assemble_of_fail (fieldsOf_branch_of_not_denotes hkind ht hsymbol)
    intro radix v hv
    constructor
    · intro hlow hhigh
      exact outcome_assemble_branch_of_encodes hd hkind rs rt hv hlow hhigh
    · intro hout
      have htarget := resolveTarget_of_denotes hv
      apply outcome_assemble_of_fail
      exact fieldsOf_branch_of_not_mem hkind htarget (by omega)

/-- A number far too small is refused with the smallest value, and the same number with a register
behind it is a symbol. -/
theorem assemble_branch_by_target_oversized :
    ∃ d ∈ Catalog.definitions, d.mnemonic = "bne".toList ∧
      (∃ ops, (Operands.read (some "$t0, $0, -99999999999999999999".toList) d.template).outcome =
          .ok ops ∧
        (assemble d ops).outcome = .error (.outOfRange (-(2 ^ 63 - 1)) (-32768) 32767)) ∧
      ∃ ops, (Operands.read (some "$t0, $0, -99999999999999999999$ra".toList) d.template).outcome =
          .ok ops ∧
        (assemble d ops).outcome = .error (.unresolvedLabel "-99999999999999999999$ra".toList) := by
  obtain ⟨d, hd, hname⟩ : ∃ d ∈ Catalog.definitions, d.mnemonic = "bne".toList := by
    decide +kernel
  have hbranch : d.mnemonic ∈ Kind.branch.mnemonics := by simp [hname, Kind.mnemonics]
  have hrs : ("$t0".toList, (⟨8⟩ : Register).number) ∈ Register.names := by decide
  have hrt : ("$0".toList, (⟨0⟩ : Register).number) ∈ Register.names := by decide
  have hspace : Text.Blank [' '] := by decide
  have hjoined : ∀ t, Joined ["$t0".toList, "$0".toList, t] ("$t0, $0, ".toList ++ t) := by
    intro t
    have hlast : Joined ["$0".toList, t] _ := .cons Text.blank_nil hspace (.single t)
    have hall : Joined ["$t0".toList, "$0".toList, t] _ := .cons Text.blank_nil hspace hlast
    simpa using hall
  have hdenotes : Denotes .decimal "-99999999999999999999".toList (-99999999999999999999) :=
    Numeral.denotes_of_read? (n := ⟨true, .decimal, "99999999999999999999".toList⟩) (by decide)
  have hsymbol : ∀ radix v, ¬ Denotes radix "-99999999999999999999$ra".toList v := by
    intro radix v h
    obtain ⟨n, hn, -⟩ := Numeral.read?_of_denotes h
    have hnone : Numeral.read? "-99999999999999999999$ra".toList = none := by decide
    rw [hnone] at hn
    cases hn
  have hvisible : "-99999999999999999999$ra".toList.all
      (fun c => Neutral c ∧ Text.isBlank c = false) = true := by decide
  have htarget : IsTarget "-99999999999999999999$ra".toList :=
    ⟨by decide, fun c hc => by simpa using List.all_eq_true.mp hvisible c hc⟩
  obtain ⟨hreads, hverdict⟩ := assemble_branch_by_target hd hbranch
  have hread := hreads _ _ _ _ _ _ hrs hrt (isTarget_of_denotes hdenotes) (hjoined _)
  have hread' := hreads _ _ _ _ _ _ hrs hrt htarget (hjoined _)
  obtain ⟨_, _, _, ⟨⟩, -, hnumeral⟩ := hverdict _ _ hread
  obtain ⟨_, _, _, ⟨⟩, hunresolved, -⟩ := hverdict _ _ hread'
  exact ⟨d, hd, hname, ⟨_, hread, (hnumeral _ _ hdenotes).2 (by omega)⟩,
    _, hread', hunresolved hsymbol⟩

/-! Jumps to targets of any size. A target below `2 ^ 63` is judged by the integer that it denotes:
by its sign first, then by its alignment, then by its size. From `2 ^ 63` on the integer is cut off
to `2 ^ 63 - 1`, which is no multiple of four, so every such target counts as misaligned. -/

theorem read_jump {d : Definition} (hd : d ∈ Catalog.definitions) (hformat : d.format = .jump)
    {t : Text} (ht : IsTarget t) :
    (Operands.read (some t) d.template).outcome = .ok { label := some t } := by
  obtain ⟨roles, hmem, hroles⟩ := (Catalog.wellFormed hd).template
  have hkind : d.kind = .jump := Definition.kind_eq_iff.mpr hformat
  obtain rfl : roles = [.targetAddress] := by simpa [hkind, Kind.templates] using hmem
  have hpieces : pieces t = [t] := by
    rw [pieces, cut_of_uncut ht.closed.1, List.map_singleton, Text.trim_of_trimmed ht.trimmed]
  rw [read_eq_ok_iff hroles]
  refine ⟨t, rfl, by simp [hpieces], ?_⟩
  rw [hpieces]
  exact ⟨_, ⟨ht, rfl⟩, rfl⟩

/-- The cut-off of a magnitude keeps the sign and the small integers. -/
theorem resolveTarget_cases {radix : Radix} {t : Text} {v : Int} (h : Denotes radix t v) :
    (v < 0 → resolveTarget t = .ok (max (-(2 ^ 63 - 1)) v)) ∧
      (0 ≤ v → resolveTarget t = .ok (min (2 ^ 63 - 1) v)) := by
  rw [resolveTarget_of_denotes h]
  constructor <;> intro hsign <;> congr 1 <;> omega

theorem outcome_assemble_jump_of_encodes {d : Definition} (hd : d ∈ Catalog.definitions)
    (hformat : d.format = .jump) {radix : Radix} {t : Text} {v : Int} (h : Denotes radix t v)
    (hlow : 0 ≤ v) (hhigh : v < 2 ^ 28) (haligned : 4 ∣ v) :
    (assemble d { label := some t }).outcome = .ok
      ⟨d.opcode ++ Text.fixedWidth 2 26 (v / 4).toNat,
        { opcode := d.opcode, address := some (Text.fixedWidth 2 26 (v / 4).toNat) }⟩ := by
  have hencodes := Encodes.jump (d := d) h hlow hhigh haligned
  have hkind : d.kind = .jump := Definition.kind_eq_iff.mpr hformat
  rw [← hkind] at hencodes
  have hsmall : (v / 4).toNat < 2 ^ 26 := by omega
  rw [assemble_of_encodes hd hencodes, Bits.ofNat_eq_fixedWidth hsmall]
  simp [Fields.concat, Fields.entries]

/-- What becomes of a jump, by the integer that its target denotes. -/
theorem assemble_jump_by_target {d : Definition} (hd : d ∈ Catalog.definitions)
    (hformat : d.format = .jump) {t : Text} (ht : IsTarget t) :
    ∃ ops, (Operands.read (some t) d.template).outcome = .ok ops ∧
      ((∀ radix v, ¬ Denotes radix t v) → (assemble d ops).outcome = .error (.unresolvedLabel t)) ∧
      ∀ radix v, Denotes radix t v →
        (v < 0 → (assemble d ops).outcome = .error (.negativeAddress (max (-(2 ^ 63 - 1)) v))) ∧
        (0 ≤ v → ¬ 4 ∣ v →
          (assemble d ops).outcome = .error (.misalignedAddress (min (2 ^ 63 - 1) v))) ∧
        (2 ^ 63 ≤ v → (assemble d ops).outcome = .error (.misalignedAddress (2 ^ 63 - 1))) ∧
        (2 ^ 28 ≤ v → v < 2 ^ 63 → 4 ∣ v →
          (assemble d ops).outcome = .error (.outOfRange (v / 4) 0 (2 ^ 26 - 1))) ∧
        (0 ≤ v → v < 2 ^ 28 → 4 ∣ v → (assemble d ops).outcome = .ok
          ⟨d.opcode ++ Text.fixedWidth 2 26 (v / 4).toNat,
            { opcode := d.opcode, address := some (Text.fixedWidth 2 26 (v / 4).toNat) }⟩) := by
  refine ⟨{ label := some t }, read_jump hd hformat ht, ?_, ?_⟩
  · intro hsymbol
    exact outcome_assemble_of_fail (fieldsOf_jump_of_not_denotes hformat ht hsymbol)
  intro radix v hv
  obtain ⟨hnegative, hpositive⟩ := resolveTarget_cases hv
  refine ⟨?_, ?_, ?_, ?_, ?_⟩
  · intro hsign
    apply outcome_assemble_of_fail
    exact fieldsOf_jump_of_negative hformat (hnegative hsign) (by omega)
  · intro hlow hmisaligned
    apply outcome_assemble_of_fail
    -- the largest magnitude is misaligned itself, so the cut-off makes no difference here
    exact fieldsOf_jump_of_misaligned hformat (hpositive hlow) (by omega) (by omega)
  · intro hlarge
    have htarget := hpositive (by omega)
    rw [min_eq_left (by omega)] at htarget
    apply outcome_assemble_of_fail
    exact fieldsOf_jump_of_misaligned hformat htarget (by omega) (by omega)
  · intro hlarge hhigh haligned
    have htarget := hpositive (by omega)
    rw [min_eq_right (by omega)] at htarget
    apply outcome_assemble_of_fail
    exact fieldsOf_jump_of_large hformat htarget haligned hlarge
  · intro hlow hhigh haligned
    exact outcome_assemble_jump_of_encodes hd hformat hv hlow hhigh haligned

/-- The first address that is too large is out of range. -/
theorem assemble_jump_by_target_large :
    ∃ d ∈ Catalog.definitions, d.mnemonic = "jal".toList ∧ d.format = .jump ∧
      Denotes .hexadecimal "0x10000000".toList (2 ^ 28) ∧
      ∃ ops, (Operands.read (some "0x10000000".toList) d.template).outcome = .ok ops ∧
        (assemble d ops).outcome = .error (.outOfRange (2 ^ 26) 0 (2 ^ 26 - 1)) := by
  obtain ⟨d, hd, hname, hformat⟩ : ∃ d ∈ Catalog.definitions,
      d.mnemonic = "jal".toList ∧ d.format = .jump := by decide +kernel
  have hdenotes : Denotes .hexadecimal "0x10000000".toList (2 ^ 28) :=
    Numeral.denotes_of_read? (n := ⟨false, .hexadecimal, "10000000".toList⟩) (by decide)
  obtain ⟨ops, hread, -, hclasses⟩ :=
    assemble_jump_by_target hd hformat (isTarget_of_denotes hdenotes)
  obtain ⟨-, -, -, hrange, -⟩ := hclasses _ _ hdenotes
  exact ⟨d, hd, hname, hformat, hdenotes, ops, hread,
    hrange (by omega) (by omega) (by omega)⟩

/-- A multiple of four that is far too large and is refused as misaligned. -/
theorem aligned_jump_misaligned :
    ∃ d ∈ Catalog.definitions, d.mnemonic = "j".toList ∧
      Denotes .hexadecimal "0x8000000000000000".toList (2 ^ 63) ∧ (4 : Int) ∣ 2 ^ 63 ∧
      ∃ ops, (Operands.read (some "0x8000000000000000".toList) d.template).outcome = .ok ops ∧
        (assemble d ops).outcome = .error (.misalignedAddress (2 ^ 63 - 1)) := by
  obtain ⟨d, hd, hname, hformat⟩ : ∃ d ∈ Catalog.definitions,
      d.mnemonic = "j".toList ∧ d.format = .jump := by decide +kernel
  have hdenotes : Denotes .hexadecimal "0x8000000000000000".toList (2 ^ 63) :=
    Numeral.denotes_of_read? (n := ⟨false, .hexadecimal, "8000000000000000".toList⟩) (by decide)
  have hread := read_jump hd hformat (isTarget_of_denotes hdenotes)
  have htarget := (resolveTarget_cases hdenotes).2 (by omega)
  rw [min_eq_left (by omega)] at htarget
  have hfields := fieldsOf_jump_of_misaligned hformat htarget (by omega) (by omega)
  exact ⟨d, hd, hname, hdenotes, by omega, _, hread, outcome_assemble_of_fail hfields⟩

end MipsEncoding.Assembly
