import MipsEncoding.Proofs.Layouts
import MipsEncoding.Proofs.Literals
import MipsEncoding.Proofs.OperandGrammar

/-! Why operands are refused. A wrong number of pieces comes before everything else, then the first
unknown name in the template, then the leftmost piece that its role refuses. The role and the piece
decide the cause (`Blames`), which quotes the piece as it stands between its commas. -/
namespace MipsEncoding

theorem Role.ofName_eq_error_iff {name : Text} {e : OperandError} :
    ofName name = .error e ↔ (∀ role : Role, name ≠ role.name) ∧ e = .unknownRole name := by
  unfold ofName
  split
  · next role hfind =>
    have hname : role.name = name := by simpa using List.find?_some hfind
    simp only [reduceCtorEq, false_iff, not_and]
    intro hunknown
    exact absurd hname.symm (hunknown role)
  · next hnone =>
    have hunknown : ∀ role : Role, name ≠ role.name := by
      intro role hname
      have hrole := List.find?_eq_none.mp hnone role (by cases role <;> simp [all])
      simp [hname] at hrole
    simp [hunknown, eq_comm]

/-- The roles of a template fail for the first part that is no name of a role. -/
theorem Template.roles_eq_error_iff {template : Text} {e : OperandError} :
    roles template = .error e ↔
      ∃ name, Leftmost (fun name => ∀ role : Role, name ≠ role.name)
        ((template.splitOn ',').map Text.trim) name ∧ e = .unknownRole name := by
  have hmap : roles template = ((template.splitOn ',').map Text.trim).mapM Role.ofName := by
    rw [List.mapM_map]
    rfl
  have hunknown : ∀ name : Text, (∃ e, Role.ofName name = .error e) ↔ ∀ role : Role, name ≠ role.name := by
    intro name
    simp only [Role.ofName_eq_error_iff, exists_and_left, exists_eq, and_true]
  rw [hmap, mapM_eq_error_iff]
  simp only [hunknown]
  refine exists_congr fun name => and_congr_right fun hname => ?_
  rw [Role.ofName_eq_error_iff]
  exact and_iff_right hname.holds

theorem Role.eq_name_of_ofName {name : Text} {role : Role} (h : ofName name = .ok role) :
    name = role.name := by
  unfold ofName at h
  split at h
  · next found hfind =>
    cases h
    have hname : role.name = name := by simpa using List.find?_some hfind
    exact hname.symm
  · cases h

/-- The roles of a template are those that its parts name. -/
theorem Template.names_of_roles {template : Text} {roles : List Role}
    (h : Template.roles template = .ok roles) :
    (template.splitOn ',').map Text.trim = roles.map Role.name := by
  have hparts := mapM_eq_ok_iff.mp h
  rw [parts] at hparts
  clear h
  generalize template.splitOn ',' = names at hparts ⊢
  induction names generalizing roles with
  | nil =>
    rw [List.map_nil, eq_comm, List.map_eq_nil_iff] at hparts
    rw [hparts, List.map_nil, List.map_nil]
  | cons name names ih =>
    cases roles with
    | nil => cases hparts
    | cons role roles =>
      obtain ⟨hname, hnames⟩ := List.cons_eq_cons.mp hparts
      rw [List.map_cons, List.map_cons, Role.eq_name_of_ofName hname, ih hnames]

theorem Literal.read_eq_numberTooLarge_iff {t : Text} :
    read t = .error .numberTooLarge ↔ FirstRefused .numberTooLarge t := by
  rw [← Token.ofText_eq_error_iff]
  unfold read
  split <;> simp_all

namespace Operands
open Text

/-- The pieces that an operand text is made of: none without a text, else the texts between the
commas outside parentheses, without blanks around them. -/
inductive MadeOf : Option Text → List Text → Prop
  | none : MadeOf none []
  | some {segments : List Text} (outside : Segments 0 segments) :
      MadeOf (some ([','].intercalate segments)) (segments.map trim)

/-- A shift amount that is a number, or would be one if it did not overflow. -/
def IsShiftNumber (piece : Text) : Prop :=
  (∃ v, Denotes .decimal piece v) ∨ FirstRefused .numberTooLarge piece

/-- The cause for which a role refuses a piece: its kind follows from the role, and it quotes the
piece. A shift amount that is a number counts as out of range. -/
def Blames (role : Role) (piece : Text) (e : OperandError) : Prop :=
  match role with
  | .rd | .rs | .rt => e = .notARegister piece
  | .immediate => e = .notAnImmediate piece
  | .shamt => IsShiftNumber piece ∧ e = .shiftOutOfRange piece ∨
      ¬ IsShiftNumber piece ∧ e = .notAnImmediate piece
  | .label | .targetAddress => e = .notATarget piece
  | .offsetBase => e = .notAMemoryOperand piece

theorem madeOf_iff {operands : Option Text} {ps : List Text} :
    MadeOf operands ps ↔ found operands = ps := by
  constructor
  · intro h
    cases h with
    | none => rfl
    | some outside => rw [found, pieces, outside.cut_intercalate]
  · intro h
    subst h
    cases operands with
    | none => exact .none
    | some t =>
      have hmade := MadeOf.some (segments_cut 0 t)
      rwa [intercalate_cut] at hmade

theorem Blames.unique {role : Role} {piece : Text} {e e' : OperandError} (h : Blames role piece e)
    (h' : Blames role piece e') : e = e' := by
  cases role with
  | rd | rs | rt | immediate | label | targetAddress | offsetBase => exact h.trans h'.symm
  | shamt =>
    rcases h with ⟨hnumber, rfl⟩ | ⟨hnumber, rfl⟩ <;> rcases h' with ⟨hnumber', rfl⟩ | ⟨hnumber', rfl⟩
    · rfl
    · exact absurd hnumber hnumber'
    · exact absurd hnumber' hnumber
    · rfl

theorem blames_of_readShiftAmount {piece : Text} (ht : Trimmed piece) {e : OperandError}
    (h : readShiftAmount piece = .error e) : Blames .shamt piece e := by
  unfold readShiftAmount at h
  split at h
  · next value hread =>
    split at h <;> cases h
    exact .inl ⟨.inl ⟨value, ((read_number_iff ht).mp hread).1⟩, rfl⟩
  · next hread =>
    cases h
    exact .inl ⟨.inr (Literal.read_eq_numberTooLarge_iff.mp hread), rfl⟩
  · next hnumber hlarge =>
    cases h
    refine .inr ⟨?_, rfl⟩
    rintro (⟨v, hv⟩ | hrefused)
    · have hread := Literal.read_of_denotes hv
      split at hread
      · exact hnumber v hread
      · exact hlarge hread
    · exact hlarge (Literal.read_eq_numberTooLarge_iff.mpr hrefused)

theorem blames_of_assign {ops : Operands} {role : Role} {piece : Text} (ht : Trimmed piece)
    {e : OperandError} (h : ops.assign role piece = .error e) : Blames role piece e := by
  cases role with
  | rd | rs | rt =>
    rw [assign, map_eq_error_iff, readRegister] at h
    split at h <;> cases h
    rfl
  | immediate =>
    rw [assign, map_eq_error_iff, readImmediate] at h
    split at h <;> cases h
    rfl
  | shamt =>
    rw [assign, map_eq_error_iff] at h
    exact blames_of_readShiftAmount ht h
  | label | targetAddress =>
    rw [assign, map_eq_error_iff, readTarget] at h
    split at h <;> cases h
    rfl
  | offsetBase =>
    rw [assign, map_eq_error_iff, readMemoryOperand] at h
    split at h <;> cases h
    rfl

/-- A trimmed piece is refused exactly if its role does not accept it. -/
theorem assign_eq_error_iff {ops : Operands} {role : Role} {piece : Text} (ht : Trimmed piece)
    {e : OperandError} :
    ops.assign role piece = .error e ↔ ¬ Accepts role piece ∧ Blames role piece e := by
  constructor
  · intro h
    refine ⟨?_, blames_of_assign ht h⟩
    intro haccepts
    obtain ⟨ops', hfills⟩ := (accepts_iff ops).mp haccepts
    rw [(assign_eq_ok_iff ht).mpr hfills] at h
    cases h
  · rintro ⟨hrefuses, hblames⟩
    cases hassign : ops.assign role piece with
    | ok ops' => exact absurd ((accepts_iff ops).mpr ⟨ops', (assign_eq_ok_iff ht).mp hassign⟩) hrefuses
    | error e' => rw [(blames_of_assign ht hassign).unique hblames]

/-- Filling the slots fails for the leftmost piece that its role refuses. -/
theorem fill_eq_error_iff {ops : Operands} {assigned : List (Role × Text)}
    (ht : ∀ entry ∈ assigned, Trimmed entry.2) {e : OperandError} :
    (fill ops assigned).outcome = .error e ↔ ∃ role piece,
      Leftmost (fun entry : Role × Text => ¬ Accepts entry.1 entry.2) assigned (role, piece) ∧
        Blames role piece e := by
  induction assigned generalizing ops with
  | nil =>
    constructor
    · intro h
      simp [fill] at h
    · rintro ⟨role, piece, hleftmost, -⟩
      cases hleftmost
  | cons entry rest ih =>
    obtain ⟨role, piece⟩ := entry
    obtain ⟨hpiece, hrest⟩ := List.forall_mem_cons.mp ht
    have hstep : (fill ops ((role, piece) :: rest)).outcome =
        ops.assign role piece >>= fun filled => (fill filled rest).outcome := by
      simp only [fill, Run.outcome_bind, Run.outcome_note, Run.outcome_ofExcept]
      rfl
    rw [hstep, bind_eq_error_iff, assign_eq_error_iff hpiece]
    constructor
    · rintro (⟨hrefuses, hblames⟩ | ⟨filled, hassign, herror⟩)
      · exact ⟨role, piece, .here hrefuses, hblames⟩
      · obtain ⟨role', piece', hleftmost, hblames⟩ := (ih hrest).mp herror
        have haccepts := (accepts_iff ops).mpr ⟨filled, (assign_eq_ok_iff hpiece).mp hassign⟩
        exact ⟨role', piece', .there (not_not.mpr haccepts) hleftmost, hblames⟩
    · rintro ⟨role', piece', hleftmost, hblames⟩
      cases hleftmost with
      | here hrefuses => exact .inl ⟨hrefuses, hblames⟩
      | there haccepts hmore =>
        obtain ⟨filled, hfills⟩ := (accepts_iff ops).mp (not_not.mp haccepts)
        exact .inr ⟨filled, (assign_eq_ok_iff hpiece).mpr hfills,
          (ih hrest).mpr ⟨role', piece', hmore, hblames⟩⟩

/-- No piece is to blame for a wrong number of pieces or for a name in the template. -/
theorem Blames.ne {role : Role} {piece : Text} {e : OperandError} (h : Blames role piece e) :
    (∀ template found, e ≠ .wrongCount template found) ∧ ∀ name, e ≠ .unknownRole name := by
  cases role with
  | rd | rs | rt | immediate | label | targetAddress | offsetBase =>
    obtain rfl := h
    simp
  | shamt => rcases h with ⟨-, rfl⟩ | ⟨-, rfl⟩ <;> simp

section Reading

variable {operands : Option Text} {template : Text}

theorem trimmed_of_mem_zip_found {roles : List Role} :
    ∀ entry ∈ roles.zip (found operands), Trimmed entry.2 := by
  intro entry hentry
  have hpiece := (List.of_mem_zip hentry).2
  cases operands with
  | none => cases hpiece
  | some t => exact trimmed_of_mem_pieces hpiece

theorem outcome_read_of_length_ne (h : (found operands).length ≠ (template.splitOn ',').length) :
    (read operands template).outcome = .error (.wrongCount template (operands.getD [])) := by
  rw [read_eq_found, Template.parts, if_pos h, Run.outcome_fail]

theorem outcome_read_of_length_eq (h : (found operands).length = (template.splitOn ',').length) :
    (read operands template).outcome = Template.roles template >>= fun roles =>
      (fill {} (roles.zip (found operands))).outcome := by
  rw [read_eq_found, Template.parts, if_neg (not_not.mpr h), Run.outcome_bind, Run.outcome_ofExcept]

/-- Once the number of pieces is right, the template and the pieces decide. -/
theorem outcome_read_eq_error_iff (h : (found operands).length = (template.splitOn ',').length)
    {e : OperandError} :
    (read operands template).outcome = .error e ↔ Template.roles template = .error e ∨
      ∃ roles, Template.roles template = .ok roles ∧ ∃ role piece,
        Leftmost (fun entry : Role × Text => ¬ Accepts entry.1 entry.2)
          (roles.zip (found operands)) (role, piece) ∧ Blames role piece e := by
  rw [outcome_read_of_length_eq h, bind_eq_error_iff]
  refine or_congr_right (exists_congr fun roles => and_congr_right fun _ => ?_)
  exact fill_eq_error_iff trimmed_of_mem_zip_found

theorem outcome_read_eq_wrongCount_iff {t t' : Text} :
    (read operands template).outcome = .error (.wrongCount t t') ↔
      (found operands).length ≠ (template.splitOn ',').length ∧ t = template ∧
        t' = operands.getD [] := by
  by_cases hlen : (found operands).length = (template.splitOn ',').length
  · rw [outcome_read_eq_error_iff hlen]
    constructor
    · rintro (hroles | ⟨roles, -, role, piece, -, hblames⟩)
      · obtain ⟨name, -, ⟨⟩⟩ := Template.roles_eq_error_iff.mp hroles
      · exact absurd rfl (hblames.ne.1 t t')
    · rintro ⟨hne, -⟩
      exact absurd hlen hne
  · rw [outcome_read_of_length_ne hlen]
    simp [hlen, eq_comm]

theorem outcome_read_eq_unknownRole_iff
    (h : (found operands).length = (template.splitOn ',').length) {name : Text} :
    (read operands template).outcome = .error (.unknownRole name) ↔
      Leftmost (fun name => ∀ role : Role, name ≠ role.name) ((template.splitOn ',').map trim)
        name := by
  rw [outcome_read_eq_error_iff h, Template.roles_eq_error_iff]
  constructor
  · rintro (⟨name', hleftmost, ⟨⟩⟩ | ⟨roles, -, role, piece, -, hblames⟩)
    · exact hleftmost
    · exact absurd rfl (hblames.ne.2 name)
  · intro hleftmost
    exact .inl ⟨name, hleftmost, rfl⟩

end Reading

/-- What becomes of any operands under any template. The checks come in this order: the number of
pieces, the names in the template, the pieces from left to right. -/
theorem read_error_precedence (operands : Option Text) (template : Text) :
    ∃ ps, MadeOf operands ps ∧ (∀ ps', MadeOf operands ps' → ps' = ps) ∧
      (∀ t t', (read operands template).outcome = .error (.wrongCount t t') ↔
        ps.length ≠ (template.splitOn ',').length ∧ t = template ∧ t' = operands.getD []) ∧
      (ps.length = (template.splitOn ',').length →
        (∀ name, (read operands template).outcome = .error (.unknownRole name) ↔
          Leftmost (fun name => ∀ role : Role, name ≠ role.name)
            ((template.splitOn ',').map trim) name) ∧
        ∀ roles, (template.splitOn ',').map trim = roles.map Role.name →
          (∀ e, (read operands template).outcome = .error e ↔ ∃ role piece,
            Leftmost (fun entry : Role × Text => ¬ Accepts entry.1 entry.2) (roles.zip ps)
              (role, piece) ∧ Blames role piece e) ∧
          ((∃ ops, (read operands template).outcome = .ok ops) ↔ List.Forall₂ Accepts roles ps)) := by
  refine ⟨found operands, madeOf_iff.mpr rfl, fun ps' h => (madeOf_iff.mp h).symm,
    fun t t' => outcome_read_eq_wrongCount_iff, ?_⟩
  intro hlen
  refine ⟨fun name => outcome_read_eq_unknownRole_iff hlen, ?_⟩
  intro roles hnames
  have hroles := roles_of_names hnames
  have hlength : (found operands).length = roles.length := by
    rw [hlen, ← List.length_map (f := trim), hnames, List.length_map]
  constructor
  · intro e
    rw [outcome_read_eq_error_iff hlen, hroles]
    simp only [reduceCtorEq, false_or, Except.ok.injEq, exists_eq_left']
  · rw [← exists_fillsAll_iff hlength {}]
    refine exists_congr fun ops => ?_
    rw [outcome_read_of_length_eq hlen, hroles]
    exact fill_eq_ok_iff trimmed_of_mem_zip_found

/-- A bad piece hides behind another one to its left, and both hide behind an unknown name. -/
theorem read_error_precedence_leftmost :
    (read (some "$t0 , $t10,32".toList) "rd, rt, shamt".toList).outcome =
        .error (.notARegister "$t10".toList) ∧
      (read (some "$t0 , $t10,32".toList) "rd, base, shift".toList).outcome =
        .error (.unknownRole "base".toList) := by
  have hpieces : found (some "$t0 , $t10,32".toList) =
      ["$t0".toList, "$t10".toList, "32".toList] := by decide +kernel
  constructor
  · obtain ⟨ps, hmade, -, -, hread⟩ :=
      read_error_precedence (some "$t0 , $t10,32".toList) "rd, rt, shamt".toList
    obtain rfl := hpieces.symm.trans (madeOf_iff.mp hmade)
    obtain ⟨-, hroles⟩ := hread (by decide)
    obtain ⟨herror, -⟩ := hroles [.rd, .rt, .shamt] (by decide +kernel)
    have hfirst : Accepts .rd "$t0".toList := ⟨8, by decide⟩
    have hsecond : ¬ Accepts .rt "$t10".toList := by
      rintro ⟨n, hn⟩
      have hnames : ∀ entry ∈ Register.names, entry.1 ≠ "$t10".toList := by decide
      exact hnames _ hn rfl
    rw [herror]
    exact ⟨.rt, _, .there (not_not.mpr hfirst) (.here hsecond), rfl⟩
  · obtain ⟨ps, hmade, -, -, hread⟩ :=
      read_error_precedence (some "$t0 , $t10,32".toList) "rd, base, shift".toList
    obtain rfl := hpieces.symm.trans (madeOf_iff.mp hmade)
    obtain ⟨hnames, -⟩ := hread (by decide)
    have hparts : ("rd, base, shift".toList.splitOn ',').map trim =
        ["rd".toList, "base".toList, "shift".toList] := by decide +kernel
    rw [hnames, hparts]
    refine .there ?_ (.here ?_)
    · simpa using ⟨Role.rd, rfl⟩
    · intro role
      cases role <;> decide

end Operands

end MipsEncoding
