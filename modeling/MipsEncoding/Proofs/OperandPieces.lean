import MipsEncoding.Operands.Reading
import MipsEncoding.Proofs.Trimming

/-! Cutting an operand text and putting it together again. A cut is the inverse of putting commas
between texts that no comma cuts and of which all but the last close their parentheses
(`cut_eq_iff`). Blanks around the commas and around the whole text make no difference to the
pieces. -/
namespace MipsEncoding.Operands
open Text

/-- How many parentheses are open after a text. -/
def depthOf (depth : Nat) (t : Text) : Nat := t.foldl depthAfter depth

/-- A text without a comma outside parentheses, read inside `depth` parentheses. -/
def Uncut (depth : Nat) : Text → Prop
  | [] => True
  | c :: t => ¬ (c = ',' ∧ depth = 0) ∧ Uncut (depthAfter depth c) t

instance decidableUncut : (depth : Nat) → (t : Text) → Decidable (Uncut depth t)
  | _, [] => inferInstanceAs (Decidable True)
  | depth, c :: t =>
    have := decidableUncut (depthAfter depth c) t
    inferInstanceAs (Decidable (_ ∧ _))

/-- A text that no comma cuts and that leaves no parenthesis open. -/
def Closed (t : Text) : Prop := Uncut 0 t ∧ depthOf 0 t = 0

/-- A character without a meaning for the cut. -/
def Neutral (c : Char) : Prop := c ≠ ',' ∧ c ≠ '(' ∧ c ≠ ')'

instance (c : Char) : Decidable (Neutral c) := inferInstanceAs (Decidable (_ ∧ _))

/-- Texts that a cut inside `depth` parentheses can yield: no comma cuts any of them, and each but
the last leaves no parenthesis open. -/
inductive Segments : Nat → List Text → Prop
  | single {depth : Nat} {p : Text} (uncut : Uncut depth p) : Segments depth [p]
  | cons {depth : Nat} {p : Text} {ps : List Text} (uncut : Uncut depth p)
      (closes : depthOf depth p = 0) (more : Segments 0 ps) : Segments depth (p :: ps)

/-- Pieces in one text: commas between them, and any blanks around the commas. -/
inductive Joined : List Text → Text → Prop
  | single (piece : Text) : Joined [piece] piece
  | cons {piece w w' rest : Text} {pieces : List Text} (left : Blank w) (right : Blank w')
      (more : Joined pieces rest) : Joined (piece :: pieces) (piece ++ w ++ ',' :: w' ++ rest)

theorem depthOf_append (depth : Nat) (s t : Text) :
    depthOf depth (s ++ t) = depthOf (depthOf depth s) t := List.foldl_append

theorem uncut_append {depth : Nat} {s t : Text} :
    Uncut depth (s ++ t) ↔ Uncut depth s ∧ Uncut (depthOf depth s) t := by
  induction s generalizing depth with
  | nil => simp [Uncut, depthOf]
  | cons c s ih => simp [Uncut, depthOf, ih, and_assoc]

theorem depthAfter_of_neutral {c : Char} (h : Neutral c) (depth : Nat) :
    depthAfter depth c = depth := by
  obtain ⟨-, hopen, hclose⟩ := h
  unfold depthAfter
  split <;> simp_all

theorem depthOf_of_neutral {t : Text} (h : ∀ c ∈ t, Neutral c) (depth : Nat) :
    depthOf depth t = depth := by
  induction t with
  | nil => rfl
  | cons c t ih =>
    have hc := depthAfter_of_neutral (h c (by simp)) depth
    rw [depthOf, List.foldl_cons, hc]
    exact ih fun x hx => h x (by simp [hx])

theorem uncut_of_neutral {t : Text} (h : ∀ c ∈ t, Neutral c) (depth : Nat) : Uncut depth t := by
  induction t with
  | nil => trivial
  | cons c t ih =>
    have hc := h c (by simp)
    refine ⟨fun hcomma => hc.1 hcomma.1, ?_⟩
    rw [depthAfter_of_neutral hc]
    exact ih fun x hx => h x (by simp [hx])

theorem closed_of_neutral {t : Text} (h : ∀ c ∈ t, Neutral c) : Closed t :=
  ⟨uncut_of_neutral h 0, depthOf_of_neutral h 0⟩

theorem Closed.append {s t : Text} (hs : Closed s) (ht : Closed t) : Closed (s ++ t) := by
  refine ⟨uncut_append.mpr ⟨hs.1, ?_⟩, ?_⟩
  · rw [hs.2]
    exact ht.1
  · rw [depthOf_append, hs.2, ht.2]

theorem closed_parens {t : Text} (h : ∀ c ∈ t, Neutral c) : Closed ('(' :: t ++ [')']) := by
  have hdepth := depthOf_of_neutral h 1
  constructor
  · refine ⟨by simp, uncut_append.mpr ⟨uncut_of_neutral h 1, ?_⟩⟩
    simp [Uncut]
  · rw [List.cons_append, depthOf, List.foldl_cons]
    change depthOf 1 (t ++ [')']) = 0
    rw [depthOf_append, hdepth]
    rfl

theorem neutral_of_isBlank {c : Char} (h : isBlank c = true) : Neutral c := by
  refine ⟨?_, ?_, ?_⟩ <;> rintro rfl <;> revert h <;> decide

theorem closed_of_blank {w : Text} (h : Blank w) : Closed w :=
  closed_of_neutral fun c hc => neutral_of_isBlank (h c hc)

theorem cut_append {depth : Nat} {s : Text} (hs : Uncut depth s) (t : Text) :
    cut depth (s ++ t) = (cut (depthOf depth s) t).modifyHead (s ++ ·) := by
  induction s generalizing depth with
  | nil => cases h : cut (depthOf depth []) t <;> simp_all [depthOf]
  | cons c s ih =>
    have hc : ¬ (c == ',' && depth == 0) = true := by simpa using hs.1
    rw [List.cons_append, cut, if_neg hc, ih hs.2]
    obtain ⟨p, ps, hps⟩ := List.exists_cons_of_ne_nil (cut_ne_nil (depthOf (depthAfter depth c) s) t)
    have hd : depthOf depth (c :: s) = depthOf (depthAfter depth c) s := rfl
    simp [hd, hps]

theorem cut_of_uncut {depth : Nat} {s : Text} (hs : Uncut depth s) : cut depth s = [s] := by
  have h := cut_append hs []
  simpa [cut] using h

theorem cut_append_comma {depth : Nat} {s : Text} (hs : Uncut depth s) (hd : depthOf depth s = 0)
    (t : Text) : cut depth (s ++ ',' :: t) = s :: cut 0 t := by
  rw [cut_append hs, hd]
  simp [cut]

theorem intercalate_comma_cons {ps : List Text} (hne : ps ≠ []) (p : Text) :
    [','].intercalate (p :: ps) = p ++ ',' :: [','].intercalate ps := by
  rw [List.intercalate_cons_of_ne_nil hne, List.append_assoc, List.singleton_append]

/-- Commas put the pieces of a cut together again. -/
theorem intercalate_cut (depth : Nat) (t : Text) : [','].intercalate (cut depth t) = t := by
  induction t generalizing depth with
  | nil => rfl
  | cons c t ih =>
    rw [cut]
    split
    · next h =>
      obtain ⟨rfl, -⟩ : c = ',' ∧ depth = 0 := by simpa using h
      rw [intercalate_comma_cons (cut_ne_nil 0 t), ih]
      rfl
    · have hne := cut_ne_nil (depthAfter depth c) t
      have hi := ih (depthAfter depth c)
      obtain ⟨p, ps, hps⟩ := List.exists_cons_of_ne_nil hne
      rw [hps] at hi ⊢
      cases ps with
      | nil => simpa using hi
      | cons q qs =>
        rw [List.intercalate_cons_cons] at hi
        rw [List.modifyHead_cons, List.intercalate_cons_cons, ← hi]
        simp

namespace Segments

variable {depth : Nat} {ps : List Text}

theorem ne_nil (h : Segments depth ps) : ps ≠ [] := by
  cases h <;> simp

theorem of_closed (hne : ps ≠ []) (h : ∀ p ∈ ps, Closed p) : Segments 0 ps := by
  induction ps with
  | nil => exact absurd rfl hne
  | cons p ps ih =>
    obtain ⟨hp, hps⟩ := List.forall_mem_cons.mp h
    cases ps with
    | nil => exact .single hp.1
    | cons q qs => exact .cons hp.1 hp.2 (ih (List.cons_ne_nil q qs) hps)

theorem modifyHead_cons {c : Char} (hc : ¬ (c = ',' ∧ depth = 0))
    (h : Segments (depthAfter depth c) ps) : Segments depth (ps.modifyHead (c :: ·)) := by
  cases h with
  | single uncut => exact .single ⟨hc, uncut⟩
  | cons uncut closes more => exact .cons ⟨hc, uncut⟩ closes more

/-- Blanks at the end of a joined text belong to its last segment. -/
theorem map_trim_cut_append (h : Segments depth ps) {w : Text} (hw : Blank w) :
    (cut depth ([','].intercalate ps ++ w)).map trim = ps.map trim := by
  induction h with
  | @single depth p uncut =>
    have huncut : Uncut depth (p ++ w) :=
      uncut_append.mpr ⟨uncut, uncut_of_neutral (fun c hc => neutral_of_isBlank (hw c hc)) _⟩
    rw [List.intercalate_singleton, cut_of_uncut huncut, List.map_singleton, trim_append_blank hw,
      List.map_singleton]
  | @cons depth p ps uncut closes more ih =>
    rw [intercalate_comma_cons more.ne_nil, List.append_assoc, List.cons_append,
      cut_append_comma uncut closes, List.map_cons, ih, List.map_cons]

theorem cut_intercalate (h : Segments depth ps) : cut depth ([','].intercalate ps) = ps := by
  induction h with
  | single uncut => rw [List.intercalate_singleton, cut_of_uncut uncut]
  | cons uncut closes more ih =>
    rw [intercalate_comma_cons more.ne_nil, cut_append_comma uncut closes, ih]

end Segments

theorem segments_cut (depth : Nat) (t : Text) : Segments depth (cut depth t) := by
  induction t generalizing depth with
  | nil => exact .single trivial
  | cons c t ih =>
    rw [cut]
    split
    · next h =>
      obtain ⟨-, rfl⟩ : c = ',' ∧ depth = 0 := by simpa using h
      exact .cons trivial rfl (ih 0)
    · next h => exact (ih _).modifyHead_cons (by simpa using h)

/-- A text is cut into the only segments that commas put together to it. -/
theorem cut_eq_iff {depth : Nat} {t : Text} {ps : List Text} :
    cut depth t = ps ↔ Segments depth ps ∧ [','].intercalate ps = t := by
  constructor
  · intro h
    subst h
    exact ⟨segments_cut depth t, intercalate_cut depth t⟩
  · intro h
    rw [← h.2, h.1.cut_intercalate]

theorem trimmed_of_mem_pieces {p t : Text} (h : p ∈ pieces t) : Trimmed p := by
  obtain ⟨s, -, rfl⟩ := List.mem_map.mp h
  exact trimmed_trim s

theorem pieces_blank_append {w : Text} (hw : Blank w) (t : Text) : pieces (w ++ t) = pieces t := by
  have hclosed := closed_of_blank hw
  obtain ⟨p, ps, hps⟩ := List.exists_cons_of_ne_nil (cut_ne_nil 0 t)
  rw [pieces, cut_append hclosed.1, hclosed.2, pieces, hps, List.modifyHead_cons, List.map_cons,
    trim_blank_append hw, List.map_cons]

theorem pieces_append_comma {p : Text} (hp : Closed p) (t : Text) :
    pieces (p ++ ',' :: t) = trim p :: pieces t := by
  rw [pieces, cut_append_comma hp.1 hp.2, List.map_cons, ← pieces]

theorem pieces_append_blank {w : Text} (hw : Blank w) (t : Text) : pieces (t ++ w) = pieces t := by
  have h := (segments_cut 0 t).map_trim_cut_append hw
  rwa [intercalate_cut] at h

theorem pieces_trim (t : Text) : pieces (trim t) = pieces t := by
  obtain ⟨w, w', hw, hw', ht⟩ := exists_eq_append_trim t
  conv_rhs => rw [ht, pieces_append_blank hw', pieces_blank_append hw]

theorem pieces_eq_nil_piece_iff {t : Text} : pieces t = [[]] ↔ Blank t := by
  rw [← trim_eq_nil_iff]
  constructor
  · intro h
    obtain ⟨p, hcut, hp⟩ := List.map_eq_singleton_iff.mp h
    have ht := intercalate_cut 0 t
    rw [hcut, List.intercalate_singleton] at ht
    rw [← ht, hp]
  · intro h
    have hblank := closed_of_blank (trim_eq_nil_iff.mp h)
    rw [pieces, cut_of_uncut hblank.1, List.map_singleton, h]

theorem joined_trim {ps : List Text} (hne : ps ≠ []) :
    ∃ w body w', Blank w ∧ Blank w' ∧ Joined (ps.map trim) body ∧
      [','].intercalate ps = w ++ body ++ w' := by
  induction ps with
  | nil => exact absurd rfl hne
  | cons p ps ih =>
    obtain ⟨w, w', hw, hw', hp⟩ := exists_eq_append_trim p
    cases ps with
    | nil =>
      refine ⟨w, trim p, w', hw, hw', Joined.single _, ?_⟩
      simpa using hp
    | cons q qs =>
      obtain ⟨v, body, v', hv, hv', hjoined, hq⟩ := ih (List.cons_ne_nil q qs)
      refine ⟨w, trim p ++ w' ++ ',' :: v ++ body, v', hw, hv', Joined.cons hw' hv hjoined, ?_⟩
      rw [List.intercalate_cons_cons, hq]
      conv_lhs => rw [hp]
      simp

/-- Every operand text is made of its pieces. -/
theorem joined_pieces (t : Text) :
    ∃ w body w', Blank w ∧ Blank w' ∧ Joined (pieces t) body ∧ t = w ++ body ++ w' := by
  obtain ⟨w, body, w', hw, hw', hjoined, ht⟩ := joined_trim (cut_ne_nil 0 t)
  rw [intercalate_cut] at ht
  exact ⟨w, body, w', hw, hw', hjoined, ht⟩

theorem Joined.trimmed {ps : List Text} {body : Text} (h : Joined ps body)
    (hps : ∀ p ∈ ps, Trimmed p ∧ p ≠ []) : Trimmed body ∧ body ≠ [] := by
  induction h with
  | single piece => exact hps piece (by simp)
  | @cons piece w w' rest ps left right more ih =>
    obtain ⟨hpiece, hne⟩ := hps piece (by simp)
    obtain ⟨hrest, hne'⟩ := ih fun p hp => hps p (by simp [hp])
    have htrimmed := hpiece.append_append hrest hne hne' (w ++ ',' :: w')
    refine ⟨?_, by simp [hne]⟩
    simpa using htrimmed

theorem Joined.ne_nil {ps : List Text} {body : Text} (h : Joined ps body) : ps ≠ [] := by
  cases h <;> simp

/-- A text made of segments is cut into these segments. -/
theorem Joined.pieces_eq {ps : List Text} {body : Text} (h : Joined ps body)
    (hps : Segments 0 ps) : pieces body = ps.map trim := by
  induction h with
  | single piece =>
    cases hps with
    | single uncut => rw [pieces, cut_of_uncut uncut]
    | cons _ _ more => exact absurd rfl more.ne_nil
  | @cons piece w w' rest ps left right more ih =>
    cases hps with
    | single => exact absurd rfl more.ne_nil
    | cons uncut closes segments =>
      have hclosed : Closed (piece ++ w) := Closed.append ⟨uncut, closes⟩ (closed_of_blank left)
      simp only [List.append_assoc, List.cons_append]
      rw [← List.append_assoc, pieces_append_comma hclosed, trim_append_blank left,
        pieces_blank_append right, ih segments, List.map_cons]

/-- A text made of closed pieces is cut into these pieces. -/
theorem pieces_of_joined {ps : List Text} {body w w' : Text} (h : Joined ps body)
    (hclosed : ∀ p ∈ ps, Closed p) (htrimmed : ∀ p ∈ ps, Trimmed p) (hw : Blank w)
    (hw' : Blank w') : pieces (w ++ body ++ w') = ps := by
  have htrim : ps.map trim = ps.map id :=
    List.map_congr_left fun p hp => trim_of_trimmed (htrimmed p hp)
  rw [pieces_append_blank hw', pieces_blank_append hw, h.pieces_eq (.of_closed h.ne_nil hclosed),
    htrim, List.map_id]

end MipsEncoding.Operands
