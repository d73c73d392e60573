import MipsEncoding.Proofs.OperandPieces

/-! The places of the pieces in an operand text. One pass over the characters with a byte offset, the
start of the current piece and the number of open parentheses finds where each piece begins and ends
(`spans`). These offsets lie between characters, and the pieces there are the texts that commas put
together: closed ones and a last one that may leave parentheses open. Every text is put together from
such texts in one way. -/
namespace MipsEncoding.Operands
open Text

/-- Whether the character at a place is a comma outside parentheses, in a text that starts inside
`depth` parentheses. -/
def isOuterComma (depth : Nat) (t : Text) (place : Nat) : Bool :=
  t[place]? == some ',' && depthOf depth (t.take place) == 0

/-- The number of commas outside parentheses. -/
def outerCommas (depth : Nat) (t : Text) : Nat :=
  (List.range t.length).countP (isOuterComma depth t)

/-- Where the pieces begin and end in bytes, from `offset` on: the piece that the text is in began at
`start`, and `depth` parentheses are open. -/
def spansFrom (start offset depth : Nat) : Text → List (Nat × Nat)
  | [] => [(start, offset)]
  | c :: t =>
    if c == ',' && depth == 0 then
      (start, offset) :: spansFrom (offset + 1) (offset + c.utf8Size) depth t
    else spansFrom start (offset + c.utf8Size) (depthAfter depth c) t

def spans (t : Text) : List (Nat × Nat) := spansFrom 0 0 0 t

/-- A part of a text and the byte offsets of its ends, which both lie between characters. -/
inductive SliceAt : Text → Nat × Nat → Text → Prop
  | intro (left slice right : Text) :
      SliceAt (left ++ slice ++ right) (byteSize left, byteSize left + byteSize slice) slice

theorem outerCommas_cons (depth : Nat) (c : Char) (t : Text) :
    outerCommas depth (c :: t) =
      outerCommas (depthAfter depth c) t + if c == ',' && depth == 0 then 1 else 0 := by
  have hrest : isOuterComma depth (c :: t) ∘ Nat.succ = isOuterComma (depthAfter depth c) t := by
    funext place
    simp [isOuterComma, depthOf]
  have hfirst : isOuterComma depth (c :: t) 0 = (c == ',' && depth == 0) := by
    simp [isOuterComma, depthOf]
  rw [outerCommas, List.length_cons, List.range_succ_eq_map, List.countP_cons, List.countP_map, hrest,
    hfirst, outerCommas]

/-- Each comma outside parentheses starts one more piece. -/
theorem length_cut (depth : Nat) (t : Text) : (cut depth t).length = outerCommas depth t + 1 := by
  induction t generalizing depth with
  | nil => rfl
  | cons c t ih =>
    rw [cut, outerCommas_cons]
    split
    · next h =>
      obtain ⟨rfl, rfl⟩ : c = ',' ∧ depth = 0 := by simpa using h
      rw [List.length_cons, ih]
      rfl
    · rw [List.length_modifyHead, ih, Nat.add_zero]

theorem modifyHead_nil_append (ts : List Text) : ts.modifyHead ([] ++ ·) = ts :=
  congrFun List.modifyHead_id ts

/-- One pass from the middle of a text: `left` lies before the last cut, and `current` is what the pass
has read of the piece that it is in. -/
theorem slices_spansFrom (left current rest : Text) (depth : Nat) :
    List.Forall₂ (SliceAt (left ++ current ++ rest))
      (spansFrom (byteSize left) (byteSize left + byteSize current) depth rest)
      ((cut depth rest).modifyHead (current ++ ·)) := by
  induction rest generalizing left current depth with
  | nil =>
    have hcurrent := SliceAt.intro left current []
    rw [spansFrom, cut, List.modifyHead_cons, List.append_nil current]
    exact .cons hcurrent .nil
  | cons c rest ih =>
    have hcurrent := SliceAt.intro left current (c :: rest)
    rw [spansFrom, cut]
    split
    · next h =>
      obtain ⟨rfl, rfl⟩ : c = ',' ∧ depth = 0 := by simpa using h
      -- a comma is one byte long, so the next piece begins where the next character does
      have hcomma : ','.utf8Size = 1 := rfl
      have hmore := ih (left ++ current ++ [',']) [] 0
      rw [modifyHead_nil_append] at hmore
      rw [List.modifyHead_cons, List.append_nil]
      refine .cons hcurrent ?_
      simpa [hcomma, Nat.add_assoc] using hmore
    · have hmore := ih left (current ++ [c]) (depthAfter depth c)
      rw [List.modifyHead_modifyHead]
      simpa [Function.comp_def, Nat.add_assoc] using hmore

theorem slices_spans (t : Text) : List.Forall₂ (SliceAt t) (spans t) (cut 0 t) := by
  have h := slices_spansFrom [] [] t 0
  rwa [modifyHead_nil_append] at h

theorem segments_cons_iff {p : Text} {ps : List Text} (hne : ps ≠ []) :
    Segments 0 (p :: ps) ↔ Closed p ∧ Segments 0 ps := by
  constructor
  · intro h
    cases h with
    | single => exact absurd rfl hne
    | cons uncut closes more => exact ⟨⟨uncut, closes⟩, more⟩
  · intro h
    exact .cons h.1.1 h.1.2 h.2

theorem segments_append_singleton_iff {closed : List Text} {last : Text} :
    Segments 0 (closed ++ [last]) ↔ (∀ p ∈ closed, Closed p) ∧ Uncut 0 last := by
  induction closed with
  | nil =>
    constructor
    · intro h
      cases h with
      | single uncut => exact ⟨by simp, uncut⟩
      | cons _ _ more => exact absurd rfl more.ne_nil
    · intro h
      exact .single h.2
  | cons p closed ih =>
    rw [List.cons_append, segments_cons_iff (by simp), ih, List.forall_mem_cons, and_assoc]

/-- A text is cut into closed texts and a last one exactly if commas put it together from them. -/
theorem cut_eq_append_singleton_iff {t last : Text} {closed : List Text} :
    cut 0 t = closed ++ [last] ↔
      ((∀ p ∈ closed, Closed p) ∧ Uncut 0 last) ∧ [','].intercalate (closed ++ [last]) = t := by
  rw [cut_eq_iff, segments_append_singleton_iff]

/-- Cutting and joining are inverse to each other. Closed texts and a last one that may leave
parentheses open come back from the text that commas put together from them, without the blanks
around them. Every text is put together from such texts in one way: it has one more of them than it
has commas outside parentheses, and each stands between two byte offsets that lie between
characters. -/
theorem pieces_inverts_join :
    (∀ closed last, (∀ p ∈ closed, Closed p) → Uncut 0 last →
        pieces ([','].intercalate (closed ++ [last])) = (closed ++ [last]).map trim) ∧
      ∀ t, ∃ closed last, (∀ p ∈ closed, Closed p) ∧ Uncut 0 last ∧
        [','].intercalate (closed ++ [last]) = t ∧
        (∀ closed' last', (∀ p ∈ closed', Closed p) → Uncut 0 last' →
          [','].intercalate (closed' ++ [last']) = t → closed' = closed ∧ last' = last) ∧
        (pieces t).length = outerCommas 0 t + 1 ∧
        List.Forall₂ (SliceAt t) (spans t) (closed ++ [last]) := by
  constructor
  · intro closed last hclosed hlast
    have hcut := cut_eq_append_singleton_iff.mpr ⟨⟨hclosed, hlast⟩, rfl⟩
    rw [pieces, hcut]
  · intro t
    obtain ⟨closed, last, hcut⟩ : ∃ closed last, cut 0 t = closed ++ [last] :=
      ⟨_, _, (List.dropLast_concat_getLast (cut_ne_nil 0 t)).symm⟩
    obtain ⟨⟨hclosed, hlast⟩, hjoin⟩ := cut_eq_append_singleton_iff.mp hcut
    refine ⟨closed, last, hclosed, hlast, hjoin, ?_, ?_, ?_⟩
    · intro closed' last' hclosed' hlast' hjoin'
      have hcut' := cut_eq_append_singleton_iff.mpr ⟨⟨hclosed', hlast'⟩, hjoin'⟩
      exact List.append_singleton_inj.mp (hcut'.symm.trans hcut)
    · rw [pieces, List.length_map, length_cut]
    · rw [← hcut]
      exact slices_spans t

/-- A parenthesis that closes nothing does not hold the next comma, one that is never closed holds all
commas behind it, and letters of more than one byte move the offsets. -/
theorem pieces_inverts_join_unbalanced :
    pieces "\u00E9) ,4(a,b),(\u00DF, c".toList =
        ["\u00E9)".toList, "4(a,b)".toList, "(\u00DF, c".toList] ∧
      List.Forall₂ (SliceAt "\u00E9) ,4(a,b),(\u00DF, c".toList) [(0, 4), (5, 11), (12, 18)]
        ["\u00E9) ".toList, "4(a,b)".toList, "(\u00DF, c".toList] := by
  have hclosed : ∀ p ∈ ["\u00E9) ".toList, "4(a,b)".toList], Closed p := by
    simp only [Closed, List.forall_mem_cons]
    decide
  have hlast : Uncut 0 "(\u00DF, c".toList := by decide
  have hjoin : [','].intercalate (["\u00E9) ".toList, "4(a,b)".toList] ++ ["(\u00DF, c".toList]) =
      "\u00E9) ,4(a,b),(\u00DF, c".toList := by decide +kernel
  have htrim : (["\u00E9) ".toList, "4(a,b)".toList] ++ ["(\u00DF, c".toList]).map trim =
      ["\u00E9)".toList, "4(a,b)".toList, "(\u00DF, c".toList] := by decide +kernel
  have hspans : spans "\u00E9) ,4(a,b),(\u00DF, c".toList = [(0, 4), (5, 11), (12, 18)] := by
    decide +kernel
  obtain ⟨hpieces, hsplit⟩ := pieces_inverts_join
  obtain ⟨closed, last, -, -, -, hunique, -, hslices⟩ :=
    hsplit "\u00E9) ,4(a,b),(\u00DF, c".toList
  obtain ⟨rfl, rfl⟩ := hunique _ _ hclosed hlast hjoin
  have hfound := hpieces _ _ hclosed hlast
  rw [hjoin, htrim] at hfound
  rw [hspans] at hslices
  exact ⟨hfound, hslices⟩

end MipsEncoding.Operands
