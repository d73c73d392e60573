import MipsEncoding.Text
import MipsEncoding.Text.Lowercase

/-! Lowercase texts. The letters that the table of `lowercaseRuns` leads to are in none of its runs, so
a lowercase text stays as it is when it is put into lower case again. No letter becomes a blank or a
mark of a comment, so putting a text into lower case neither cuts it nor hides a part of it. -/
namespace MipsEncoding.Text

namespace CaseRun

/-- The code point that a run leads to from one of its code points. -/
def image (r : CaseRun) (n : Nat) : Nat := (n + r.offset).toNat

/-- The images of a run lie below or above a range. -/
def misses (r : CaseRun) (ends : Range) : Bool :=
  Nat.blt (r.image r.last) ends.first || Nat.blt ends.last (r.image r.first)

/-- No image of a run lies in another run: they are apart, or the images fall into its gaps. -/
def apart (r r' : CaseRun) : Bool :=
  r.misses ⟨r'.first, r'.last⟩ ||
    (r'.step == 2 && (r.step == 2 || r.first == r.last) && (r.image r.first - r'.first) % 2 == 1)

/-- The images of a run are characters behind the ASCII capitals that no other rule is about. -/
def lands (r : CaseRun) : Bool :=
  Nat.blt 0x5A (r.image r.first) && r.misses ⟨0xD800, 0xDFFF⟩ && Nat.blt (r.image r.last) 0x110000 &&
    r.misses ⟨0x130, 0x130⟩ && r.misses ⟨0x3A3, 0x3A3⟩ && blankRanges.all r.misses

theorem apart_of_mem {r r' : CaseRun} (hr : r ∈ lowercaseRuns) (hr' : r' ∈ lowercaseRuns) :
    r.apart r' = true := by
  have h : (lowercaseRuns.all fun r => lowercaseRuns.all r.apart) = true := by decide +kernel
  exact List.all_eq_true.mp (List.all_eq_true.mp h r hr) r' hr'

theorem lands_of_mem {r : CaseRun} (hr : r ∈ lowercaseRuns) : r.lands = true := by
  have h : lowercaseRuns.all lands = true := by decide +kernel
  exact List.all_eq_true.mp h r hr

theorem covers_iff {r : CaseRun} {n : Nat} :
    r.covers n = true ↔ r.first ≤ n ∧ n ≤ r.last ∧ (n - r.first) % r.step = 0 := by
  simp [covers, and_assoc]

theorem misses_iff {r : CaseRun} {ends : Range} :
    r.misses ends = true ↔ r.image r.last < ends.first ∨ ends.last < r.image r.first := by
  simp [misses, Nat.blt_eq]

section Images

variable {r : CaseRun} {n : Nat}

theorem lt_image_first (hr : r ∈ lowercaseRuns) : 0x5A < r.image r.first := by
  have h := lands_of_mem hr
  simp only [lands, Bool.and_eq_true, Nat.blt_eq] at h
  exact h.1.1.1.1.1

/-- A run moves its code points without changing their distances. -/
theorem image_eq (hr : r ∈ lowercaseRuns) (hn : r.covers n = true) :
    r.image n = r.image r.first + (n - r.first) ∧
      r.image r.last = r.image r.first + (r.last - r.first) := by
  obtain ⟨hlow, hhigh, -⟩ := covers_iff.mp hn
  have hfirst := lt_image_first hr
  unfold image at hfirst ⊢
  omega

theorem not_mem_of_misses {ends : Range} (hr : r ∈ lowercaseRuns) (hn : r.covers n = true)
    (h : r.misses ends = true) : ¬ (ends.first ≤ r.image n ∧ r.image n ≤ ends.last) := by
  obtain ⟨hlow, hhigh, -⟩ := covers_iff.mp hn
  obtain ⟨himage, hlast⟩ := image_eq hr hn
  rw [misses_iff] at h
  omega

theorem covers_image_eq_false {r' : CaseRun} (hr : r ∈ lowercaseRuns) (hr' : r' ∈ lowercaseRuns)
    (hn : r.covers n = true) : r'.covers (r.image n) = false := by
  rw [Bool.eq_false_iff, ne_eq, covers_iff]
  rintro ⟨hlow', hhigh', hstep'⟩
  have hapart := apart_of_mem hr hr'
  rw [apart, Bool.or_eq_true] at hapart
  rcases hapart with hmisses | halternate
  · exact not_mem_of_misses hr hn hmisses ⟨hlow', hhigh'⟩
  · simp only [Bool.and_eq_true, Bool.or_eq_true, beq_iff_eq] at halternate
    obtain ⟨⟨htwo, hsteps⟩, hodd⟩ := halternate
    obtain ⟨hlow, hhigh, hstep⟩ := covers_iff.mp hn
    obtain ⟨himage, -⟩ := image_eq hr hn
    -- both runs go in steps of two, from code points of different parity
    rw [htwo] at hstep'
    rcases hsteps with hsteps | hsteps
    · rw [hsteps] at hstep
      omega
    · omega

/-- An image is a character that none of the special rules is about. -/
theorem toNat_image (hr : r ∈ lowercaseRuns) (hn : r.covers n = true) :
    (Char.ofNat (r.image n)).toNat = r.image n ∧ 0x5A < r.image n ∧ r.image n ≠ 0x130 ∧
      r.image n ≠ 0x3A3 ∧ ∀ ends ∈ blankRanges, ¬ (ends.first ≤ r.image n ∧ r.image n ≤ ends.last) := by
  have h := lands_of_mem hr
  simp only [lands, Bool.and_eq_true, Nat.blt_eq] at h
  obtain ⟨⟨⟨⟨⟨hfirst, hsurrogate⟩, hlast⟩, hcapital⟩, hsigma⟩, hblank⟩ := h
  obtain ⟨hlow, hhigh, -⟩ := covers_iff.mp hn
  obtain ⟨himage, himageLast⟩ := image_eq hr hn
  have hsurrogate := not_mem_of_misses hr hn hsurrogate
  have hcapital := not_mem_of_misses hr hn hcapital
  have hsigma := not_mem_of_misses hr hn hsigma
  have hvalid : (r.image n).isValidChar := by
    unfold Nat.isValidChar
    simp only at hsurrogate
    omega
  have htoNat : (Char.ofNat (r.image n)).toNat = r.image n := by
    rw [Char.ofNat, dif_pos hvalid]
    rfl
  refine ⟨htoNat, by omega, ?_, ?_, ?_⟩
  · simp only at hcapital
    omega
  · simp only at hsigma
    omega
  · intro ends hends
    exact not_mem_of_misses hr hn (List.all_eq_true.mp hblank ends hends)

end Images

end CaseRun

/-- A character of lowercase texts: it is its own lowercase form, wherever it stands. -/
def IsLower (c : Char) : Prop := lowercaseAlone c = [c] ∧ c ≠ '\u03A3'

instance (c : Char) : Decidable (IsLower c) := inferInstanceAs (Decidable (_ ∧ _))

/-- The characters at which a line is cut: blanks and the mark of a comment. -/
def IsCutting (c : Char) : Prop := isBlank c = true ∨ c = '#'

instance (c : Char) : Decidable (IsCutting c) := inferInstanceAs (Decidable (_ ∨ _))

theorem lowercaseAlone_eq_self {c : Char} (hcapital : 0x5A < c.toNat) (hdotted : c.toNat ≠ 0x130)
    (hruns : ∀ r ∈ lowercaseRuns, r.covers c.toNat = false) : lowercaseAlone c = [c] := by
  have hfind : lowercaseRuns.find? (·.covers c.toNat) = none := by
    rw [List.find?_eq_none]
    intro r hr
    simp [hruns r hr]
  have hne : c ≠ '\u0130' := by
    rintro rfl
    exact hdotted rfl
  have hlower : c.toLower = c := by
    refine dif_neg ?_
    rintro ⟨-, hle⟩
    have hle' : c.toNat ≤ 0x5A := hle
    omega
  simp [lowercaseAlone, hfind, hne, hlower]

theorem isLower_image {r : CaseRun} {n : Nat} (hr : r ∈ lowercaseRuns) (hn : r.covers n = true) :
    IsLower (Char.ofNat (r.image n)) ∧ ¬ IsCutting (Char.ofNat (r.image n)) := by
  obtain ⟨htoNat, hcapital, hdotted, hsigma, hblank⟩ := CaseRun.toNat_image hr hn
  generalize Char.ofNat (r.image n) = c at htoNat ⊢
  rw [← htoNat] at hcapital hdotted hsigma hblank
  refine ⟨⟨lowercaseAlone_eq_self hcapital hdotted ?_, ?_⟩, ?_⟩
  · intro r' hr'
    rw [htoNat]
    exact CaseRun.covers_image_eq_false hr hr' hn
  · rintro rfl
    exact hsigma rfl
  · rintro (hc | rfl)
    · obtain ⟨ends, hends, hmem⟩ := (Range.anyContains_iff blankRanges c).mp hc
      exact hblank ends hends hmem
    · exact absurd hcapital (by decide)

theorem ascii_toLower {c : Char} (h : c.toNat < 128) :
    IsLower c.toLower ∧ (IsCutting c.toLower → c.toLower = c) := by
  have hascii : ∀ n < 128, IsLower (Char.ofNat n).toLower ∧
      (IsCutting (Char.ofNat n).toLower → (Char.ofNat n).toLower = Char.ofNat n) := by
    decide +kernel
  simpa only [Char.ofNat_toNat] using hascii c.toNat h

/-- The letters that a dotted capital i and a sigma become. -/
theorem isLower_of_mem_special {d : Char} (h : d ∈ ['i', '\u0307', '\u03C2', '\u03C3']) :
    IsLower d ∧ ¬ IsCutting d := by
  simp only [List.mem_cons, List.not_mem_nil, or_false] at h
  rcases h with rfl | rfl | rfl | rfl <;> decide +kernel

/-- What a character becomes is in lower case, and it is no blank or mark unless it was one. -/
theorem isLower_of_mem_lowercaseAlone {c d : Char} (hc : c ≠ '\u03A3') (hd : d ∈ lowercaseAlone c) :
    IsLower d ∧ (IsCutting d → d = c) := by
  rw [lowercaseAlone] at hd
  split at hd
  · next hascii =>
    obtain rfl := List.mem_singleton.mp hd
    exact ascii_toLower hascii
  · next hascii =>
    split at hd
    · next hdotted =>
      obtain ⟨hlower, hcut⟩ := isLower_of_mem_special (List.mem_append_left ['\u03C2', '\u03C3'] hd)
      exact ⟨hlower, fun h => absurd h hcut⟩
    · next hdotted =>
      split at hd
      · next r hfind =>
        obtain rfl := List.mem_singleton.mp hd
        have hcovers : r.covers c.toNat = true := by simpa using List.find?_some hfind
        obtain ⟨hlower, hcut⟩ := isLower_image (List.mem_of_find?_eq_some hfind) hcovers
        exact ⟨hlower, fun h => absurd h hcut⟩
      · next hfind =>
        obtain rfl := List.mem_singleton.mp hd
        refine ⟨⟨?_, hc⟩, fun _ => rfl⟩
        rw [lowercaseAlone, if_neg hascii, if_neg hdotted, hfind]

theorem isLower_of_mem_lowercaseAfter {reversedBefore t : Text} {d : Char}
    (hd : d ∈ lowercaseAfter reversedBefore t) : IsLower d ∧ (IsCutting d → d ∈ t) := by
  induction t generalizing reversedBefore with
  | nil => cases hd
  | cons c t ih =>
    rw [lowercaseAfter, List.mem_append] at hd
    rcases hd with hd | hd
    · split at hd
      · obtain ⟨hlower, hcut⟩ := isLower_of_mem_special (d := d) (by split at hd <;> simp_all)
        exact ⟨hlower, fun h => absurd h hcut⟩
      · next hsigma =>
        obtain ⟨hlower, hsame⟩ := isLower_of_mem_lowercaseAlone (by simpa using hsigma) hd
        exact ⟨hlower, fun h => hsame h ▸ List.mem_cons_self⟩
    · obtain ⟨hlower, hmem⟩ := ih hd
      exact ⟨hlower, fun h => List.mem_cons_of_mem c (hmem h)⟩

theorem lowercaseAfter_eq_self {t : Text} (h : ∀ c ∈ t, IsLower c) (reversedBefore : Text) :
    lowercaseAfter reversedBefore t = t := by
  induction t generalizing reversedBefore with
  | nil => rfl
  | cons c t ih =>
    obtain ⟨⟨hc, hsigma⟩, ht⟩ := List.forall_mem_cons.mp h
    simp [lowercaseAfter, hc, hsigma, ih ht]

theorem lowercase_lowercase (t : Text) : lowercase (lowercase t) = lowercase t :=
  lowercaseAfter_eq_self (fun _ hc => (isLower_of_mem_lowercaseAfter hc).1) []

/-- Blanks and marks in a lowercase text were there before. -/
theorem mem_of_mem_lowercase {t : Text} {c : Char} (hc : c ∈ lowercase t) (hcut : IsCutting c) :
    c ∈ t :=
  (isLower_of_mem_lowercaseAfter hc).2 hcut

theorem lowercaseAlone_ne_nil (c : Char) : lowercaseAlone c ≠ [] := by
  unfold lowercaseAlone
  split
  · simp
  · split
    · simp
    · split <;> simp

theorem lowercase_ne_nil {t : Text} (h : t ≠ []) : lowercase t ≠ [] := by
  obtain ⟨c, t, rfl⟩ := List.exists_cons_of_ne_nil h
  rw [lowercase, lowercaseAfter]
  split <;> simp [lowercaseAlone_ne_nil]

end MipsEncoding.Text
