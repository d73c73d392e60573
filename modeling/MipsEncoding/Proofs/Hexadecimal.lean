import MipsEncoding.Interpretation
import MipsEncoding.Proofs.Denotation
import MipsEncoding.Proofs.Rendering

/-! Words in hexadecimal. A text of 32 binary digits and one of eight hexadecimal digits determine
each other: `Word.expand` is the inverse of `Word.nibbles` on both sides. Read as a numeral, the
hexadecimal form denotes the word that the binary form denotes. -/
namespace MipsEncoding.Word

/-- The digits that words are written with. -/
def hexDigits : Text := "0123456789ABCDEF".toList

theorem hexDigit_mem {n : Nat} (h : n < 16) : hexDigit n ∈ hexDigits := by
  have hdigits : ∀ n < 16, hexDigit n ∈ hexDigits := by decide
  exact hdigits n h

theorem hexDigit_digitValue {c : Char} (h : c ∈ hexDigits) :
    digitValue c < 16 ∧ hexDigit (digitValue c) = c := by
  have hdigits : hexDigits.all (fun c => digitValue c < 16 ∧ hexDigit (digitValue c) = c) = true := by
    decide
  simpa using List.all_eq_true.mp hdigits c h

theorem isDigit_of_mem {c : Char} (h : c ∈ hexDigits) : Radix.hexadecimal.isDigit c = true := by
  have hdigits : hexDigits.all Radix.hexadecimal.isDigit = true := by decide
  exact List.all_eq_true.mp hdigits c h

theorem nibbles_digits {k : Nat} {bits : Text} (hlen : bits.length = 4 * k) :
    (nibbles bits).length = k ∧ ∀ c ∈ nibbles bits, c ∈ hexDigits := by
  induction k generalizing bits with
  | zero =>
    rw [List.length_eq_zero_iff.mp hlen]
    simp [nibbles]
  | succ k ih =>
    obtain ⟨u, v, hu, hv, rfl⟩ := exists_quad hlen
    obtain ⟨hlength, hmem⟩ := ih hv
    rw [nibbles_cons_quad hu]
    exact ⟨by rw [List.length_cons, hlength],
      List.forall_mem_cons.mpr ⟨hexDigit_mem (toNat_quad_lt hu), hmem⟩⟩

theorem fixedWidth_four {n : Nat} (h : n < 16) :
    (Text.fixedWidth 2 4 n).length = 4 ∧ (Text.fixedWidth 2 4 n).all Bits.isDigit = true ∧
      Bits.toNat (Text.fixedWidth 2 4 n) = n := by
  rw [← Bits.ofNat_eq_fixedWidth h]
  refine ⟨Bits.length_ofNat 4 n, Bits.all_isDigit_ofNat 4 n, ?_⟩
  rw [Bits.toNat_ofNat]
  exact Nat.mod_eq_of_lt h

theorem expand_digits {digits : Text} (h : ∀ c ∈ digits, c ∈ hexDigits) :
    (expand digits).length = 4 * digits.length ∧ (expand digits).all Bits.isDigit = true := by
  induction digits with
  | nil => exact ⟨rfl, rfl⟩
  | cons c digits ih =>
    obtain ⟨hc, hdigits⟩ := List.forall_mem_cons.mp h
    obtain ⟨hlen, hall, -⟩ := fixedWidth_four (hexDigit_digitValue hc).1
    obtain ⟨hlength, hbinary⟩ := ih hdigits
    rw [expand_cons, List.length_append, List.all_append, hlen, hlength, hall, hbinary,
      List.length_cons]
    exact ⟨by omega, rfl⟩

/-- Every text of hexadecimal digits is the form of its binary digits. -/
theorem nibbles_expand {digits : Text} (h : ∀ c ∈ digits, c ∈ hexDigits) :
    nibbles (expand digits) = digits := by
  induction digits with
  | nil => rfl
  | cons c digits ih =>
    obtain ⟨hc, hdigits⟩ := List.forall_mem_cons.mp h
    obtain ⟨hlt, hdigit⟩ := hexDigit_digitValue hc
    obtain ⟨hlen, -, hvalue⟩ := fixedWidth_four hlt
    rw [expand_cons, nibbles_cons_quad hlen, hvalue, hdigit, ih hdigits]

theorem valueOf_nibbles {k : Nat} {bits : Text} (hlen : bits.length = 4 * k) :
    Radix.hexadecimal.valueOf (nibbles bits) = Bits.toNat bits := by
  rw [Radix.valueOf_eq_ofDigits]
  induction k generalizing bits with
  | zero =>
    rw [List.length_eq_zero_iff.mp hlen]
    rfl
  | succ k ih =>
    obtain ⟨u, v, hu, hv, rfl⟩ := exists_quad hlen
    have hpow : 16 ^ k = 2 ^ (4 * k) := by
      rw [pow_mul]
      rfl
    rw [nibbles_cons_quad hu, List.map_cons, List.reverse_cons, Nat.ofDigits_append, ih hv,
      List.length_reverse, List.length_map, (nibbles_digits hv).1, Bits.toNat_append, hv, Radix.weight,
      hpow, Nat.ofDigits_singleton, digitValue_hexDigit (toNat_quad_lt hu)]
    ring

/-- The hexadecimal form is a numeral for the number that the binary digits denote. -/
theorem denotes_nibbles {k : Nat} {bits : Text} (hlen : bits.length = 4 * (k + 1)) :
    Denotes .hexadecimal ("0x".toList ++ nibbles bits) (Bits.toNat bits) := by
  obtain ⟨hlength, hmem⟩ := nibbles_digits hlen
  have hne : nibbles bits ≠ [] := by
    rw [ne_eq, ← List.length_eq_zero_iff]
    omega
  have hsign : (([] : Text), (1 : Int)) ∈ Numeral.signs := by decide
  have hmark : "0x".toList ∈ Radix.hexadecimal.marks := by decide
  have hdenotes := Denotes.of_digits hsign hmark hne fun c hc => isDigit_of_mem (hmem c hc)
  rw [List.nil_append, valueOf_nibbles hlen, one_mul] at hdenotes
  exact hdenotes

/-- Only 32 binary digits have a hexadecimal form: a text with other characters is refused whatever
its size in bytes is. -/
theorem hexOfBinary_cases (b : Text) :
    (b.length = 32 ∧ b.all Bits.isDigit = true ∧
        (hexOfBinary b).outcome = .ok ("0x".toList ++ nibbles b)) ∨
      (¬ (b.length = 32 ∧ b.all Bits.isDigit = true) ∧
        (hexOfBinary b).outcome = .error .notBinary) := by
  by_cases h : b.length = 32 ∧ b.all Bits.isDigit = true
  · exact .inl ⟨h.1, h.2, by rw [hexOfBinary_of_digits h.1 h.2, Run.outcome_ok]⟩
  · refine .inr ⟨h, ?_⟩
    rw [hexOfBinary, if_neg, Run.outcome_failNoting]
    rintro ⟨hsize, hdigits⟩
    exact h ⟨by rw [← Bits.byteSize_eq_length hdigits, hsize], hdigits⟩

/-- Texts of 32 binary digits and texts of eight hexadecimal digits stand for each other, and both
denote the same word. -/
theorem hexOfBinary_exact_code :
    (∀ b : Text, ((∃ hex, (hexOfBinary b).outcome = .ok hex) ↔
        b.length = 32 ∧ ∀ c ∈ b, c = '0' ∨ c = '1') ∧
      (¬ (b.length = 32 ∧ ∀ c ∈ b, c = '0' ∨ c = '1') →
        (hexOfBinary b).outcome = .error .notBinary)) ∧
    (∀ b hex, (hexOfBinary b).outcome = .ok hex →
      (∃ digits, hex = "0x".toList ++ digits ∧ digits.length = 8 ∧
        (∀ c ∈ digits, c ∈ hexDigits) ∧ expand digits = b) ∧
      ∀ i : Interpretation, i.binary = b →
        ∃ w, i.word? = some w ∧ Denotes .hexadecimal hex w.toNat) ∧
    ∀ digits : Text, digits.length = 8 → (∀ c ∈ digits, c ∈ hexDigits) →
      ∃! b, (hexOfBinary b).outcome = .ok ("0x".toList ++ digits) := by
  refine ⟨?_, ?_, ?_⟩
  · intro b
    rw [← Bits.all_isDigit_iff]
    obtain ⟨hlen, hdigits, hrun⟩ | ⟨hbad, hrun⟩ := hexOfBinary_cases b
    · exact ⟨⟨fun _ => ⟨hlen, hdigits⟩, fun _ => ⟨_, hrun⟩⟩, fun h => absurd ⟨hlen, hdigits⟩ h⟩
    · refine ⟨⟨?_, fun h => absurd h hbad⟩, fun _ => hrun⟩
      rintro ⟨hex, hhex⟩
      cases hrun.symm.trans hhex
  · intro b hex h
    obtain ⟨hlen, hdigits, hrun⟩ | ⟨-, hrun⟩ := hexOfBinary_cases b
    · obtain rfl := Except.ok.inj (hrun.symm.trans h)
      obtain ⟨hlength, hmem⟩ := nibbles_digits (k := 8) hlen
      refine ⟨⟨_, rfl, hlength, hmem, expand_nibbles (k := 8) hlen hdigits⟩, ?_⟩
      rintro i rfl
      have hw : i.word? = _ := ofBinary?_of_digits hlen hdigits
      refine ⟨_, hw, ?_⟩
      rw [toNat_ofBinary? hlen hdigits hw]
      exact denotes_nibbles (k := 7) hlen
    · rw [hrun] at h
      cases h
  · intro digits hlength hmem
    obtain ⟨hlen, hbinary⟩ := expand_digits hmem
    rw [hlength] at hlen
    refine ⟨expand digits, ?_, ?_⟩
    · simp only [hexOfBinary_of_digits hlen hbinary, Run.outcome_ok, nibbles_expand hmem]
    · intro b h
      obtain ⟨hlen, hdigits, hrun⟩ | ⟨-, hrun⟩ := hexOfBinary_cases b
      · have hnibbles := List.append_cancel_left (Except.ok.inj (hrun.symm.trans h))
        rw [← hnibbles, expand_nibbles (k := 8) hlen hdigits]
      · cases hrun.symm.trans h

theorem hexOfBinary_exact_code_negative :
    ∃ i, (interpret "addi $t0, $s0, -4".toList).outcome = .ok i ∧
      (hexOfBinary i.binary).outcome = .ok "0x2208FFFC".toList ∧
      expand "2208FFFC".toList = i.binary ∧
      (∃ w, i.word? = some w ∧ Denotes .hexadecimal "0x2208FFFC".toList w.toNat) ∧
      (∃! b, (hexOfBinary b).outcome = .ok ("0x".toList ++ "2208FFFC".toList)) ∧
      (hexOfBinary ('é' :: List.replicate 30 '0')).outcome = .error .notBinary := by
  have hrun : ((interpret "addi $t0, $s0, -4".toList).outcome.toOption.map (·.binary)) =
      some "00100010000010001111111111111100".toList := by
    decide +kernel
  obtain ⟨i, hi, hbinary⟩ := exists_ok_of_toOption_map hrun
  have hhex : (hexOfBinary i.binary).outcome = .ok "0x2208FFFC".toList := by
    rw [hbinary]
    rfl
  obtain ⟨hrefused, hforms, hunique⟩ := hexOfBinary_exact_code
  obtain ⟨⟨digits, hdigits, hlength, hmem, hexpand⟩, hword⟩ := hforms _ _ hhex
  obtain rfl : "2208FFFC".toList = digits := by simpa using hdigits
  have hshort : ¬ (('é' :: List.replicate 30 '0').length = 32) := by decide
  exact ⟨i, hi, hhex, hexpand, hword i rfl, hunique _ hlength hmem,
    (hrefused _).2 fun h => hshort h.1⟩

end MipsEncoding.Word
