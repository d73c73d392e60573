import MipsEncoding.CommandLine
import MipsEncoding.Proofs.Denotation

/-! Options on the command line. `Asks` says how options are written and what they ask for. `Reads` is
all that is relied on of a reader of arguments: it understands these options, and takes what stands
behind `--` as it is. The conventional reader is one of them (`reads_conventional`). -/
namespace MipsEncoding.CommandLine

/-- A number of workers as it is written: decimal, and small enough for a word of 64 bits. -/
structure Counts (count : Nat) (t : Text) : Prop where
  denotes : Denotes .decimal t count
  positive : 0 < count
  bounded : count < 2 ^ 64

/-- The ways to ask for a number of workers. -/
inductive AsksWorkers (count : Nat) : List Text → Prop
  | short {t : Text} (counts : Counts count t) : AsksWorkers count ["-j".toList, t]
  | shortEquals {t : Text} (counts : Counts count t) : AsksWorkers count ["-j=".toList ++ t]
  | shortJoined {t : Text} (counts : Counts count t) : AsksWorkers count ["-j".toList ++ t]
  | long {t : Text} (counts : Counts count t) : AsksWorkers count ["--jobs".toList, t]
  | longEquals {t : Text} (counts : Counts count t) : AsksWorkers count ["--jobs=".toList ++ t]

/-- Options that ask for words only or not, and for a number of workers or none. -/
inductive Asks : Bool → Option Nat → List Text → Prop
  | nothing : Asks false none []
  | hex : Asks true none ["--hex".toList]
  | workers {count : Nat} {options : List Text} (asked : AsksWorkers count options) :
    Asks false (some count) options
  | hexFirst {count : Nat} {options : List Text} (asked : AsksWorkers count options) :
    Asks true (some count) ("--hex".toList :: options)
  | hexLast {count : Nat} {options : List Text} (asked : AsksWorkers count options) :
    Asks true (some count) (options ++ ["--hex".toList])

/-- What is relied on of a reader of arguments. -/
structure Reads (read : ArgumentReader) : Prop where
  /-- Options alone make a request without instructions. -/
  options {hexOnly : Bool} {workers : Option Nat} {options : List Text}
    (asked : Asks hexOnly workers options) : read options = .ok ⟨hexOnly, workers, []⟩
  /-- All arguments behind `--` are instructions, also those that look like options. -/
  escaped {hexOnly : Bool} {workers : Option Nat} {options : List Text}
    (asked : Asks hexOnly workers options) (instructions : List Text) :
    read (options ++ "--".toList :: instructions) = .ok ⟨hexOnly, workers, instructions⟩

section Conventional

variable {count : Nat} {t : Text} {r : Request}

/-- A number of workers has no minus sign, since it is positive. -/
theorem Counts.exists_digits (h : Counts count t) : ∃ sign digits, (sign = [] ∨ sign = ['+']) ∧
    digits ≠ [] ∧ (∀ c ∈ digits, Radix.decimal.isDigit c = true) ∧ t = sign ++ digits ∧
    count = Radix.decimal.valueOf digits := by
  obtain ⟨sign, mark, digits, factor, hsigned, hmarked, hne, hdigits, rfl, hvalue⟩ :=
    h.denotes.exists_digits
  obtain rfl : mark = [] := by simpa [Radix.marks] using hmarked
  have hpositive := h.positive
  refine ⟨sign, digits, ?_, hne, hdigits, by simp, ?_⟩
  · simp only [Numeral.signs, List.mem_cons, Prod.mk.injEq, List.not_mem_nil, or_false] at hsigned
    rcases hsigned with ⟨hsign, -⟩ | ⟨hsign, -⟩ | ⟨-, rfl⟩
    · exact .inl hsign
    · exact .inr hsign
    · omega
  · simp only [Numeral.signs, List.mem_cons, Prod.mk.injEq, List.not_mem_nil, or_false] at hsigned
    rcases hsigned with ⟨-, rfl⟩ | ⟨-, rfl⟩ | ⟨-, rfl⟩ <;> omega

theorem Counts.read (h : Counts count t) : readWorkers? t = some count := by
  obtain ⟨sign, digits, hsign, hne, hdigits, rfl, rfl⟩ := h.exists_digits
  have hdrop : Numeral.dropPlus (sign ++ digits) = digits := by
    rcases hsign with rfl | rfl
    · obtain ⟨c, digits, rfl⟩ := List.exists_cons_of_ne_nil hne
      have hplus := (Radix.isDigit_ne (hdigits c (by simp))).1
      rw [List.nil_append, Numeral.dropPlus]
      rintro _ ⟨⟩
      exact hplus rfl
    · rfl
  have hread : Radix.decimal.areDigits digits = true := (Radix.areDigits_iff _ _).mpr ⟨hne, hdigits⟩
  have hpositive := h.positive
  have hbounded : Radix.decimal.valueOf digits < 0x10000000000000000 := h.bounded
  simp [readWorkers?, hdrop, hread, hpositive, hbounded]

/-- A number of workers does not look like an option, nor like one behind an equals sign. -/
theorem Counts.exists_cons (h : Counts count t) : ∃ c rest, t = c :: rest ∧ c ≠ '-' ∧ c ≠ '=' := by
  obtain ⟨sign, digits, hsign, hne, hdigits, rfl, -⟩ := h.exists_digits
  rcases hsign with rfl | rfl
  · obtain ⟨c, digits, rfl⟩ := List.exists_cons_of_ne_nil hne
    have hc := hdigits c (by simp)
    refine ⟨c, digits, rfl, (Radix.isDigit_ne hc).2.1, ?_⟩
    rintro rfl
    revert hc
    decide
  · exact ⟨'+', digits, rfl, by decide, by decide⟩

theorem Counts.asked (h : Counts count t) (hnone : r.workers = none) :
    r.askWorkers t = .ok { r with workers := some count } := by
  rw [Request.askWorkers, hnone, h.read]

namespace Argument

theorem ofText_shortEquals (t : Text) : ofText ("-j=".toList ++ t) = .workers t := by
  simp [ofText, after?, List.isPrefixOf]

theorem ofText_longEquals (t : Text) : ofText ("--jobs=".toList ++ t) = .workers t := by
  simp [ofText, after?, List.isPrefixOf]

theorem ofText_shortJoined (h : Counts count t) : ofText ("-j".toList ++ t) = .workers t := by
  obtain ⟨c, rest, rfl, -, hequals⟩ := h.exists_cons
  simp [ofText, after?, List.isPrefixOf, hequals.symm]

end Argument

theorem readFrom_next {option : Text} (hoption : Argument.ofText option = .workersNext)
    (h : Counts count t) (hnone : r.workers = none) (rest : List Text) :
    readFrom r (option :: t :: rest) = readFrom { r with workers := some count } rest := by
  have hdash : (t.head? == some '-') = false := by
    obtain ⟨c, _, rfl, hc, -⟩ := h.exists_cons
    simpa using hc
  rw [readFrom.eq_def]
  simp only [hoption, hdash, h.asked hnone]
  rfl

theorem readFrom_joined {option : Text} (hoption : Argument.ofText option = .workers t)
    (h : Counts count t) (hnone : r.workers = none) (rest : List Text) :
    readFrom r (option :: rest) = readFrom { r with workers := some count } rest := by
  rw [readFrom.eq_def]
  simp only [hoption, h.asked hnone]
  rfl

theorem readFrom_workers {options : List Text} (h : AsksWorkers count options)
    (hnone : r.workers = none) (rest : List Text) :
    readFrom r (options ++ rest) = readFrom { r with workers := some count } rest := by
  cases h with
  | short counts => exact readFrom_next rfl counts hnone rest
  | shortEquals counts => exact readFrom_joined (Argument.ofText_shortEquals _) counts hnone rest
  | shortJoined counts => exact readFrom_joined (Argument.ofText_shortJoined counts) counts hnone rest
  | long counts => exact readFrom_next rfl counts hnone rest
  | longEquals counts => exact readFrom_joined (Argument.ofText_longEquals _) counts hnone rest

theorem readFrom_hex (hnone : r.hexOnly = false) (rest : List Text) :
    readFrom r ("--hex".toList :: rest) = readFrom { r with hexOnly := true } rest := by
  have hoption : Argument.ofText "--hex".toList = .hex := rfl
  rw [readFrom.eq_def]
  simp only [hoption, Request.askHex, hnone]
  rfl

theorem readFrom_asks {hexOnly : Bool} {workers : Option Nat} {options : List Text}
    (h : Asks hexOnly workers options) (rest : List Text) :
    conventional (options ++ rest) = readFrom ⟨hexOnly, workers, []⟩ rest := by
  rw [conventional]
  cases h with
  | nothing => rfl
  | hex => exact readFrom_hex rfl rest
  | workers asked => exact readFrom_workers asked rfl rest
  | hexFirst asked => rw [List.cons_append, readFrom_hex rfl, readFrom_workers asked rfl]
  | hexLast asked =>
    rw [List.append_assoc, readFrom_workers asked rfl, List.singleton_append, readFrom_hex rfl]

/-- The conventional reader understands the options in every spelling. -/
theorem reads_conventional : Reads conventional where
  options asked := by
    have h := readFrom_asks asked []
    rwa [List.append_nil, readFrom] at h
  escaped asked instructions := by
    have hend : Argument.ofText "--".toList = .endOfOptions := rfl
    rw [readFrom_asks asked, readFrom.eq_def]
    simp only [hend]
    rfl

end Conventional

end MipsEncoding.CommandLine
