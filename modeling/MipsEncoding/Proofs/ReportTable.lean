import Mathlib.Data.List.DropRight
import MipsEncoding.Interpretation
import MipsEncoding.Proofs.Hexadecimal
import MipsEncoding.Proofs.ReferenceWord

/-! Reading a report back. The table of a report is what stands behind its last empty line: a heading
and one row for each field, all of the same length. Cut at the dividers, the rows give back the fields
and with them the word. The rows stay aligned for any fields whose counts fit their column, although
columns are as wide as their entries have bytes and are filled up by characters. -/
namespace MipsEncoding.Report
open Text

/-- The lines of a text, each of which is ended by a line feed. -/
def linesOf (t : Text) : List Text := (t.splitOn '\n').dropLast

/-- The lines behind the last empty line. -/
def tableLines (t : Text) : List Text := (linesOf t).rtakeWhile (!·.isEmpty)

/-- The parts of a line between dividers, found from the left. -/
def splitDivider : Text → List Text
  | [] => [[]]
  | ' ' :: '|' :: ' ' :: t => [] :: splitDivider t
  | c :: t => (splitDivider t).modifyHead (c :: ·)

/-- The cells of a row, without the blanks that fill them up. -/
def cells (row : Text) : List Text := (splitDivider row).map trim

/-- The texts in one column of a table. -/
def column (place : Nat) (rows : List Text) : List Text := rows.map fun row => (cells row).getD place []

/-- A row of the table before it is ended. -/
def rowText (nameWidth bitsWidth : Nat) (name bits count : Text) : Text :=
  name.padRight nameWidth ++ divider ++ bits.padRight bitsWidth ++ divider ++
    count.padLeft bitsHeading.byteSize

theorem row_eq (nameWidth bitsWidth : Nat) (name bits count : Text) :
    row nameWidth bitsWidth name bits count = line (rowText nameWidth bitsWidth name bits count) :=
  rfl

section Lines

theorem linesOf_line_append (s t : Text) : linesOf (line s ++ t) = s.splitOn '\n' ++ linesOf t := by
  have hsplit : (line s ++ t).splitOn '\n' = s.splitOn '\n' ++ t.splitOn '\n' := by
    rw [line, List.append_assoc, List.singleton_append, List.splitOn_append_cons_self]
  rw [linesOf, hsplit, List.dropLast_append_of_ne_nil (List.splitOn_ne_nil '\n' t), linesOf]

theorem linesOf_flatMap_line {ls : List Text} (h : ∀ l ∈ ls, '\n' ∉ l) :
    linesOf (ls.flatMap line) = ls := by
  induction ls with
  | nil => rfl
  | cons l ls ih =>
    obtain ⟨hl, hls⟩ := List.forall_mem_cons.mp h
    rw [List.flatMap_cons, linesOf_line_append, List.splitOn_eq_singleton hl, ih hls, List.singleton_append]

theorem rtakeWhile_append_nil_cons (before : List Text) {after : List Text} (h : ∀ l ∈ after, l ≠ []) :
    (before ++ [] :: after).rtakeWhile (!·.isEmpty) = after := by
  induction after using List.reverseRecOn with
  | nil => simp
  | append_singleton after l ih =>
    have hl : l ≠ [] := h l (by simp)
    have htext : before ++ [] :: (after ++ [l]) = (before ++ [] :: after) ++ [l] := by simp
    rw [htext, List.rtakeWhile_concat, if_pos (by simpa using hl), ih fun x hx => h x (by simp [hx])]

end Lines

section Cells

theorem splitDivider_cons {c : Char} {t : Text} (h : t.head? ≠ some '|') :
    splitDivider (c :: t) = (splitDivider t).modifyHead (c :: ·) := by
  rw [splitDivider]
  rintro t' - rfl
  exact h rfl

theorem splitDivider_of_not_mem {t : Text} (h : '|' ∉ t) : splitDivider t = [t] := by
  induction t with
  | nil => rfl
  | cons c t ih =>
    have ht : '|' ∉ t := fun hmem => h (List.mem_cons_of_mem c hmem)
    rw [splitDivider_cons fun hhead => ht (List.mem_of_mem_head? hhead), ih ht]
    rfl

/-- The first divider stands where the first bar does. -/
theorem splitDivider_append {s : Text} (h : '|' ∉ s) (t : Text) :
    splitDivider (s ++ divider ++ t) = s :: splitDivider t := by
  induction s with
  | nil => rfl
  | cons c s ih =>
    have hs : '|' ∉ s := fun hmem => h (List.mem_cons_of_mem c hmem)
    have hhead : (s ++ divider ++ t).head? ≠ some '|' := by
      cases s with
      | nil => simp [divider]
      | cons d s =>
        rintro ⟨⟩
        exact hs List.mem_cons_self
    rw [List.cons_append, List.cons_append, splitDivider_cons hhead, ih hs]
    rfl

theorem blank_replicate (n : Nat) : Blank (List.replicate n ' ') := by
  intro c hc
  rw [List.eq_of_mem_replicate hc]
  decide

theorem mem_padRight {width : Nat} {t : Text} {c : Char} (h : c ∈ t.padRight width) :
    c ∈ t ∨ c = ' ' := by
  rw [padRight, List.mem_append] at h
  exact h.imp_right List.eq_of_mem_replicate

theorem mem_padLeft {width : Nat} {t : Text} {c : Char} (h : c ∈ t.padLeft width) :
    c ∈ t ∨ c = ' ' := by
  rw [padLeft, List.mem_append] at h
  exact h.symm.imp_right List.eq_of_mem_replicate

theorem not_mem_padRight {width : Nat} {t : Text} {c : Char} (hc : c ≠ ' ') (h : c ∉ t) :
    c ∉ t.padRight width :=
  fun hmem => (mem_padRight hmem).elim h hc

theorem not_mem_padLeft {width : Nat} {t : Text} {c : Char} (hc : c ≠ ' ') (h : c ∉ t) :
    c ∉ t.padLeft width :=
  fun hmem => (mem_padLeft hmem).elim h hc

/-- Texts that a cell and a line give back as they are. -/
def Plain (t : Text) : Prop := ∀ c ∈ t, isBlank c = false ∧ c ≠ '|'

theorem plain_iff {t : Text} : Plain t ↔ (t.all fun c => !isBlank c && c != '|') = true := by
  simp [Plain]

instance (t : Text) : Decidable (Plain t) := decidable_of_iff _ plain_iff.symm

theorem Plain.trimmed {t : Text} (h : Plain t) : Trimmed t :=
  Solid.trimmed fun c hc => (h c hc).1

theorem Plain.undivided {t : Text} (h : Plain t) : '|' ∉ t := fun hc => (h _ hc).2 rfl

theorem Plain.unbroken {t : Text} (h : Plain t) : '\n' ∉ t :=
  fun hc => absurd (h _ hc).1 (by decide)

theorem cells_rowText {nameWidth bitsWidth : Nat} {name bits count : Text} (hname : Plain name)
    (hbits : Plain bits) (hcount : Plain count) :
    cells (rowText nameWidth bitsWidth name bits count) = [name, bits, count] := by
  have hbar : '|' ≠ ' ' := by decide
  have hrow : rowText nameWidth bitsWidth name bits count =
      name.padRight nameWidth ++ divider ++ (bits.padRight bitsWidth ++ divider ++
        count.padLeft bitsHeading.byteSize) := by
    simp [rowText]
  rw [cells, hrow, splitDivider_append (not_mem_padRight hbar hname.undivided),
    splitDivider_append (not_mem_padRight hbar hbits.undivided),
    splitDivider_of_not_mem (not_mem_padLeft hbar hcount.undivided)]
  simp only [List.map_cons, List.map_nil, padRight, padLeft, trim_append_blank (blank_replicate _),
    trim_blank_append (blank_replicate _), trim_of_trimmed hname.trimmed,
    trim_of_trimmed hbits.trimmed, trim_of_trimmed hcount.trimmed]

end Cells

section Widths

theorem le_foldl_max (entries : List Text) (width : Nat) :
    width ≤ entries.foldl (fun width t => max width t.byteSize) width ∧
      ∀ t ∈ entries, t.byteSize ≤ entries.foldl (fun width t => max width t.byteSize) width := by
  induction entries generalizing width with
  | nil => simp
  | cons t entries ih =>
    obtain ⟨hwidth, hentries⟩ := ih (max width t.byteSize)
    rw [List.foldl_cons, List.forall_mem_cons]
    exact ⟨by omega, by omega, hentries⟩

/-- A column has room for its heading and its entries, as bytes and all the more as characters. -/
theorem length_le_columnWidth (heading : Text) (entries : List Text) :
    ∀ t ∈ heading :: entries, t.length ≤ columnWidth heading entries := by
  obtain ⟨hheading, hentries⟩ := le_foldl_max entries heading.byteSize
  rw [List.forall_mem_cons]
  refine ⟨(length_le_byteSize heading).trans hheading, ?_⟩
  intro t ht
  exact (length_le_byteSize t).trans (hentries t ht)

theorem length_rowText {nameWidth bitsWidth : Nat} {name bits count : Text}
    (hname : name.length ≤ nameWidth) (hbits : bits.length ≤ bitsWidth) (hcount : count.length ≤ 4) :
    (rowText nameWidth bitsWidth name bits count).length = nameWidth + bitsWidth + 10 := by
  have hdivider : divider.length = 3 := rfl
  have hheading : bitsHeading.byteSize = 4 := rfl
  simp only [rowText, List.length_append, length_padRight, length_padLeft, hdivider, hheading]
  omega

/-- A number below 10000 fits its column. -/
theorem length_ofNat_le {n : Nat} (h : n < 10000) : (Text.ofNat n).length ≤ 4 :=
  (Nat.length_toDigits_le_iff (by omega) (by omega)).mpr h

end Widths

section Entries

variable {f : Fields} {name bits : Text}

theorem plain_of_digits {t : Text} (h : ∀ c ∈ t, Radix.decimal.isDigit c = true) : Plain t := by
  intro c hc
  obtain ⟨hlow, hhigh⟩ := Radix.toNat_of_isDigit (h c hc)
  refine ⟨isBlank_eq_false (by omega) (by omega), ?_⟩
  rintro rfl
  exact absurd hhigh (by decide)

theorem plain_ofNat (n : Nat) : Plain (Text.ofNat n) :=
  plain_of_digits fun _ hc => Nat.isDigit_of_mem_toDigits (by omega) (by omega) hc

theorem plain_of_bits (h : bits.all Bits.isDigit = true) : Plain bits := by
  refine plain_of_digits fun c hc => ?_
  obtain rfl | rfl := Bits.isDigit_iff.mp (List.all_eq_true.mp h c hc) <;> rfl

/-- A number that is written down is read back. -/
theorem valueOf_ofNat (n : Nat) : Radix.decimal.valueOf (Text.ofNat n) = n := by
  have hread : Nat.ofDigitChars 10 (Nat.toDigits 10 n) 0 = n :=
    Nat.ofDigitChars_toDigits (by decide) (by decide)
  rw [Nat.ofDigitChars_eq_foldl] at hread
  nth_rewrite 2 [← hread]
  refine List.foldl_ext _ _ _ ?_
  intro acc c hc
  have hdigit := Nat.isDigit_of_mem_toDigits (by omega) (by omega) hc
  simp [digitValue, hdigit, Radix.base, Nat.mul_comm]

/-- The names of fields are the same in every record. -/
def fieldNames : List Text :=
  ["opcode", "rs", "rt", "rd", "shamt", "funct", "immediate", "address"].map String.toList

theorem name_mem (h : (name, bits) ∈ f.entries) : name ∈ fieldNames := by
  obtain ⟨⟨name', bits?⟩, hfield, hsome⟩ := List.mem_filterMap.mp h
  have hname : name' ∈ fieldNames := by
    simpa [fieldNames] using List.mem_map_of_mem (f := Prod.fst) hfield
  cases bits? with
  | none => cases hsome
  | some bits' =>
    cases hsome
    exact hname

theorem plain_name (h : (name, bits) ∈ f.entries) : Plain name := by
  have hall : ∀ t ∈ fieldNames, Plain t := by decide +kernel
  exact hall name (name_mem h)

theorem plain_headings : Plain fieldHeading ∧ Plain binaryHeading ∧ Plain bitsHeading := by
  decide +kernel

end Entries

section Table

/-- The line of a report below the source. -/
def mnemonicLine (d : Definition) : Text :=
  "MNEMONIC".toList ++ divider ++ d.mnemonic ++ " (".toList ++ d.format.letter ++ "-type)".toList

/-- A row or the heading, in columns wide enough for the fields. -/
def rowOf (f : Fields) : Text → Text → Text → Text :=
  rowText (columnWidth fieldHeading (f.entries.map (·.1)))
    (columnWidth binaryHeading (f.entries.map (·.2)))

def header (f : Fields) : Text := rowOf f fieldHeading binaryHeading bitsHeading

def rows (f : Fields) : List Text :=
  f.entries.map fun (name, bits) => rowOf f name bits (Text.ofNat bits.byteSize)

theorem table_eq (f : Fields) : table f = (header f :: rows f).flatMap line := by
  simp only [table, row_eq, List.flatMap_cons, rows, List.flatMap_map]
  rfl

theorem rowText_ne_nil (nameWidth bitsWidth : Nat) (name bits count : Text) :
    rowText nameWidth bitsWidth name bits count ≠ [] := by
  simp [rowText, divider]

theorem not_mem_rowText {nameWidth bitsWidth : Nat} {name bits count : Text} (hname : '\n' ∉ name)
    (hbits : '\n' ∉ bits) (hcount : '\n' ∉ count) :
    '\n' ∉ rowText nameWidth bitsWidth name bits count := by
  have hspace : '\n' ≠ ' ' := by decide
  have hdivider : '\n' ∉ divider := by decide
  simp only [rowText, List.mem_append, not_or]
  exact ⟨⟨⟨⟨not_mem_padRight hspace hname, hdivider⟩, not_mem_padRight hspace hbits⟩, hdivider⟩,
    not_mem_padLeft hspace hcount⟩

variable {f : Fields}

theorem forall_mem_header_rows {p : Text → Prop} (hheader : p (header f))
    (hrows : ∀ name bits, (name, bits) ∈ f.entries → p (rowOf f name bits (Text.ofNat bits.byteSize))) :
    ∀ l ∈ header f :: rows f, p l := by
  rw [List.forall_mem_cons]
  refine ⟨hheader, ?_⟩
  rw [rows, List.forall_mem_map]
  rintro ⟨name, bits⟩ he
  exact hrows name bits he

theorem linesOf_table (h : ∀ e ∈ f.entries, '\n' ∉ e.2) : linesOf (table f) = header f :: rows f := by
  obtain ⟨hfield, hbinary, hbits⟩ := plain_headings
  rw [table_eq]
  refine linesOf_flatMap_line (forall_mem_header_rows ?_ ?_)
  · exact not_mem_rowText hfield.unbroken hbinary.unbroken hbits.unbroken
  · intro name bits he
    exact not_mem_rowText (plain_name he).unbroken (h _ he) (plain_ofNat _).unbroken

theorem linesOf_report (i : Interpretation) (h : ∀ e ∈ i.fields.entries, '\n' ∉ e.2) :
    linesOf i.report = i.source.trim.splitOn '\n' ++ (mnemonicLine i.definition).splitOn '\n' ++
      ("BINARY  ".toList ++ divider ++ i.fields.grouped).splitOn '\n' ++
      ("HEX     ".toList ++ divider ++ i.hex).splitOn '\n' ++
      i.definition.description.splitOn '\n' ++ [] :: header i.fields :: rows i.fields := by
  have hreport : i.report = line i.source.trim ++ line (mnemonicLine i.definition) ++
      line ("BINARY  ".toList ++ divider ++ i.fields.grouped) ++
      line ("HEX     ".toList ++ divider ++ i.hex) ++ line i.definition.description ++ line [] ++
      table i.fields :=
    rfl
  have hnil : ([] : Text).splitOn '\n' = [[]] := rfl
  simp only [hreport, linesOf_line_append, linesOf_table h, hnil, List.append_assoc,
    List.singleton_append]

/-- The heading and the rows stand behind the last empty line, whatever stands in front of it. -/
theorem tableLines_report (i : Interpretation) (h : ∀ e ∈ i.fields.entries, '\n' ∉ e.2) :
    tableLines i.report = header i.fields :: rows i.fields := by
  rw [tableLines, linesOf_report i h]
  refine rtakeWhile_append_nil_cons _ (forall_mem_header_rows ?_ ?_)
  · exact rowText_ne_nil _ _ _ _ _
  · intro name bits _
    exact rowText_ne_nil _ _ _ _ _

/-- The rows are as long as the heading if their counts have room in the last column. -/
theorem length_row (h : ∀ e ∈ f.entries, e.2.byteSize < 10000) :
    ∀ row ∈ rows f, row.length = (header f).length := by
  have hname := length_le_columnWidth fieldHeading (f.entries.map (·.1))
  have hbits := length_le_columnWidth binaryHeading (f.entries.map (·.2))
  have hheader : (header f).length = _ :=
    length_rowText (hname _ List.mem_cons_self) (hbits _ List.mem_cons_self) (by decide)
  rw [rows, List.forall_mem_map, hheader]
  rintro ⟨name, bits⟩ he
  exact length_rowText (hname _ (List.mem_cons_of_mem _ (List.mem_map_of_mem he)))
    (hbits _ (List.mem_cons_of_mem _ (List.mem_map_of_mem he))) (length_ofNat_le (h _ he))

theorem cells_header (f : Fields) : cells (header f) = [fieldHeading, binaryHeading, bitsHeading] := by
  obtain ⟨hfield, hbinary, hbits⟩ := plain_headings
  exact cells_rowText hfield hbinary hbits

theorem map_cells_rows (h : ∀ e ∈ f.entries, e.2.all Bits.isDigit = true) :
    (rows f).map cells = f.entries.map fun (name, bits) => [name, bits, Text.ofNat bits.length] := by
  rw [rows, List.map_map, List.map_inj_left]
  rintro ⟨name, bits⟩ he
  simp only [Function.comp_apply]
  rw [rowOf, cells_rowText (plain_name he) (plain_of_bits (h _ he)) (plain_ofNat _),
    Bits.byteSize_eq_length (h _ he)]

end Table

theorem filter_intercalate {ts : List Text} (h : ∀ t ∈ ts, ' ' ∉ t) :
    ([' '].intercalate ts).filter (· != ' ') = ts.flatten := by
  have hself : ∀ t ∈ ts, t.filter (· != ' ') = t := by
    intro t ht
    rw [List.filter_eq_self]
    intro c hc
    have hne : c ≠ ' ' := fun heq => h t ht (heq ▸ hc)
    simpa using hne
  induction ts with
  | nil => rfl
  | cons t ts ih =>
    obtain ⟨ht, hts⟩ := List.forall_mem_cons.mp hself
    cases ts with
    | nil => simpa using ht
    | cons t' ts =>
      have ih' := ih (fun t ht => h t (List.mem_cons_of_mem _ ht)) hts
      rw [List.intercalate_cons_cons, List.filter_append, List.filter_append, ht, ih']
      simp

/-- What a report shows of an interpretation: a table that gives back its fields and its word, and
above it the word once more. -/
structure ReadsBack (i : Interpretation) (heading : Text) (rows : List Text) : Prop where
  table : tableLines i.report = heading :: rows
  aligned : ∀ row ∈ rows, row.length = heading.length
  titles : cells heading = ["FIELD".toList, "BINARY".toList, "BITS".toList]
  entries : rows.map cells =
    i.fields.entries.map fun (name, bits) => [name, bits, Text.ofNat bits.length]
  order : column 0 rows = i.definition.format.layout.map (·.1)
  binary : (column 1 rows).flatten = i.binary
  sizes : ((column 2 rows).map Radix.decimal.valueOf).sum = 32
  summary : ∃ grouped, grouped.filter (· != ' ') = i.binary ∧
    linesOf i.report = i.source.trim.splitOn '\n' ++ [mnemonicLine i.definition,
      "BINARY  ".toList ++ divider ++ grouped, "HEX     ".toList ++ divider ++ i.hex] ++
      i.definition.description.splitOn '\n' ++ [] :: heading :: rows

section Accepted

variable {line : Text} {i : Interpretation}

theorem fields_digits (h : Interprets line i) : ∀ e ∈ i.fields.entries, e.2.all Bits.isDigit = true := by
  intro e he
  have hdigits := h.binary_digits.2
  rw [h.binary, List.all_eq_true] at hdigits
  rw [List.all_eq_true]
  intro c hc
  exact hdigits c (List.mem_flatMap.mpr ⟨e, he, hc⟩)

theorem column_rows (h : Interprets line i) (place : Nat) :
    column place (rows i.fields) = i.fields.entries.map
      fun (name, bits) => [name, bits, Text.ofNat bits.length].getD place [] := by
  have hcells := congrArg (List.map fun row : List Text => row.getD place [])
    (map_cells_rows (fields_digits h))
  rwa [List.map_map, List.map_map] at hcells

theorem byteSize_le (h : Interprets line i) : ∀ e ∈ i.fields.entries, e.2.byteSize ≤ 32 := by
  intro e he
  have hword : i.fields.concat.length = 32 := h.binary ▸ h.binary_digits.1
  have hpart : e.2.length ≤ i.fields.concat.length := by
    rw [Fields.concat, List.flatMap_def]
    exact (List.sublist_flatten_of_mem (List.mem_map_of_mem he)).length_le
  rw [Bits.byteSize_eq_length (fields_digits h e he)]
  omega

theorem filter_grouped (h : Interprets line i) : i.fields.grouped.filter (· != ' ') = i.binary := by
  have hspace : ∀ bits ∈ i.fields.entries.map (·.2), ' ' ∉ bits := by
    rw [List.forall_mem_map]
    intro e he hmem
    exact absurd (plain_of_bits (fields_digits h e he) _ hmem).1 (by decide)
  rw [Fields.grouped, filter_intercalate hspace, h.binary, Fields.concat, List.flatMap_def]

theorem unbroken_mnemonicLine {d : Definition} (hd : d ∈ Catalog.definitions) :
    '\n' ∉ mnemonicLine d := by
  have hall : ∀ d ∈ Catalog.definitions, '\n' ∉ mnemonicLine d := by decide +kernel
  exact hall d hd

theorem unbroken_grouped (h : Interprets line i) : '\n' ∉ i.fields.grouped := by
  intro hmem
  have hbinary : '\n' ∈ i.binary := by
    rw [← filter_grouped h]
    exact List.mem_filter.mpr ⟨hmem, by decide⟩
  exact (plain_of_bits h.binary_digits.2).unbroken hbinary

theorem unbroken_hex (h : Interprets line i) : '\n' ∉ i.hex := by
  obtain ⟨-, hdigits⟩ := Word.nibbles_digits (k := 8) h.binary_digits.1
  rw [h.hex, List.mem_append, not_or]
  refine ⟨by decide, fun hmem => ?_⟩
  exact absurd (hdigits _ hmem) (by decide)

theorem readsBack (h : Interprets line i) : ReadsBack i (header i.fields) (rows i.fields) := by
  have hdigits := fields_digits h
  have hplain : ∀ e ∈ i.fields.entries, Plain e.2 := fun e he => plain_of_bits (hdigits e he)
  have hunbroken : ∀ e ∈ i.fields.entries, '\n' ∉ e.2 := fun e he => (hplain e he).unbroken
  constructor
  case table => exact tableLines_report i hunbroken
  case aligned =>
    refine length_row fun e he => ?_
    have hsize := byteSize_le h e he
    omega
  case titles => exact cells_header i.fields
  case entries => exact map_cells_rows hdigits
  case order =>
    rw [column_rows h, ← h.encodes.layout h.listed, List.map_map]
    rfl
  case binary =>
    rw [column_rows h, h.binary]
    rfl
  case sizes =>
    have hcolumn : (column 2 (rows i.fields)).map Radix.decimal.valueOf =
        i.fields.entries.map (·.2.length) := by
      rw [column_rows h, List.map_map]
      exact List.map_congr_left fun _ _ => valueOf_ofNat _
    rw [hcolumn, ← List.length_flatMap, ← h.binary_digits.1, h.binary]
    rfl
  case summary =>
    have hbinary : '\n' ∉ "BINARY  ".toList ++ divider ++ i.fields.grouped := by
      rw [List.mem_append, not_or]
      exact ⟨by decide, unbroken_grouped h⟩
    have hhex : '\n' ∉ "HEX     ".toList ++ divider ++ i.hex := by
      rw [List.mem_append, not_or]
      exact ⟨by decide, unbroken_hex h⟩
    refine ⟨i.fields.grouped, filter_grouped h, ?_⟩
    rw [linesOf_report i hunbroken, List.splitOn_eq_singleton (unbroken_mnemonicLine h.listed),
      List.splitOn_eq_singleton hbinary, List.splitOn_eq_singleton hhex]
    simp

end Accepted

/-- The report on an accepted line is an aligned table from which its fields and its word can be read,
whatever the line itself looks like. The report on any other fields is aligned, too. -/
theorem report_reads_back :
    (∀ line i, (interpret line).outcome = .ok i → ∃ heading rows, ReadsBack i heading rows) ∧
      ∀ i : Interpretation, (∀ e ∈ i.fields.entries, '\n' ∉ e.2 ∧ e.2.byteSize < 10000) →
        ∃ heading rows, tableLines i.report = heading :: rows ∧
          rows.length = i.fields.entries.length ∧ ∀ row ∈ rows, row.length = heading.length := by
  constructor
  · intro line i h
    exact ⟨_, _, readsBack (interpret_eq_ok_iff.mp h)⟩
  · intro i h
    refine ⟨header i.fields, rows i.fields, tableLines_report i fun e he => (h e he).1, ?_,
      length_row fun e he => (h e he).2⟩
    rw [rows, List.length_map]

/-- Lines of a comment that look like a report stand above the table, and a field of three characters
in nine bytes is filled up like any other. -/
theorem report_reads_back_comment :
    (∃ i heading rows, (interpret "j 0x40 # a | b\n\nBINARY   | 1".toList).outcome = .ok i ∧
      ReadsBack i heading rows ∧
      heading :: rows = ["FIELD   | BINARY                     | BITS".toList,
        "opcode  | 000010                     |    6".toList,
        "address | 00000000000000000000010000 |   26".toList]) ∧
    ∃ i : Interpretation, ∃ heading rows, tableLines i.report = heading :: rows ∧
      (∀ row ∈ rows, row.length = heading.length) ∧
      heading :: rows = ["FIELD  | BINARY    | BITS".toList,
        "opcode | \u20AC\u20AC\u20AC       |    9".toList] := by
  constructor
  · have hrun : ((interpret "j 0x40 # a | b\n\nBINARY   | 1".toList).outcome.toOption.map
        fun i => header i.fields :: rows i.fields) = some ["FIELD   | BINARY                     | BITS".toList,
        "opcode  | 000010                     |    6".toList,
        "address | 00000000000000000000010000 |   26".toList] := by
      decide +kernel
    obtain ⟨i, hi, hview⟩ := exists_ok_of_toOption_map hrun
    obtain ⟨heading, rows, hback⟩ := report_reads_back.1 _ i hi
    have htable := (readsBack (interpret_eq_ok_iff.mp hi)).table
    exact ⟨i, heading, rows, hi, hback, by rw [← hback.table, htable, hview]⟩
  · let i : Interpretation := ⟨[], ⟨[], none⟩, Catalog.shift "sll" "000000" "", {},
      { opcode := "\u20AC\u20AC\u20AC".toList }, [], []⟩
    obtain ⟨heading, rows, htable, -, haligned⟩ := report_reads_back.2 i (by decide)
    have hview : tableLines i.report = ["FIELD  | BINARY    | BITS".toList,
        "opcode | \u20AC\u20AC\u20AC       |    9".toList] := by
      decide +kernel
    exact ⟨i, heading, rows, htable, haligned, by rw [← htable, hview]⟩

end MipsEncoding.Report
