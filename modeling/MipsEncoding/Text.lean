/-! Texts as lists of characters, with the measures and layouts the rest of the library uses.
A text has two sizes: its number of characters (`List.length`) and its number of UTF-8 bytes
(`byteSize`). Columns are padded by characters, field widths are checked in bytes. -/
namespace MipsEncoding

/-- A text is the list of its characters, so every notion about it is a notion on lists. -/
abbrev Text := List Char

namespace Text

def byteSize (t : Text) : Nat := t.foldr (fun c size => c.utf8Size + size) 0

/-- Fills with spaces on the right up to `width` characters; a longer text stays as it is. -/
def padRight (width : Nat) (t : Text) : Text := t ++ List.replicate (width - t.length) ' '

/-- Fills with spaces on the left up to `width` characters; a longer text stays as it is. -/
def padLeft (width : Nat) (t : Text) : Text := List.replicate (width - t.length) ' ' ++ t

def ofNat (n : Nat) : Text := Nat.toDigits 10 n

def ofInt (n : Int) : Text := if n < 0 then '-' :: ofNat n.natAbs else ofNat n.natAbs

def ofNatHex (n : Nat) : Text := Nat.toDigits 16 n

def line (t : Text) : Text := t ++ ['\n']

@[simp] theorem byteSize_nil : byteSize [] = 0 := rfl

@[simp] theorem byteSize_cons (c : Char) (t : Text) : byteSize (c :: t) = c.utf8Size + byteSize t :=
  rfl

@[simp] theorem byteSize_append (s t : Text) : byteSize (s ++ t) = byteSize s + byteSize t := by
  induction s with
  | nil => simp
  | cons c s ih => simp [ih, Nat.add_assoc]

theorem length_le_byteSize (t : Text) : t.length ≤ byteSize t := by
  induction t with
  | nil => simp
  | cons c t ih =>
    have := c.utf8Size_pos
    simp only [List.length_cons, byteSize_cons]
    omega

theorem length_padRight (width : Nat) (t : Text) : (padRight width t).length = max width t.length := by
  simp only [padRight, List.length_append, List.length_replicate]
  omega

theorem length_padLeft (width : Nat) (t : Text) : (padLeft width t).length = max width t.length := by
  simp only [padLeft, List.length_append, List.length_replicate]
  omega

end Text

end MipsEncoding

/-! Character classes given by ranges of code points. A class is a list of closed ranges; membership
is a search through that list. -/
namespace MipsEncoding.Text

structure Range where
  first : Nat
  last : Nat
  deriving DecidableEq, Repr

namespace Range

/-- A character belongs to a range when its code point lies between the ends, ends included. -/
def contains (r : Range) (c : Char) : Bool := r.first ≤ c.toNat && c.toNat ≤ r.last

def anyContains (ranges : List Range) (c : Char) : Bool := ranges.any (·.contains c)

theorem contains_iff (r : Range) (c : Char) :
    r.contains c = true ↔ r.first ≤ c.toNat ∧ c.toNat ≤ r.last := by
  simp [contains]

theorem anyContains_iff (ranges : List Range) (c : Char) :
    anyContains ranges c = true ↔ ∃ r ∈ ranges, r.first ≤ c.toNat ∧ c.toNat ≤ r.last := by
  simp [anyContains, contains_iff]

end Range

/-! Blank characters, the Unicode property `White_Space`, and trimming. A trimmed text neither
starts nor ends with a blank, and trimming removes nothing but blanks. -/

/-- The code points with the property `White_Space`. -/
def blankRanges : List Range :=
  [⟨0x09, 0x0D⟩, ⟨0x20, 0x20⟩, ⟨0x85, 0x85⟩, ⟨0xA0, 0xA0⟩, ⟨0x1680, 0x1680⟩, ⟨0x2000, 0x200A⟩,
    ⟨0x2028, 0x2029⟩, ⟨0x202F, 0x202F⟩, ⟨0x205F, 0x205F⟩, ⟨0x3000, 0x3000⟩]

def isBlank (c : Char) : Bool := Range.anyContains blankRanges c

def trimStart (t : Text) : Text := t.dropWhile isBlank

def trimEnd (t : Text) : Text := (t.reverse.dropWhile isBlank).reverse

def trim (t : Text) : Text := trimEnd (trimStart t)

/-- The part before the first blank, and the part after it if there is one. -/
def splitAtBlank (t : Text) : Text × Option Text :=
  match t.dropWhile (!isBlank ·) with
  | [] => (t, none)
  | _ :: rest => (t.takeWhile (!isBlank ·), some rest)

/-- The part before the first `mark`, or the whole text if it has none. -/
def before (mark : Char) (t : Text) : Text := t.takeWhile (· != mark)

@[simp] theorem trim_nil : trim [] = [] := rfl

end MipsEncoding.Text
