import MipsEncoding.Text

/-! The 32 general-purpose registers and their names. Every register has one conventional name;
`$0` and `$s8` are second names of `$zero` and `$fp`. -/
namespace MipsEncoding

structure Register where
  number : Fin 32
  deriving DecidableEq, Repr

inductive RegisterError
  | notARegister
  deriving DecidableEq, Repr

def RegisterError.message : RegisterError → Text
  | notARegister => "not a register".toList

namespace Register

/-- Every register name with the number it stands for. The conventional name of a register comes
before its second name. -/
def names : List (Text × Fin 32) :=
  [("$zero".toList, 0), ("$0".toList, 0), ("$at".toList, 1), ("$v0".toList, 2), ("$v1".toList, 3),
    ("$a0".toList, 4), ("$a1".toList, 5), ("$a2".toList, 6), ("$a3".toList, 7),
    ("$t0".toList, 8), ("$t1".toList, 9), ("$t2".toList, 10), ("$t3".toList, 11),
    ("$t4".toList, 12), ("$t5".toList, 13), ("$t6".toList, 14), ("$t7".toList, 15),
    ("$s0".toList, 16), ("$s1".toList, 17), ("$s2".toList, 18), ("$s3".toList, 19),
    ("$s4".toList, 20), ("$s5".toList, 21), ("$s6".toList, 22), ("$s7".toList, 23),
    ("$t8".toList, 24), ("$t9".toList, 25), ("$k0".toList, 26), ("$k1".toList, 27),
    ("$gp".toList, 28), ("$sp".toList, 29), ("$fp".toList, 30), ("$s8".toList, 30),
    ("$ra".toList, 31)]

def ofName? (name : Text) : Option Register :=
  (names.find? (·.1 == name)).map fun entry => ⟨entry.2⟩

def ofName (name : Text) : Except RegisterError Register :=
  match ofName? name with
  | some r => .ok r
  | none => .error .notARegister

def ofNumber (n : Nat) : Except RegisterError Register :=
  if h : n < 32 then .ok ⟨⟨n, h⟩⟩ else .error .notARegister

def name (r : Register) : Text :=
  match names.find? (·.2 == r.number) with
  | some entry => entry.1
  | none => []

theorem ofName?_name (r : Register) : ofName? r.name = some r := by
  obtain ⟨n⟩ := r
  revert n
  decide

end Register

end MipsEncoding
