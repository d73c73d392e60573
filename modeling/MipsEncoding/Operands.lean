import MipsEncoding.Failure
import MipsEncoding.Register

/-! Operand roles and templates. A template names the roles of an instruction's operands, in the
order in which they are written, with commas between them. -/
namespace MipsEncoding

inductive Role
  | rd
  | rs
  | rt
  | immediate
  | shamt
  | label
  | targetAddress
  | offsetBase
  deriving DecidableEq, Repr

namespace Role

def all : List Role := [rd, rs, rt, immediate, shamt, label, targetAddress, offsetBase]

def name : Role → Text
  | rd => "rd".toList
  | rs => "rs".toList
  | rt => "rt".toList
  | immediate => "immediate".toList
  | shamt => "shamt".toList
  | label => "label".toList
  | targetAddress => "target_address".toList
  | offsetBase => "offset(rs)".toList

def ofName (name : Text) : Except OperandError Role :=
  match all.find? (·.name == name) with
  | some role => .ok role
  | none => .error (.unknownRole name)

theorem ofName_name (role : Role) : ofName role.name = .ok role := by
  cases role <;> rfl

end Role

namespace Template

def parts (template : Text) : List Text := template.splitOn ','

/-- The roles of a template. The first unknown name decides the error. -/
def roles (template : Text) : Except OperandError (List Role) :=
  (parts template).mapM fun part => Role.ofName (Text.trim part)

end Template

/-! The operands of an instruction. A slot is filled exactly if the instruction's template has a
role that writes to it. -/

structure Operands where
  rd : Option Register := none
  rs : Option Register := none
  rt : Option Register := none
  shiftAmount : Option Nat := none
  /-- An immediate value or a memory offset, whose range is checked when it is encoded. -/
  immediate : Option Int := none
  /-- A branch or jump target as written: a numeral or a symbol. -/
  label : Option Text := none
  deriving DecidableEq, Repr

end MipsEncoding
