import MipsEncoding.Run
import MipsEncoding.Token

/-! The pieces of an operand text: it is cut at every comma outside parentheses. A closing
parenthesis without an opening one closes nothing. -/
namespace MipsEncoding.Operands

def depthAfter (depth : Nat) : Char → Nat
  | '(' => depth + 1
  | ')' => depth - 1
  | _ => depth

/-- Cuts a text that starts inside `depth` parentheses. -/
def cut (depth : Nat) : Text → List Text
  | [] => [[]]
  | c :: t =>
    if c == ',' && depth == 0 then [] :: cut 0 t
    else (cut (depthAfter depth c) t).modifyHead (c :: ·)

/-- The pieces of an operand text, without blanks around them. There is always at least one. -/
def pieces (t : Text) : List Text := (cut 0 t).map Text.trim

theorem cut_ne_nil (depth : Nat) (t : Text) : cut depth t ≠ [] := by
  induction t generalizing depth with
  | nil => simp [cut]
  | cons c t ih =>
    rw [cut]
    split
    · simp
    · intro h
      have : (cut (depthAfter depth c) t).length = 0 := by
        rw [← List.length_modifyHead, h, List.length_nil]
      exact ih _ (List.length_eq_zero_iff.mp this)

/-! Reading operands against a template. The number of operands is checked first, then the template,
then the operands from left to right; the first fault ends the reading. Where two roles write to one
slot, the later one stays. -/

def readRegister (piece : Text) : Except OperandError Register :=
  match Token.ofText piece with
  | .ok [.register r] => .ok r
  | _ => .error (.notARegister piece)

def readImmediate (piece : Text) : Except OperandError Int :=
  match (Literal.read piece).toOption.bind Literal.value? with
  | some value => .ok value
  | none => .error (.notAnImmediate piece)

/-- A piece that is a decimal number below 32. A number too large for a token is out of range, too. -/
def readShiftAmount (piece : Text) : Except OperandError Nat :=
  match Literal.read piece with
  | .ok (.number .decimal value) =>
    if 0 ≤ value ∧ value < 32 then .ok value.toNat else .error (.shiftOutOfRange piece)
  | .error .numberTooLarge => .error (.shiftOutOfRange piece)
  | _ => .error (.notAnImmediate piece)

def isTargetBreak (c : Char) : Bool := c == ',' || c == '(' || c == ')' || Text.isBlank c

/-- A piece that can be a branch or jump target. What it denotes is found when it is encoded. -/
def readTarget (piece : Text) : Except OperandError Text :=
  if piece.isEmpty || piece.any isTargetBreak then .error (.notATarget piece) else .ok piece

def readMemoryOperand (piece : Text) : Except OperandError (Int × Register) :=
  match Token.ofText piece with
  | .ok [.number _ offset, .leftParen, .register base, .rightParen] => .ok (offset, base)
  | _ => .error (.notAMemoryOperand piece)

/-- Reads a piece in its role and fills the slots that the role writes to. -/
def assign (ops : Operands) (role : Role) (piece : Text) : Except OperandError Operands :=
  match role with
  | .rd => (readRegister piece).map fun r => { ops with rd := some r }
  | .rs => (readRegister piece).map fun r => { ops with rs := some r }
  | .rt => (readRegister piece).map fun r => { ops with rt := some r }
  | .immediate => (readImmediate piece).map fun value => { ops with immediate := some value }
  | .shamt => (readShiftAmount piece).map fun amount => { ops with shiftAmount := some amount }
  | .label => (readTarget piece).map fun target => { ops with label := some target }
  | .targetAddress => (readTarget piece).map fun target => { ops with label := some target }
  | .offsetBase => (readMemoryOperand piece).map fun (offset, base) =>
      { ops with immediate := some offset, rs := some base }

def fill (ops : Operands) : List (Role × Text) → Run OperandError Operands
  | [] => pure ops
  | (role, piece) :: rest => do
    Run.note (.operandTaken piece role)
    let filled ← Run.ofExcept (ops.assign role piece)
    fill filled rest

def read (operands : Option Text) (template : Text) : Run OperandError Operands :=
  let found := match operands with
    | none => []
    | some t => pieces t
  if found.length ≠ (Template.parts template).length then
    Run.fail (.wrongCount template (operands.getD []))
  else do
    let roles ← Run.ofExcept (Template.roles template)
    fill {} (roles.zip found)

end MipsEncoding.Operands
