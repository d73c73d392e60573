import MipsEncoding.Failure.Wording
import MipsEncoding.Instruction
import MipsEncoding.Operands
import MipsEncoding.Text.Quoted

/-! The journal of a run: what was done to a line, in order. A record keeps the values it speaks of;
its text is made only when it is shown. -/
namespace MipsEncoding

inductive Level
  | error
  | debug
  | trace
  deriving DecidableEq, Repr

def Level.name : Level → Text
  | error => "ERROR".toList
  | debug => "DEBUG".toList
  | trace => "TRACE".toList

inductive Record
  | batchStarted (lines workers : Nat)
  | lineSplit (line : Text) (instruction : Instruction)
  | operandTaken (piece : Text) (role : Role)
  | operandsRead (operands : Operands)
  | encoded (line hex : Text)
  | rejected (line : Text) (failure : Failure)
  | widthRefused (value : Int) (width : Nat)
  | digitsRefused (value : Int) (width : Nat) (digits : Text)
  | lengthRefused (mnemonic binary : Text)
  | binaryRefused (binary : Text)
  deriving DecidableEq, Repr

/-- A slot that may be empty, as the journal shows it. -/
def Text.ofSlot {α : Type} (render : α → Text) : Option α → Text
  | none => "None".toList
  | some a => "Some(".toList ++ render a ++ ")".toList

def Register.journalText (r : Register) : Text := "Reg(".toList ++ Text.ofNat r.number ++ ")".toList

def Instruction.journalText (i : Instruction) : Text :=
  "TokenizedInstr \x7b mnemonic: ".toList ++ i.mnemonic.quoted ++ ", operands: ".toList ++
    Text.ofSlot Text.quoted i.operands ++ " \x7d".toList

def Operands.journalText (ops : Operands) : Text :=
  "ParsedOperands \x7b rd: ".toList ++ Text.ofSlot Register.journalText ops.rd ++
    ", rs: ".toList ++ Text.ofSlot Register.journalText ops.rs ++
    ", rt: ".toList ++ Text.ofSlot Register.journalText ops.rt ++
    ", shamt: ".toList ++ Text.ofSlot Text.ofNat ops.shiftAmount ++
    ", immediate: ".toList ++ Text.ofSlot Text.ofInt ops.immediate ++
    ", label: ".toList ++ Text.ofSlot Text.quoted ops.label ++ " \x7d".toList

namespace Record

/-- Only faults of the library itself are errors; a rejected line is part of normal work. -/
def level : Record → Level
  | operandTaken .. => .trace
  | rejected _ failure => if failure.isInternal then .error else .debug
  | widthRefused .. => .error
  | digitsRefused .. => .error
  | lengthRefused .. => .error
  | binaryRefused _ => .error
  | _ => .debug

def text : Record → Text
  | batchStarted lines workers =>
    "interpreting ".toList ++ Text.ofNat lines ++ " instructions on ".toList ++ Text.ofNat workers ++
      " workers".toList
  | lineSplit line instruction =>
    "tokenized ".toList ++ line.quoted ++ " into ".toList ++ instruction.journalText
  | operandTaken piece role => "parsing operand ".toList ++ piece.quoted ++ " as ".toList ++ role.name
  | operandsRead operands => "parsed operands ".toList ++ operands.journalText
  | encoded line hex => line.quoted ++ " => ".toList ++ hex
  | rejected line failure =>
    if failure.isInternal then
      "internal error interpreting ".toList ++ line.quoted ++ ": ".toList ++ failure.message
    else
      line.quoted ++ " rejected at ".toList ++ failure.stage.name ++ " stage: ".toList ++
        failure.message
  | widthRefused value width =>
    "cannot encode ".toList ++ Text.ofInt value ++ " into ".toList ++ Text.ofNat width ++
      " bits".toList
  | digitsRefused value width digits =>
    "encoding ".toList ++ Text.ofInt value ++ " into ".toList ++ Text.ofNat width ++
      " bits produced ".toList ++ digits.quoted
  | lengthRefused mnemonic binary =>
    mnemonic ++ " assembled into ".toList ++ Text.ofNat binary.byteSize ++ " bits: ".toList ++
      binary.quoted
  | binaryRefused binary => "hex conversion given ".toList ++ binary.quoted

end Record

/-! Runs: computations that may fail and that keep a journal. A failed run keeps the records made
before it failed. The outcome of a sequence is the sequence of the outcomes (`outcome_bind`), so the
journal never influences a result. -/

structure Run (ε α : Type) where
  log : List Record
  outcome : Except ε α

namespace Run

variable {ε ε' α β : Type}

def ok (a : α) : Run ε α := ⟨[], .ok a⟩

def fail (e : ε) : Run ε α := ⟨[], .error e⟩

def note (r : Record) : Run ε Unit := ⟨[r], .ok ()⟩

def failNoting (r : Record) (e : ε) : Run ε α := ⟨[r], .error e⟩

def ofExcept (x : Except ε α) : Run ε α := ⟨[], x⟩

def bind (x : Run ε α) (f : α → Run ε β) : Run ε β :=
  match x.outcome with
  | .ok a =>
    let y := f a
    ⟨x.log ++ y.log, y.outcome⟩
  | .error e => ⟨x.log, .error e⟩

instance : Monad (Run ε) where
  pure := ok
  bind := bind

def mapError (f : ε → ε') (x : Run ε α) : Run ε' α := ⟨x.log, x.outcome.mapError f⟩

@[simp] theorem outcome_pure (a : α) : (pure a : Run ε α).outcome = .ok a := rfl

@[simp] theorem log_pure (a : α) : (pure a : Run ε α).log = [] := rfl

@[simp] theorem outcome_bind (x : Run ε α) (f : α → Run ε β) :
    (x >>= f).outcome = x.outcome >>= fun a => (f a).outcome := by
  obtain ⟨log, outcome⟩ := x
  cases outcome <;> rfl

theorem log_bind_ok {x : Run ε α} {a : α} (h : x.outcome = .ok a) (f : α → Run ε β) :
    (x >>= f).log = x.log ++ (f a).log := by
  obtain ⟨log, outcome⟩ := x
  cases h
  rfl

theorem log_bind_error {x : Run ε α} {e : ε} (h : x.outcome = .error e) (f : α → Run ε β) :
    (x >>= f).log = x.log := by
  obtain ⟨log, outcome⟩ := x
  cases h
  rfl

end Run

end MipsEncoding
