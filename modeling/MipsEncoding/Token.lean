import MipsEncoding.Numeral
import MipsEncoding.Register
import MipsEncoding.Text.WordCharacter

/-! The tokens of an operand. A text is cut into lexemes from the left, each as long as possible:
parentheses and commas stand alone, `$` takes the word after it, and anything else runs up to the
next delimiter. Spacers separate lexemes and belong to none. A lexeme that is no token is kept with
the reason, and cutting goes on after it. -/
namespace MipsEncoding

inductive Token
  | number (radix : Radix) (value : Int)
  | register (r : Register)
  | word (text : Text)
  | leftParen
  | rightParen
  | comma
  deriving DecidableEq, Repr

inductive TokenError
  | numberTooLarge
  | unknownRegister
  | unknownSymbol
  deriving DecidableEq, Repr

/-- An unknown symbol is the cause where nothing more can be said. -/
instance : Inhabited TokenError := ⟨.unknownSymbol⟩

structure Lexeme where
  slice : Text
  token : Except TokenError Token

/-- The characters that only separate lexemes: space, tab, carriage return, line feed, form feed. -/
def isSpacer (c : Char) : Bool := c == ' ' || c == '\t' || c == '\r' || c == '\n' || c == '\x0c'

/-- The characters that end a plain run: the punctuation, the register mark and the spacers. -/
def isDelimiter (c : Char) : Bool := c == ',' || c == '(' || c == ')' || c == '$' || isSpacer c

namespace Token

def ofPunctuation? : Char → Option Token
  | '(' => some leftParen
  | ')' => some rightParen
  | ',' => some comma
  | _ => none

def ofRegisterRun (run : Text) : Except TokenError Token :=
  match Register.ofName? run with
  | some r => .ok (register r)
  | none => .error .unknownRegister

/-- The token of a run without delimiters: a number if all of it is a numeral, else a word. -/
def ofPlainRun (run : Text) : Except TokenError Token :=
  match Numeral.read? run with
  | some n => if fitsSignedWord n.value then .ok (number n.radix n.value) else .error .numberTooLarge
  | none => .ok (word run)

end Token

namespace Lexeme

def all : Text → List Lexeme
  | [] => []
  | c :: t =>
    if isSpacer c then all t
    else match Token.ofPunctuation? c with
      | some token => ⟨[c], .ok token⟩ :: all t
      | none =>
        if c == '$' then
          let run := c :: t.takeWhile Text.isWordCharacter
          ⟨run, Token.ofRegisterRun run⟩ :: all (t.dropWhile Text.isWordCharacter)
        else
          let run := c :: t.takeWhile (!isDelimiter ·)
          ⟨run, Token.ofPlainRun run⟩ :: all (t.dropWhile (!isDelimiter ·))
termination_by t => t.length
decreasing_by
  all_goals simp only [List.length_cons]
  · omega
  · omega
  · exact Nat.lt_succ_of_le (List.dropWhile_suffix _).length_le
  · exact Nat.lt_succ_of_le (List.dropWhile_suffix _).length_le

end Lexeme

/-- The tokens of a text, or the reason why its first bad lexeme is none. -/
def Token.ofText (t : Text) : Except TokenError (List Token) := (Lexeme.all t).mapM (·.token)

/-! Literals: texts that hold a single number or a single word. The operand reader and the encoder
both go through `Literal.read`, so they agree on what a number is. -/

inductive Literal
  | number (radix : Radix) (value : Int)
  | symbol (text : Text)
  deriving DecidableEq, Repr

namespace Literal

def value? : Literal → Option Int
  | number _ value => some value
  | symbol _ => none

/-- Reads a text as one literal. The first bad lexeme decides the error; a text of good tokens that
is no literal holds an unknown symbol. -/
def read (t : Text) : Except TokenError Literal :=
  match Token.ofText t with
  | .ok [.number radix value] => .ok (number radix value)
  | .ok [.word text] => .ok (symbol text)
  | .ok _ => .error .unknownSymbol
  | .error e => .error e

end Literal

end MipsEncoding
