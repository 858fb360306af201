/-! Integers of 64 bits in decimal text. Reading accepts a sign and leading zeros; the text that
writing gives is the canonical one. -/
namespace WireModel.Text

inductive IntegerFault where
  | empty
  | invalidDigit
  | tooLarge
  | tooSmall
deriving DecidableEq, Repr

def IntegerFault.message : IntegerFault → String
  | .empty => "cannot parse integer from empty string"
  | .invalidDigit => "invalid digit found in string"
  | .tooLarge => "number too large to fit in target type"
  | .tooSmall => "number too small to fit in target type"

def integerText (value : Int64) : String :=
  toString value.toInt

def digitValue? (c : Char) : Option Nat :=
  if '0' ≤ c && c ≤ '9' then some (c.toNat - 0x30) else none

/-- Reads digits after the number `value`, as long as the number stays at most `bound`. The first
thing wrong from the left is the fault. -/
def readDigits (bound : Nat) (overflow : IntegerFault) (value : Nat) :
    List Char → Except IntegerFault Nat
  | [] => .ok value
  | c :: rest =>
    match digitValue? c with
    | none => .error .invalidDigit
    | some digit =>
      if 10 * value + digit ≤ bound then readDigits bound overflow (10 * value + digit) rest
      else .error overflow

def readInteger (text : String) : Except IntegerFault Int64 :=
  let positive := fun digits =>
    (readDigits 0x7FFFFFFFFFFFFFFF .tooLarge 0 digits).map fun n => Int64.ofInt n
  match text.toList with
  | [] => .error .empty
  | ['+'] | ['-'] => .error .invalidDigit
  | '+' :: digits => positive digits
  | '-' :: digits => (readDigits 0x8000000000000000 .tooSmall 0 digits).map fun n => Int64.ofInt (-n)
  | digits => positive digits

end WireModel.Text
