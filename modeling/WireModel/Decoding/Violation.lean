import WireModel.Model.Basic
import WireModel.Pattern.Engine

/-! What keeps a value out of a refinement. The first rule that a value breaks is reported. -/
namespace WireModel

inductive Violation where
  | belowMinimum (min : Int64)
  | aboveMaximum (max : Int64)
  | tooWide (width : UInt32)
  | tooShort (min : UInt64)
  | tooLong (max : UInt64)
  | mismatch (pattern : String)
  | badPattern (fault : Pattern.Fault)
  | wrongScalar
deriving DecidableEq, Repr

def Violation.text : Violation → String
  | .belowMinimum min => s!"below minimum {min.toInt}"
  | .aboveMaximum max => s!"above maximum {max.toInt}"
  | .tooWide width => s!"does not fit in {width.toNat} bits"
  | .tooShort min => s!"shorter than {min.toNat} characters"
  | .tooLong max => s!"longer than {max.toNat} characters"
  | .mismatch pattern => s!"does not match /{pattern}/"
  | .badPattern fault => s!"pattern does not compile: {fault.message}"
  | .wrongScalar => "value has the wrong scalar type"

/-- The least integer above those of a width: half of its range is negative. -/
def widthBound (width : UInt32) : Int64 :=
  1 <<< Int64.ofNat (width.toNat - 1)

/-- A width of 64 bits or more keeps nothing out. -/
def IntRestriction.violation? (r : IntRestriction) (value : Int64) : Option Violation :=
  match r.min.filter (value < ·), r.max.filter (· < value), r.width with
  | some min, _, _ => some (.belowMinimum min)
  | _, some max, _ => some (.aboveMaximum max)
  | _, _, some width =>
    if 1 ≤ width && width ≤ 63 && (value < -widthBound width || widthBound width ≤ value) then
      some (.tooWide width)
    else none
  | _, _, none => none

def StringRestriction.violation? [Pattern.Engine] (r : StringRestriction) (value : String) :
    Option Violation :=
  let length := value.length
  match r.minLength.filter (length < ·.toNat), r.maxLength.filter (·.toNat < length), r.regex with
  | some min, _, _ => some (.tooShort min)
  | _, some max, _ => some (.tooLong max)
  | _, _, some pattern =>
    match Pattern.Engine.compile (Pattern.anchored pattern) with
    | .ok regex => if Pattern.Engine.matchesIn regex value then none else some (.mismatch pattern)
    | .error fault => some (.badPattern fault)
  | _, _, none => none

end WireModel
