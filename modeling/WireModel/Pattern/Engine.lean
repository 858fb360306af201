/-! Engines for patterns. A model names patterns as texts, and what they mean is the business of the
engine that compiles them. -/
namespace WireModel.Pattern

/-- Why a text is not a pattern, in the words of an engine. -/
structure Fault where
  message : String
deriving DecidableEq, Repr

class Engine where
  Expression : Type
  compile : String → Except Fault Expression
  /-- Whether some part of a text matches. -/
  matchesIn : Expression → String → Bool

/-- The pattern that matches a whole text where `text` matches a part of it. The anchors are put
around the text of the pattern, so a comment that `text` leaves open swallows the end. -/
def anchored (text : String) : String :=
  "^(?:" ++ text ++ ")$"

end WireModel.Pattern
