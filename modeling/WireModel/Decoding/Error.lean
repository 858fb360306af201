import WireModel.Decoding.Violation
import WireModel.Json.Basic
import WireModel.Text.Integer
import WireModel.Text.Quoted

/-! Why an input is rejected, and where. -/
namespace WireModel

inductive Step where
  | field (key : String)
  | entry (key : String)
  | index (position : Nat)
deriving DecidableEq, Repr

def Step.text : Step → String
  | .field key => "." ++ key
  | .entry key => "[" ++ Text.quoted key ++ "]"
  | .index position => s!"[{position}]"

/-- A place in an input: the steps from the root to it. -/
structure Path where
  steps : List Step := []
deriving DecidableEq, Repr

namespace Path

def push (path : Path) (step : Step) : Path :=
  ⟨path.steps ++ [step]⟩

def text (path : Path) : String :=
  path.steps.foldl (fun text step => text ++ step.text) "$"

end Path

inductive Expectation where
  | bool
  | integer
  | number
  | string
  | array
  | object
  | tag
deriving DecidableEq, Repr

def Expectation.text : Expectation → String
  | .bool => "a bool"
  | .integer => "an integer"
  | .number => "a number"
  | .string => "a string"
  | .array => "an array"
  | .object => "an object"
  | .tag => "a string tag"

inductive KeyFault where
  | notLabel (enumeration : String)
  | notEnumeration (target : String)
  | notInteger (fault : Text.IntegerFault)
  | notCanonical
  | violates (rule : Violation)
  | notRefinement (target : String)
deriving DecidableEq, Repr

def KeyFault.text : KeyFault → String
  | .notLabel enumeration => s!"not a label of {enumeration}"
  | .notEnumeration target => s!"{target} is not an enumeration"
  | .notInteger fault => s!"not an integer ({fault.message})"
  | .notCanonical => "not a canonical integer"
  | .violates rule => rule.text
  | .notRefinement target => s!"{target} is not a refinement"

inductive DecodeError where
  | unknownDecoder (name : String)
  | expected (path : Path) (wanted : Expectation) (found : Json.Kind)
  | missingField (path : Path) (key : String)
  | unknownTag (path : Path) (tag : String)
  | unknownLabel (path : Path) (enumeration label : String)
  | refinement (path : Path) (name value : String) (reason : Violation)
  | invalidKey (path : Path) (key : String) (reason : KeyFault)
  | nonProductiveCycle (path : Path) (name : String)
deriving DecidableEq, Repr

def DecodeError.message : DecodeError → String
  | .unknownDecoder name => s!"no decoder for `{name}`"
  | .expected path wanted found => s!"{path.text}: expected {wanted.text}, found {found.text}"
  | .missingField path key => s!"{path.text}: missing field `{key}`"
  | .unknownTag path tag => s!"{path.text}: unknown tag `{tag}`"
  | .unknownLabel path enumeration label =>
    s!"{path.text}: `{label}` is not a label of {enumeration}"
  | .refinement path name value reason =>
    s!"{path.text}: {value} is not a valid {name}: {reason.text}"
  | .invalidKey path key reason => s!"{path.text}: invalid key `{key}`: {reason.text}"
  | .nonProductiveCycle path name =>
    s!"{path.text}: `{name}` refers to itself without consuming input"

end WireModel
