import WireModel.Double
import WireModel.OrderedMap

/-! JSON values. The members of an object stand as a list, so that a text with a repeated key has a
value too; a value is canonical if the keys of each of its objects increase strictly. -/
namespace WireModel

/-- A number is an integer of 64 bits with or without a sign, or a double. The unsigned form is
only used above the greatest signed integer. -/
inductive Number where
  | integer (value : Int64)
  | natural (value : UInt64)
  | double (value : Double)
deriving DecidableEq, Repr

def Number.toDouble : Number → Double
  | .integer value => .ofInt value.toInt
  | .natural value => .ofInt value.toNat
  | .double value => value

inductive Json where
  | null
  | bool (value : Bool)
  | number (value : Number)
  | string (value : String)
  | array (items : List Json)
  | object (members : List (String × Json))

namespace Json

instance : Inhabited Json := ⟨.null⟩

mutual

/-- The keys of every object increase strictly. -/
def Canonical : Json → Prop
  | .array items => CanonicalItems items
  | .object members => Increasing members ∧ CanonicalMembers members
  | _ => True

def CanonicalItems : List Json → Prop
  | [] => True
  | item :: rest => item.Canonical ∧ CanonicalItems rest

def CanonicalMembers : List (String × Json) → Prop
  | [] => True
  | (_, value) :: rest => value.Canonical ∧ CanonicalMembers rest

end

mutual

/-- Sorts the members of every object by key; of a repeated key the last member stays. -/
def canonical : Json → Json
  | .array items => .array (canonicalItems items)
  | .object members => .object (canonicalMembers members)
  | value => value

def canonicalItems : List Json → List Json
  | [] => []
  | item :: rest => canonical item :: canonicalItems rest

def canonicalMembers : List (String × Json) → List (String × Json)
  | [] => []
  | (key, value) :: rest =>
    let rest := canonicalMembers rest
    if (findEntry key rest).isSome then rest else insertEntry key (canonical value) rest

end

def member? (value : Json) (key : String) : Option Json :=
  match value with
  | .object members => findEntry key members
  | _ => none

inductive Kind where
  | null
  | bool
  | number
  | string
  | array
  | object
deriving DecidableEq, Repr

def kind : Json → Kind
  | .null => .null
  | .bool _ => .bool
  | .number _ => .number
  | .string _ => .string
  | .array _ => .array
  | .object _ => .object

def Kind.text : Kind → String
  | .null => "null"
  | .bool => "a bool"
  | .number => "a number"
  | .string => "a string"
  | .array => "an array"
  | .object => "an object"

end Json

end WireModel
