import WireModel.OrderedMap

/-! Properties: typed values that a node of a model carries under slot names. A property knows the
spec it was made for, and a value is right for a spec if it was made for exactly that spec and all
of its parts are right. -/
namespace WireModel

abbrev LabelSet := OrderedMap Unit

def LabelSet.ofLabels (labels : List String) : LabelSet :=
  .ofList (labels.map (·, ()))

inductive PropertySpec where
  | string
  | enum (labels : LabelSet)
  | qname
  | bool
  | optional (inner : PropertySpec)
deriving DecidableEq

namespace PropertySpec

def ofLabels (labels : List String) : PropertySpec :=
  .enum (.ofLabels labels)

def text : PropertySpec → String
  | .string => "string"
  | .enum labels => "enum\x7b" ++ "|".intercalate labels.keys ++ "\x7d"
  | .qname => "qname"
  | .bool => "bool"
  | .optional inner => "optional<" ++ inner.text ++ ">"

end PropertySpec

/-- A value under a slot. An optional value carries the spec of what it may hold. -/
inductive Property where
  | string (value : String)
  | enum (labels : LabelSet) (value : String)
  | qname (segments : List String)
  | bool (value : Bool)
  | absent (spec : PropertySpec)
  | present (spec : PropertySpec) (value : Property)
deriving DecidableEq

namespace Property

def ofLabels (labels : List String) (value : String) : Property :=
  .enum (.ofLabels labels) value

def ofDotted (text : String) : Property :=
  .qname (text.splitOn ".")

def spec : Property → PropertySpec
  | .string _ => .string
  | .enum labels _ => .enum labels
  | .qname _ => .qname
  | .bool _ => .bool
  | .absent spec => .optional spec
  | .present spec _ => .optional spec

/-- A present optional value, for the spec of its content. -/
def wrap (value : Property) : Property :=
  .present value.spec value

def Matches : Property → PropertySpec → Bool
  | .string _, .string => true
  | .enum labels value, .enum expected => labels = expected && expected.contains value
  | .qname _, .qname => true
  | .bool _, .bool => true
  | .absent own, .optional inner => own = inner
  | .present own value, .optional inner => own = inner && value.Matches inner
  | _, _ => false

end Property

abbrev Properties := OrderedMap Property

abbrev PropertySpecs := OrderedMap PropertySpec

end WireModel
