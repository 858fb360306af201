import WireModel.Property.Basic
import WireModel.Transport.Form

/-! The JSON form of properties and their specs. Both name their kind in one member and have their
content in another. -/
namespace WireModel

open Transport

def texts (values : List String) : Json :=
  .array (values.map .string)

def LabelSet.toJson (labels : LabelSet) : Json :=
  texts labels.keys

def LabelSet.ofJson? (json : Json) : Option LabelSet :=
  (texts? json).map .ofLabels

namespace PropertySpec

def toJson : PropertySpec → Json
  | .string => .object [("spec", .string "string")]
  | .enum labels => .object [("spec", .string "enum"), ("of", labels.toJson)]
  | .qname => .object [("spec", .string "q_name")]
  | .bool => .object [("spec", .string "bool")]
  | .optional inner => .object [("spec", .string "optional"), ("of", inner.toJson)]

def ofName? : String → Option PropertySpec
  | "string" => some .string
  | "q_name" => some .qname
  | "bool" => some .bool
  | _ => none

def ofJson? (mode : Mode) (json : Json) : Option PropertySpec :=
  match _form : tagged? mode "spec" "of" json with
  | none => none
  | some tagged => do
    let name ← name? mode tagged.tag
    match _there : tagged.content with
    | none => ofName? name
    | some content =>
      match name with
      | "enum" => (LabelSet.ofJson? content).map .enum
      | "optional" => (ofJson? tagged.mode content).map .optional
      | name => if isNothing .direct content then ofName? name else none
termination_by sizeOf json
decreasing_by exact sizeOf_lt_of_tagged? _form _there

end PropertySpec

namespace Property

def toJson : Property → Json
  | .string value => .object [("property", .string "string"), ("value", .string value)]
  | .enum labels value =>
    .object [("property", .string "enum"),
      ("value", .object [("labels", labels.toJson), ("value", .string value)])]
  | .qname segments => .object [("property", .string "q_name"), ("value", texts segments)]
  | .bool value => .object [("property", .string "bool"), ("value", .bool value)]
  | .absent spec =>
    .object [("property", .string "optional"),
      ("value", .object [("spec", spec.toJson), ("value", .null)])]
  | .present spec value =>
    .object [("property", .string "optional"),
      ("value", .object [("spec", spec.toJson), ("value", value.toJson)])]

def ofJson? (mode : Mode) (json : Json) : Option Property :=
  match _form : tagged? mode "property" "value" json with
  | none => none
  | some tagged => do
    let name ← name? mode tagged.tag
    match _there : tagged.content with
    | none => none
    | some content =>
      match name with
      | "string" => (text? content).map .string
      | "bool" => (bool? content).map .bool
      | "q_name" => (texts? content).map .qname
      | "enum" =>
        match objectFields? ["labels", "value"] content with
        | some [some labels, some value] =>
          return .enum (← LabelSet.ofJson? labels) (← text? value)
        | _ => none
      | "optional" =>
        match _fields : objectFields? ["spec", "value"] content with
        | some [some spec, none] | some [some spec, some .null] =>
          (PropertySpec.ofJson? tagged.mode spec).map .absent
        | some [some spec, some value] =>
          return .present (← PropertySpec.ofJson? tagged.mode spec) (← ofJson? tagged.mode value)
        | _ => none
      | _ => none
termination_by sizeOf json
decreasing_by
  have := sizeOf_lt_of_tagged? _form _there
  have : sizeOf value < _ := sizeOf_lt_of_objectFields? _fields (by simp)
  omega

end Property

/-- The members of an object with the values read; of a repeated key the last member stays. -/
def OrderedMap.ofJson? {α : Type} (read : Json → Option α) : Json → Option (OrderedMap α)
  | .object members => do
    let entries ← members.mapM fun (key, value) => (read value).map (key, ·)
    return .ofList entries
  | _ => none

def OrderedMap.toJson {α : Type} (write : α → Json) (map : OrderedMap α) : Json :=
  .object (map.entries.map fun (key, value) => (key, write value))

def Properties.ofJson? (mode : Mode) : Json → Option Properties :=
  OrderedMap.ofJson? (Property.ofJson? mode)

def Properties.toJson : Properties → Json :=
  OrderedMap.toJson Property.toJson

end WireModel
