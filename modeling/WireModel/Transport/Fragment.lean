import WireModel.Decoder.Basic
import WireModel.Transport.Model

/-! The JSON form of fragments. Members stand in a fixed order, with the kind of a decoder first. -/
namespace WireModel

open Transport

def KeyDecoder.toJson : KeyDecoder → Json
  | .text => .object [("key", .string "text")]
  | .enumeration target => .object [("key", .string "enumeration"), ("target", .string target)]
  | .refined target basic =>
    .object [("key", .string "refined"), ("target", .string target), ("basic", basic.toJson)]

namespace Decoder

mutual

def toJson : Decoder → Json
  | .unit => node "unit" []
  | .primitive basic => node "primitive" [("basic", basic.toJson)]
  | .call target style =>
    node "call" [("target", .string target), ("style", .string style.text)]
  | .list element => node "list" [("element", element.toJson)]
  | .set element => node "set" [("element", element.toJson)]
  | .nullable element => node "nullable" [("element", element.toJson)]
  | .dict key value => node "dict" [("key", key.toJson), ("value", value.toJson)]
  | .object fields => node "object" [("fields", .array (fieldsToJson fields))]
  | .tagged discriminant cases =>
    node "tagged" [("discriminant", .string discriminant), ("cases", .array (casesToJson cases))]
  | .enumeration name labels =>
    node "enumeration" [("name", .string name), ("labels", texts labels)]
  | .refined name restriction =>
    node "refined" [("name", .string name), ("restriction", restriction.toJson)]
where
  node (kind : String) (members : List (String × Json)) : Json :=
    .object (("decoder", .string kind) :: members)

def fieldsToJson : List (FieldDecoder Decoder) → List Json
  | [] => []
  | ⟨name, key, presence, decoder⟩ :: rest =>
    .object [("name", .string name), ("key", .string key), ("presence", .string presence.text),
      ("decoder", decoder.toJson)] :: fieldsToJson rest

def casesToJson : List (Case Decoder) → List Json
  | [] => []
  | ⟨tag, constructor, fields⟩ :: rest =>
    .object [("tag", .string tag), ("constructor", .string constructor),
      ("fields", .array (fieldsToJson fields))] :: casesToJson rest

end

end Decoder

def nullable (text : Option String) : Json :=
  text.elim .null .string

def FunctionDefinition.toJson (function : FunctionDefinition) : Json :=
  .object [("name", .string function.name), ("doc", nullable function.doc),
    ("signature", nullable function.signature), ("params", texts function.params),
    ("body", function.body.toJson)]

def Linkage.toJson (linkage : Linkage) : Json :=
  .object [("module", texts linkage.module), ("imports", texts (linkage.imports.map (·.text))),
    ("exposes", texts linkage.exposes)]

def Fragment.toJson (fragment : Fragment) : Json :=
  .object [("declaration", .string fragment.declaration), ("function", fragment.function.toJson),
    ("linkage", fragment.linkage.toJson)]

end WireModel
