import WireModel.Model.Basic

/-! Decoders: descriptions of how a value is read from JSON. A decoder is data and not target
code; a fragment wraps the decoder of one declaration with its name and what it needs. -/
namespace WireModel

inductive ReferenceStyle where
  | standalone
  | codecAccessor
deriving DecidableEq, Repr

def ReferenceStyle.text : ReferenceStyle → String
  | .standalone => "standalone"
  | .codecAccessor => "codec_accessor"

inductive Support where
  | decode
  | set
  | dict
  | keyedDict
  | optionalField
  | tagged
  | enumeration
  | refinement
  | codec
deriving DecidableEq, Repr

namespace Support

/-- In the order in which imports are listed. -/
def all : List Support :=
  [.decode, .set, .dict, .keyedDict, .optionalField, .tagged, .enumeration, .refinement, .codec]

def text : Support → String
  | .decode => "decode"
  | .set => "set"
  | .dict => "dict"
  | .keyedDict => "keyed_dict"
  | .optionalField => "optional_field"
  | .tagged => "tagged"
  | .enumeration => "enumeration"
  | .refinement => "refinement"
  | .codec => "codec"

def module : Support → String
  | .decode => "Json.Decode"
  | .set => "Set"
  | .dict => "Dict"
  | .keyedDict => "Typegen.KeyedDict"
  | .optionalField => "Typegen.Field"
  | .tagged => "Typegen.Tagged"
  | .enumeration => "Typegen.Enum"
  | .refinement => "Typegen.Refined"
  | .codec => "Typegen.Codec"

end Support

inductive KeyDecoder where
  | text
  | enumeration (target : String)
  | refined (target : String) (basic : Basic)
deriving DecidableEq, Repr

inductive Presence where
  | required
  | optional
deriving DecidableEq, Repr

def Presence.text : Presence → String
  | .required => "required"
  | .optional => "optional"

/-- Reads the field `name` from the member `key` of an object. -/
structure FieldDecoder (δ : Type) where
  name : String
  key : String
  presence : Presence
  decoder : δ

structure Case (δ : Type) where
  tag : String
  constructor : String
  fields : List (FieldDecoder δ)

def Case.combinator {δ : Type} (case : Case δ) : String :=
  match case.fields.length with
  | 0 => "succeed"
  | 1 => "map"
  | n => s!"map{n}"

inductive Decoder where
  | unit
  | primitive (basic : Basic)
  | call (target : String) (style : ReferenceStyle)
  | list (element : Decoder)
  | set (element : Decoder)
  | nullable (element : Decoder)
  | dict (key : KeyDecoder) (value : Decoder)
  | object (fields : List (FieldDecoder Decoder))
  | tagged (discriminant : String) (cases : List (Case Decoder))
  | enumeration (name : String) (labels : List String)
  | refined (name : String) (restriction : Restriction)

structure FunctionDefinition where
  name : String
  doc : Option String
  signature : Option String
  params : List String
  body : Decoder

structure Linkage where
  module : List String
  imports : List Support
  exposes : List String
deriving DecidableEq

structure Fragment where
  declaration : String
  function : FunctionDefinition
  linkage : Linkage

end WireModel
