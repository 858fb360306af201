import WireModel.Json.Reader
import WireModel.Model.Basic
import WireModel.Transport.Property

/-! The JSON form of models. What a writer produces names every field with a default; a reader
also takes what leaves such fields out. -/
namespace WireModel

open Transport

namespace Transport

def wholeNumber (value : Nat) : Json :=
  .number <|
    if value < 0x8000000000000000 then .integer (Int64.ofNat value)
    else .natural (UInt64.ofNat value)

/-- A member that is left out if there is no value. -/
def memberIf {α : Type} (key : String) (write : α → Json) : Option α → List (String × Json)
  | none => []
  | some value => [(key, write value)]

end Transport

namespace Position

def toJson (position : Position) : Json :=
  .object (memberIf "file" .string position.file ++
    [("line", wholeNumber position.line.toNat), ("column", wholeNumber position.column.toNat)])

def ofJson? (json : Json) : Option Position :=
  match recordFields? ["file", "line", "column"] json with
  | some [file, line, column] =>
    return ⟨← optional text? file, ← defaulting uint32? 0 line, ← defaulting uint32? 0 column⟩
  | _ => none

end Position

namespace Info

def members (info : Info) : List (String × Json) :=
  [("properties", info.properties.toJson), ("position", info.position.toJson)]

def ofFields? (mode : Mode) (properties position : Option Json) : Option Info :=
  return ⟨← defaulting (Properties.ofJson? mode) ∅ properties,
    ← defaulting Position.ofJson? {} position⟩

end Info

namespace Basic

def all : List Basic := [.bool, .int, .real, .string]

def ofText? (text : String) : Option Basic :=
  all.find? (·.text = text)

def toJson (basic : Basic) : Json :=
  .string basic.text

def ofJson? (mode : Mode) (json : Json) : Option Basic :=
  (name? mode json).bind ofText?

end Basic

class ReferenceForm (ρ : Type) where
  toJson : ρ → Json
  ofJson? : Mode → Json → Option ρ

/-- Nothing is known before resolution. -/
instance : ReferenceForm Unit where
  toJson _ := .null
  ofJson?
    | _, .null | .buffered, .object [] | .buffered, .array [] => some ()
    | _, _ => none

instance : ReferenceForm Classification where
  toJson
    | .enumeration => .string "enum"
    | .refinement basic => .object [("restricted", basic.toJson)]
    | .plain => .string "none"
  ofJson? mode json := do
    let (name, content) ← choice? json
    match name, content with
    | "enum", content => if isNothing mode content then some .enumeration else none
    | "none", content => if isNothing mode content then some .plain else none
    | "restricted", some content => (Basic.ofJson? mode content).map .refinement
    | _, _ => none

variable {ρ : Type} [ReferenceForm ρ]

namespace TypeExpr

mutual

def toJson : TypeExpr ρ → Json
  | .unit info => node info (.string "unit")
  | .basic info scalar => node info (.object [("basic", scalar.toJson)])
  | .named info name reference =>
    node info (.object [("named",
      .object [("name", .string name), ("reference", ReferenceForm.toJson reference)])])
  | .product info fields => node info (.object [("product", .array (fieldsToJson fields))])
  | .emptyProduct info => node info (.string "empty_product")
  | .list info element => container info "list" element.toJson
  | .set info element => container info "set" element.toJson
  | .dict info key value => container info "dict" (.array [key.toJson, value.toJson])
  | .optional info element => container info "optional" element.toJson
  | .function info argument result =>
    node info (.object [("function",
      .object [("argument", argument.toJson), ("result", result.toJson)])])
where
  node (info : Info) (kind : Json) : Json :=
    .object (("kind", kind) :: info.members)
  container (info : Info) (name : String) (content : Json) : Json :=
    node info (.object [("container", .object [(name, content)])])

def fieldsToJson : List (Field (TypeExpr ρ)) → List Json
  | [] => []
  | field :: rest =>
    .object (("name", .string field.name) :: ("type", field.type.toJson) :: field.info.members) ::
      fieldsToJson rest

end

mutual

def ofJson? (mode : Mode) (json : Json) : Option (TypeExpr ρ) :=
  match _form : recordFields? ["kind", "properties", "position"] json with
  | some [some kind, properties, position] => do
    let build ← kindOfJson? mode kind
    return build (← Info.ofFields? mode properties position)
  | _ => none
termination_by sizeOf json
decreasing_by exact sizeOf_lt_of_recordFields? _form (by simp)

/-- Reads a type but for its properties and position. -/
def kindOfJson? (mode : Mode) (json : Json) : Option (Info → TypeExpr ρ) :=
  match _form : choice? json with
  | some ("unit", content) => if isNothing mode content then some .unit else none
  | some ("empty_product", content) => if isNothing mode content then some .emptyProduct else none
  | some ("basic", some content) => do
    let scalar ← Basic.ofJson? mode content
    return (.basic · scalar)
  | some ("named", some content) =>
    match choiceFields? mode ["name", "reference"] content with
    | some [some name, some reference] => do
      let name ← text? name
      let reference ← ReferenceForm.ofJson? mode reference
      return (.named · name reference)
    | _ => none
  | some ("product", some (.array items)) => do
    let fields ← fieldsOfJson? mode items
    return (.product · fields)
  | some ("container", some content) => containerOfJson? mode content
  | some ("function", some content) =>
    match _fields : choiceFields? mode ["argument", "result"] content with
    | some [some argument, some result] => do
      let argument ← ofJson? mode argument
      let result ← ofJson? mode result
      return (.function · argument result)
    | _ => none
  | _ => none
termination_by sizeOf json
decreasing_by
  all_goals have := sizeOf_lt_of_choice? _form
  · simp_wf
    simp at this
    omega
  · exact this
  · have : sizeOf argument < _ := sizeOf_lt_of_choiceFields? _fields (by simp)
    omega
  · have : sizeOf result < _ := sizeOf_lt_of_choiceFields? _fields (by simp)
    omega

def containerOfJson? (mode : Mode) (json : Json) : Option (Info → TypeExpr ρ) :=
  match _form : choice? json with
  | some ("list", some content) => do
    let element ← ofJson? mode content
    return (.list · element)
  | some ("set", some content) => do
    let element ← ofJson? mode content
    return (.set · element)
  | some ("optional", some content) => do
    let element ← ofJson? mode content
    return (.optional · element)
  | some ("dict", some (.array [key, value])) => do
    let key ← ofJson? mode key
    let value ← ofJson? mode value
    return (.dict · key value)
  | _ => none
termination_by sizeOf json
decreasing_by
  all_goals have := sizeOf_lt_of_choice? _form
  all_goals simp at this ⊢
  all_goals omega

def fieldOfJson? (mode : Mode) (json : Json) : Option (Field (TypeExpr ρ)) :=
  match _form : recordFields? ["name", "type", "properties", "position"] json with
  | some [some name, some type, properties, position] => do
    let name ← text? name
    let type ← ofJson? mode type
    return ⟨⟨name, ← Info.ofFields? mode properties position⟩, type⟩
  | _ => none
termination_by sizeOf json
decreasing_by exact sizeOf_lt_of_recordFields? _form (by simp)

def fieldsOfJson? (mode : Mode) : List Json → Option (List (Field (TypeExpr ρ)))
  | [] => some []
  | item :: rest => do
    let field ← fieldOfJson? mode item
    return field :: (← fieldsOfJson? mode rest)
termination_by items => sizeOf items

end

end TypeExpr

namespace IntRestriction

def toJson (restriction : IntRestriction) : Json :=
  .object (memberIf "min" (.number <| .integer ·) restriction.min ++
    memberIf "max" (.number <| .integer ·) restriction.max ++
    memberIf "width" (wholeNumber ·.toNat) restriction.width)

def ofJson? (json : Json) : Option IntRestriction :=
  match recordFields? ["min", "max", "width"] json with
  | some [min, max, width] =>
    return ⟨← optional int64? min, ← optional int64? max, ← optional uint32? width⟩
  | _ => none

end IntRestriction

namespace StringRestriction

def toJson (restriction : StringRestriction) : Json :=
  .object (memberIf "min_length" (wholeNumber ·.toNat) restriction.minLength ++
    memberIf "max_length" (wholeNumber ·.toNat) restriction.maxLength ++
    memberIf "regex" .string restriction.regex)

def ofJson? (json : Json) : Option StringRestriction :=
  match recordFields? ["min_length", "max_length", "regex"] json with
  | some [min, max, regex] =>
    return ⟨← optional uint64? min, ← optional uint64? max, ← optional text? regex⟩
  | _ => none

end StringRestriction

namespace Restriction

def toJson : Restriction → Json
  | .int restriction => .object [("int", restriction.toJson)]
  | .string restriction => .object [("string", restriction.toJson)]

def ofJson? (json : Json) : Option Restriction :=
  match choice? json with
  | some ("int", some content) => (IntRestriction.ofJson? content).map .int
  | some ("string", some content) => (StringRestriction.ofJson? content).map .string
  | _ => none

end Restriction

namespace Constructor

def toJson (constructor : Constructor ρ) : Json :=
  .object [("name", .string constructor.name),
    ("fields", .array (TypeExpr.fieldsToJson constructor.fields)),
    ("position", constructor.position.toJson)]

def ofJson? (mode : Mode) (json : Json) : Option (Constructor ρ) :=
  match recordFields? ["name", "fields", "position"] json with
  | some [some name, fields, position] =>
    return ⟨← text? name, ← defaulting readFields [] fields,
      ← defaulting Position.ofJson? {} position⟩
  | _ => none
where
  readFields : Json → Option (List (Field (TypeExpr ρ)))
    | .array items => TypeExpr.fieldsOfJson? mode items
    | _ => none

end Constructor

namespace DeclarationKind

def all : List DeclarationKind := [.alias, .sum, .enum, .restricted]

/-- A kind is written as its text, and may be given by its number too. -/
def ofJson? : Json → Option DeclarationKind
  | .string text => all.find? (·.text = text)
  | json => (whole? json).bind (all[·]?)

def member : DeclarationKind → String
  | .alias => "type"
  | .sum => "constructors"
  | .enum => "labels"
  | .restricted => "restriction"

end DeclarationKind

namespace Body

def toJson : Body ρ → Json
  | .alias type => type.toJson
  | .sum constructors => .array (constructors.map Constructor.toJson)
  | .enum labels => texts labels
  | .restricted restriction => restriction.toJson

def ofJson? (mode : Mode) (kind : DeclarationKind) (json : Json) : Option (Body ρ) :=
  match kind, json with
  | .alias, json => (TypeExpr.ofJson? mode json).map .alias
  | .sum, .array items => (items.mapM (Constructor.ofJson? mode)).map .sum
  | .sum, _ => none
  | .enum, json => (texts? json).map .enum
  | .restricted, json => (Restriction.ofJson? json).map .restricted

end Body

namespace Declaration

def toJson (declaration : Declaration ρ) : Json :=
  let kind := declaration.body.kind
  .object [("name", .string declaration.name), ("kind", .string kind.text),
    (kind.member, declaration.body.toJson),
    ("properties", declaration.info.properties.toJson),
    ("position", declaration.info.position.toJson)]

/-- What a declaration holds besides its name is always read from a copy. -/
def ofJson? (json : Json) : Option (Declaration ρ) :=
  match objectFields? ["name", "kind", "position"] json with
  | some [some name, some kind, position] => do
    let kind ← DeclarationKind.ofJson? kind
    match objectFields? [kind.member, "properties"] json with
    | some [some body, properties] =>
      return ⟨← text? name, ← Body.ofJson? .buffered kind body,
        ← Info.ofFields? .buffered properties position⟩
    | _ => none
  | _ => none

end Declaration

def declarationsOfJson? : Json → Option (List (Declaration ρ))
  | .array items => items.mapM Declaration.ofJson?
  | _ => none

structure Source where
  properties : Properties := ∅
  declarations : List (Declaration Unit)

namespace Source

/-- A model is a list of declarations, or an object with its properties and declarations. -/
def ofJson? (mode : Mode) : Json → Option Source
  | .array items => (declarationsOfJson? (.array items)).map fun declarations => { declarations }
  | json =>
    match objectFields? ["properties", "declarations"] json with
    | some [properties, some declarations] =>
      return ⟨← defaulting (Properties.ofJson? mode) ∅ properties,
        ← declarationsOfJson? declarations⟩
    | _ => none

def parse? (text : String) : Option Source :=
  (Json.parse? text).bind (ofJson? .buffered)

end Source

end WireModel
