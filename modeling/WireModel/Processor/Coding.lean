import WireModel.Model.Traversal
import WireModel.Pattern.Engine
import WireModel.Slot.Validation

/-! The coding processor: how declarations and fields are named on the wire. It accepts a model if
its slots are right, no two fields share a key, no field hides the tag, and every restriction
can be met and checked. It changes nothing. -/
namespace WireModel.Coding

def moduleSlot : String := "coding.module"
def referencesSlot : String := "coding.references"
def tagFieldSlot : String := "coding.tagField"
def kindSlot : String := "coding.kind"
def fieldNameSlot : String := "coding.fieldName"

def referenceStyles : List String := ["decoder", "codec"]

def kinds : List String := ["decoder", "encoder", "codec"]

def defaultTagField : String := "tag"

def defaults : Defaults :=
  let top := NodeSlots.define [] [
    (moduleSlot, .qname ["Generated"]),
    (referencesSlot, .ofLabels referenceStyles "decoder"),
    (tagFieldSlot, .string defaultTagField)]
  let declaration := NodeSlots.define [] [(kindSlot, .absent (.ofLabels kinds))]
  let field := NodeSlots.define [] [(fieldNameSlot, .absent .string)]
  (((({} : Defaults).set [.top] top).set [.alias, .sum, .enum, .restricted] declaration).set
    [.field] field)

inductive Error where
  | slot (error : SlotError)
  | duplicateWireKey (scope key : String) (position : Position)
  | tagFieldClash (scope key : String) (position : Position)
  | emptyRange (declaration : String) (min max : Int64) (position : Position)
  | invalidWidth (declaration : String) (width : UInt32) (position : Position)
  | emptyLength (declaration : String) (min max : UInt64) (position : Position)
  | invalidPattern (declaration : String) (fault : Pattern.Fault) (position : Position)
deriving DecidableEq

namespace Error

def message : Error → String
  | .slot error => error.message
  | .duplicateWireKey scope key _ => s!"`{scope}` reads two fields from the key `{key}`"
  | .tagFieldClash scope key _ => s!"`{scope}` has a field keyed `{key}`, which is the tag field"
  | .emptyRange declaration min max _ =>
    s!"`{declaration}` admits no integer: min {min.toInt} exceeds max {max.toInt}"
  | .invalidWidth declaration width _ => s!"`{declaration}` has unsupported width {width.toNat}"
  | .emptyLength declaration min max _ =>
    s!"`{declaration}` admits no string: minLength {min.toNat} exceeds maxLength {max.toNat}"
  | .invalidPattern declaration fault _ =>
    s!"`{declaration}` has an invalid pattern: {fault.message}"

def position : Error → Position
  | .slot error => error.position
  | .duplicateWireKey _ _ position | .tagFieldClash _ _ position | .emptyRange _ _ _ position
  | .invalidWidth _ _ position | .emptyLength _ _ _ position | .invalidPattern _ _ position =>
    position

end Error

/-- The key of a field on the wire: its own if it has one, else its name. -/
def fieldKey (defaults : Defaults) (label : FieldLabel) : String :=
  match (defaults.fieldView label).string? fieldNameSlot with
  | .ok (some key) => key
  | _ => label.name

def tagField (model : Model) : String :=
  match (defaults.topView model).string tagFieldSlot with
  | .ok tag => tag
  | .error _ => defaultTagField

/-- One error for each field whose key is used before it, and one for each field keyed by the
tag. -/
def keyErrors {ρ : Type} (scope : String) (tag : Option String) (seen : List String) :
    List (Field (TypeExpr ρ)) → List Error
  | [] => []
  | field :: rest =>
    let key := fieldKey defaults field.toFieldLabel
    (if seen.contains key then [.duplicateWireKey scope key field.info.position] else []) ++
      (if tag = some key then [.tagFieldClash scope key field.info.position] else []) ++
      keyErrors scope tag (key :: seen) rest

def productErrors {ρ : Type} (scope : String) (type : TypeExpr ρ) : List Error :=
  type.walk.flatMap fun
    | .product _ fields => keyErrors scope none [] fields
    | _ => []

def intErrors (declaration : String) (position : Position) (r : IntRestriction) : List Error :=
  (match r.min, r.max with
    | some min, some max => if max < min then [.emptyRange declaration min max position] else []
    | _, _ => []) ++
  (match r.width with
    | some width =>
      if width = 0 || 64 < width then [.invalidWidth declaration width position] else []
    | none => [])

variable [Pattern.Engine]

def stringErrors (declaration : String) (position : Position) (r : StringRestriction) :
    List Error :=
  (match r.minLength, r.maxLength with
    | some min, some max => if max < min then [.emptyLength declaration min max position] else []
    | _, _ => []) ++
  (match r.regex with
    | some pattern =>
      match Pattern.Engine.compile pattern with
      | .ok _ => []
      | .error fault => [.invalidPattern declaration fault position]
    | none => [])

def restrictionErrors (declaration : String) (position : Position) : Restriction → List Error
  | .int restriction => intErrors declaration position restriction
  | .string restriction => stringErrors declaration position restriction

def declarationErrors {ρ : Type} (tag : String) (declaration : Declaration ρ) : List Error :=
  match declaration.body with
  | .alias type => productErrors declaration.name type
  | .sum constructors =>
    constructors.flatMap fun constructor =>
      let scope := declaration.scopeOf constructor
      keyErrors scope (some tag) [] constructor.fields ++
        constructor.fields.flatMap fun field => productErrors scope field.type
  | .enum _ => []
  | .restricted restriction =>
    restrictionErrors declaration.name declaration.info.position restriction

/-- Wrong slots are reported alone: the other rules read them. -/
def check (model : Model) : Except (List Error) Model :=
  let slots := slotErrors defaults model
  if !slots.isEmpty then .error (slots.map .slot)
  else
    let errors := model.declarations.flatMap (declarationErrors (tagField model))
    if errors.isEmpty then .ok model else .error errors

end WireModel.Coding
