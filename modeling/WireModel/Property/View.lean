import WireModel.Property.Basic

/-! Typed reading of properties. A view looks at a node's own properties first and at defaults
second; a value of its own of the wrong kind is an error that a good default does not hide. -/
namespace WireModel

inductive PropertyError where
  | missing (slot : String) (spec : PropertySpec)
  | wrongKind (slot : String) (spec found : PropertySpec)
deriving DecidableEq

def PropertyError.message : PropertyError → String
  | .missing slot spec => s!"checked property `{slot}` is missing (expected {spec.text})"
  | .wrongKind slot spec found =>
    s!"checked property `{slot}` has the wrong kind (expected {spec.text}, found {found.text})"

structure PropertyView where
  own : Properties
  defaults : Properties

namespace PropertyView

def lookup (view : PropertyView) (slot : String) : Option Property :=
  (view.own.get? slot).orElse fun _ => view.defaults.get? slot

def read (view : PropertyView) (slot : String) (spec : PropertySpec) :
    Except PropertyError Property :=
  match view.lookup slot with
  | none => .error (.missing slot spec)
  | some value =>
    if value.Matches spec then .ok value else .error (.wrongKind slot spec value.spec)

def string (view : PropertyView) (slot : String) : Except PropertyError String := do
  match ← view.read slot .string with
  | .string value => return value
  | other => throw (.wrongKind slot .string other.spec)

/-- The chosen label of an enumeration over exactly `labels`. -/
def enumeration (view : PropertyView) (slot : String) (labels : List String) :
    Except PropertyError String := do
  let spec := PropertySpec.ofLabels labels
  match ← view.read slot spec with
  | .enum _ value => return value
  | other => throw (.wrongKind slot spec other.spec)

def qname (view : PropertyView) (slot : String) : Except PropertyError (List String) := do
  match ← view.read slot .qname with
  | .qname segments => return segments
  | other => throw (.wrongKind slot .qname other.spec)

def bool (view : PropertyView) (slot : String) : Except PropertyError Bool := do
  match ← view.read slot .bool with
  | .bool value => return value
  | other => throw (.wrongKind slot .bool other.spec)

def string? (view : PropertyView) (slot : String) :
    Except PropertyError (Option String) := do
  let spec := PropertySpec.optional .string
  match ← view.read slot spec with
  | .absent _ => return none
  | .present _ (.string value) => return some value
  | .present _ other => throw (.wrongKind slot spec other.spec)
  | other => throw (.wrongKind slot spec other.spec)

def enumeration? (view : PropertyView) (slot : String) (labels : List String) :
    Except PropertyError (Option String) := do
  let spec := PropertySpec.optional (.ofLabels labels)
  match ← view.read slot spec with
  | .absent _ => return none
  | .present _ (.enum _ value) => return some value
  | .present _ other => throw (.wrongKind slot spec other.spec)
  | other => throw (.wrongKind slot spec other.spec)

end PropertyView

end WireModel
