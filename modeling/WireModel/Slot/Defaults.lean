import WireModel.Property.View
import WireModel.Slot.Node

/-! Which slots a kind of node has, and what an unset slot reads as. -/
namespace WireModel

/-- The slots of one kind of node: a spec for each, and values for those that may stay unset. -/
structure NodeSlots where
  specs : PropertySpecs := ∅
  values : Properties := ∅
deriving DecidableEq

namespace NodeSlots

/-- Slots that a model has to set, and slots that have a value; the spec of a value is its own. -/
def define (required : List (String × PropertySpec)) (set : List (String × Property)) :
    NodeSlots where
  specs := (OrderedMap.ofList required).insertAll (set.map fun entry => (entry.1, entry.2.spec))
  values := .ofList set

def merge (defaults other : NodeSlots) : NodeSlots where
  specs := defaults.specs.merge other.specs
  values := defaults.values.merge other.values

def isEmpty (defaults : NodeSlots) : Bool :=
  defaults.specs.isEmpty && defaults.values.isEmpty

end NodeSlots

structure Defaults where
  of : NodeKind → NodeSlots := fun _ => {}

namespace Defaults

def set (defaults : Defaults) (kinds : List NodeKind) (node : NodeSlots) : Defaults where
  of kind := if kinds.contains kind then node else defaults.of kind

def merge (defaults other : Defaults) : Defaults where
  of kind := (defaults.of kind).merge (other.of kind)

/-- The slots of all records; of one slot the last record counts. -/
def merged (records : List Defaults) : Defaults :=
  records.foldl merge {}

/-- A view of a node's properties with the values of its kind behind them. -/
def view (defaults : Defaults) (kind : NodeKind) (own : Properties) : PropertyView :=
  ⟨own, (defaults.of kind).values⟩

def topView (defaults : Defaults) (model : Model) : PropertyView :=
  defaults.view .top model.properties

def declarationView (defaults : Defaults) {ρ : Type} (declaration : Declaration ρ) :
    PropertyView :=
  defaults.view (.ofDeclaration declaration.body.kind) declaration.info.properties

def fieldView (defaults : Defaults) (label : FieldLabel) : PropertyView :=
  defaults.view .field label.info.properties

def typeView (defaults : Defaults) {ρ : Type} (type : TypeExpr ρ) : PropertyView :=
  defaults.view (.ofType type) type.info.properties

end Defaults

end WireModel
