import WireModel.Slot.Defaults

/-! Whether every node of a model has a right value in every slot of its kind. -/
namespace WireModel

inductive SlotError where
  | missing (path slot : String) (spec : PropertySpec) (position : Position)
  | wrongKind (path slot : String) (spec found : PropertySpec) (position : Position)
deriving DecidableEq

namespace SlotError

def message : SlotError → String
  | .missing path slot spec _ => s!"{path}: required property `{slot}` ({spec.text}) is not set"
  | .wrongKind path slot spec found _ =>
    s!"{path}: property `{slot}` must be {spec.text}, found {found.text}"

def position : SlotError → Position
  | .missing _ _ _ position | .wrongKind _ _ _ _ position => position

end SlotError

def Node.slotError? (defaults : NodeSlots) (node : Node) (slot : String)
    (spec : PropertySpec) : Option SlotError :=
  match (PropertyView.mk node.info.properties defaults.values).lookup slot with
  | none => some (.missing node.path slot spec node.info.position)
  | some value =>
    if value.Matches spec then none
    else some (.wrongKind node.path slot spec value.spec node.info.position)

/-- The errors of a node, in the order of slot names. -/
def Node.slotErrors (defaults : NodeSlots) (node : Node) : List SlotError :=
  defaults.specs.entries.filterMap fun entry => node.slotError? defaults entry.1 entry.2

def slotErrors (defaults : Defaults) (model : Model) : List SlotError :=
  model.nodes.flatMap fun node => node.slotErrors (defaults.of node.kind)

end WireModel
