import WireModel.Proofs.Listings
import WireModel.Proofs.NodePlaces

/-! Slot validation is exact. Which slots of which nodes are at fault is said by look-ups alone, at a
place and for a slot name; the errors are those of the faults, from node to node and in each node
from slot to slot. So only the slots that the kinds of nodes have can matter. -/
namespace WireModel

theorem OrderedMap.listsBy_filterMap {α β : Type} (map : OrderedMap α) (f : String → α → Option β) :
    ListsBy (· < ·) (fun key => (map.get? key).bind (f key))
      (map.entries.filterMap fun entry => f entry.1 entry.2) := by
  refine ⟨(map.entries.filter fun entry => (f entry.1 entry.2).isSome).map Prod.fst, ?_, ?_, ?_⟩
  · exact List.pairwise_map.2 (map.increasing.filter _)
  · intro key there
    cases found : map.get? key with
    | none => simp [found] at there
    | some value =>
      simp only [found, Option.bind_some] at there
      exact List.mem_map.2
        ⟨(key, value), List.mem_filter.2 ⟨mem_entries.2 found, there⟩, rfl⟩
  · rw [List.map_map, List.map_filterMap_some_eq_filter_map_isSome, List.filter_map]
    refine List.map_congr_left fun entry among => ?_
    have there : map.get? entry.1 = some entry.2 := mem_entries.1 (List.mem_filter.1 among).1
    simp [there]

/-- The error of a slot of a node: its kind has the slot, and the value of the node itself, or else
the default, is not there or not right. -/
def Node.faultAt? (defaults : Defaults) (node : Node) (slot : String) : Option SlotError :=
  ((defaults.of node.kind).specs.get? slot).bind fun spec =>
    match (node.info.properties.get? slot).or ((defaults.of node.kind).values.get? slot) with
    | none => some (.missing node.path slot spec node.info.position)
    | some value =>
      if value.Matches spec then none
      else some (.wrongKind node.path slot spec value.spec node.info.position)

def Model.faultAt? (defaults : Defaults) (model : Model) (key : Place × String) :
    Option SlotError :=
  (model.nodeAt? key.1).bind fun node => node.faultAt? defaults key.2

theorem Node.listsBy_slotErrors (defaults : Defaults) (node : Node) :
    ListsBy (· < ·) (node.faultAt? defaults) (node.slotErrors (defaults.of node.kind)) := by
  have listed := (defaults.of node.kind).specs.listsBy_filterMap fun slot spec =>
    node.slotError? (defaults.of node.kind) slot spec
  have sameFault : node.faultAt? defaults = fun slot =>
      ((defaults.of node.kind).specs.get? slot).bind
        (node.slotError? (defaults.of node.kind) slot) := by
    funext slot
    unfold faultAt? slotError? PropertyView.lookup
    cases node.info.properties.get? slot <;> rfl
  rw [sameFault]
  exact listed

theorem listsBy_slotErrors (defaults : Defaults) (model : Model) :
    ListsBy (Prod.Lex Place.Before (· < ·)) (model.faultAt? defaults) (slotErrors defaults model) :=
  ListsBy.flatMap model.enumerates_nodes fun node _ => node.listsBy_slotErrors defaults

/-- Equal but for slots that the kind of the node does not have. -/
structure Node.AgreesOn (defaults : Defaults) (node other : Node) : Prop where
  kind : other.kind = node.kind
  path : other.path = node.path
  position : other.info.position = node.info.position
  slots : ∀ slot, (defaults.of node.kind).specs.contains slot →
    other.info.properties.get? slot = node.info.properties.get? slot

theorem Node.AgreesOn.faultAt?_eq {defaults : Defaults} {node other : Node}
    (agree : node.AgreesOn defaults other) (slot : String) :
    other.faultAt? defaults slot = node.faultAt? defaults slot := by
  unfold faultAt?
  rw [agree.kind, agree.path, agree.position]
  cases known : (defaults.of node.kind).specs.get? slot with
  | none => simp only [Option.bind_none]
  | some spec =>
    have own := agree.slots slot (by rw [OrderedMap.contains, known]; rfl)
    simp only [own]

/-- The errors are those of the slots that are at fault, one for each node and slot, in the order of
the nodes and in each node in the order of slot names. Models whose nodes agree on the slots of
their kinds have the same errors, whatever other slots were added, removed or changed. -/
theorem slot_validation_exact (defaults : Defaults) (model : Model) :
    ListsBy (Prod.Lex Place.Before (· < ·)) (model.faultAt? defaults)
      (slotErrors defaults model) ∧
    ∀ other : Model,
      (∀ place, Option.Rel (Node.AgreesOn defaults) (model.nodeAt? place) (other.nodeAt? place)) →
      slotErrors defaults other = slotErrors defaults model := by
  refine ⟨listsBy_slotErrors defaults model, fun other agree => ?_⟩
  have sameFaults : other.faultAt? defaults = model.faultAt? defaults := by
    funext ⟨place, slot⟩
    have nodes := agree place
    unfold Model.faultAt?
    generalize model.nodeAt? place = node, other.nodeAt? place = node' at nodes ⊢
    cases nodes with
    | none => rfl
    | some same => exact same.faultAt?_eq slot
  have listed := listsBy_slotErrors defaults other
  rw [sameFaults] at listed
  exact listed.unique (listsBy_slotErrors defaults model)

example :
    slotErrors Docs.defaults
      { properties := .ofList [(Docs.requiredSlot, .string "yes")]
        declarations := [
          { name := "T"
            body := .alias (.dict {}
              (.product {} [
                { name := "k"
                  type := .unit {}
                  info := { properties := .ofList [(Docs.docSlot, .bool true)] } }])
              (.unit {})) }] } =
      [.wrongKind "model" "docs.required" .bool .string {},
        .wrongKind "T<key>.k" "doc" (.optional .string) .bool {}] := rfl

end WireModel
