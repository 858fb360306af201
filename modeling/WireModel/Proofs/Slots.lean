import WireModel.Processor.Docs
import WireModel.Proofs.OrderedMaps
import WireModel.Proofs.PropertyReads
import WireModel.Proofs.Types

/-! Slots of nodes. A node is well supplied if every slot of its kind reads as a right value; the
nodes of a model are its declarations, fields and types at any depth; and bringing documentation
into normal form takes no right value from any slot. -/
namespace WireModel

variable {ρ : Type}

/-- Every slot reads as a value that is right for its spec. -/
def PropertyView.Supplies (view : PropertyView) (specs : PropertySpecs) : Prop :=
  ∀ slot spec, specs.get? slot = some spec →
    ∃ value, view.lookup slot = some value ∧ value.Matches spec

theorem Node.slotError?_eq_none {slots : NodeSlots} {node : Node} {slot : String}
    {spec : PropertySpec} :
    node.slotError? slots slot spec = none ↔
      ∃ value, (PropertyView.mk node.info.properties slots.values).lookup slot = some value ∧
        value.Matches spec := by
  unfold Node.slotError?
  split
  · next missing => simp [missing]
  · next value found => simp [found]

theorem Node.slotErrors_eq_nil {slots : NodeSlots} {node : Node} :
    node.slotErrors slots = [] ↔
      (PropertyView.mk node.info.properties slots.values).Supplies slots.specs := by
  unfold Node.slotErrors PropertyView.Supplies
  simp only [List.filterMap_eq_nil_iff, Prod.forall, OrderedMap.mem_entries,
    Node.slotError?_eq_none]

theorem slotErrors_eq_nil {defaults : Defaults} {model : Model} :
    slotErrors defaults model = [] ↔
      ∀ node ∈ model.nodes,
        (defaults.view node.kind node.info.properties).Supplies (defaults.of node.kind).specs := by
  unfold slotErrors
  simp only [List.flatMap_eq_nil_iff, Node.slotErrors_eq_nil]
  rfl

/-- What slots can see of a node. -/
def Node.face (node : Node) : NodeKind × Info :=
  (node.kind, node.info)

namespace TypeExpr

theorem mem_faces_of_mem_walk {type part : TypeExpr ρ} {path : String} (member : part ∈ type.walk) :
    (NodeKind.ofType part, part.info) ∈ (type.nodes path).map Node.face := by
  induction type using TypeExpr.induction generalizing path with
  | unit | basic | named | emptyProduct =>
    obtain rfl := List.mem_singleton.1 member
    exact List.mem_singleton.2 rfl
  | product info fields ih =>
    simp only [walk, walkFields_eq, List.mem_cons, List.mem_flatMap] at member
    simp only [nodes, fieldNodes_eq, List.map_cons, List.map_flatMap, List.mem_cons,
      List.mem_flatMap]
    refine member.imp (by rintro rfl; rfl) fun ⟨field, inside, member⟩ => ?_
    exact ⟨field, inside, .inr (ih field inside member)⟩
  | list info element ih | set info element ih | optional info element ih =>
    simp only [walk, List.mem_cons] at member
    simp only [nodes, List.map_cons, List.mem_cons]
    exact member.imp (by rintro rfl; rfl) ih
  | dict info first second ihFirst ihSecond | function info first second ihFirst ihSecond =>
    simp only [walk, List.mem_cons, List.mem_append] at member
    simp only [nodes, List.map_cons, List.map_append, List.mem_cons, List.mem_append]
    exact member.imp (by rintro rfl; rfl) (Or.imp ihFirst ihSecond)

theorem mem_faces_of_mem_fieldLabels {type : TypeExpr ρ} {label : FieldLabel} {path : String}
    (member : label ∈ type.fieldLabels) :
    (NodeKind.field, label.info) ∈ (type.nodes path).map Node.face := by
  induction type using TypeExpr.induction generalizing path with
  | unit | basic | named | emptyProduct => simp [fieldLabels] at member
  | product info fields ih =>
    simp only [fieldLabels, fieldListLabels_eq, List.mem_flatMap, List.mem_cons] at member
    simp only [nodes, fieldNodes_eq, List.map_cons, List.map_flatMap, List.mem_cons,
      List.mem_flatMap]
    obtain ⟨field, inside, member⟩ := member
    exact .inr ⟨field, inside, member.imp (by rintro rfl; rfl) (ih field inside)⟩
  | list info element ih | set info element ih | optional info element ih =>
    exact List.mem_cons_of_mem _ (ih member)
  | dict info first second ihFirst ihSecond | function info first second ihFirst ihSecond =>
    simp only [fieldLabels, List.mem_append] at member
    simp only [nodes, List.map_cons, List.map_append, List.mem_cons, List.mem_append]
    exact .inr (member.imp ihFirst ihSecond)

end TypeExpr

namespace Declaration

variable {declaration : Declaration ρ}

theorem mem_faces_self :
    (NodeKind.ofDeclaration declaration.body.kind, declaration.info) ∈
      declaration.nodes.map Node.face :=
  List.mem_cons_self

theorem mem_faces_of_mem_walk {type : TypeExpr ρ} (member : type ∈ declaration.body.walk) :
    (NodeKind.ofType type, type.info) ∈ declaration.nodes.map Node.face := by
  unfold nodes
  rcases body : declaration.body with whole | constructors | _ | _
  · rw [body] at member
    exact List.mem_cons_of_mem _ (TypeExpr.mem_faces_of_mem_walk member)
  · simp only [body, Body.walk, TypeExpr.walkFields_eq, List.mem_flatMap] at member
    obtain ⟨constructor, among, field, inside, member⟩ := member
    simp only [TypeExpr.fieldNodes_eq, List.map_cons, List.map_flatMap, List.mem_cons,
      List.mem_flatMap]
    exact .inr ⟨constructor, among, field, inside, .inr (TypeExpr.mem_faces_of_mem_walk member)⟩
  all_goals simp [body, Body.walk] at member

theorem mem_faces_of_mem_fieldLabels {label : FieldLabel}
    (member : label ∈ declaration.body.fieldLabels) :
    (NodeKind.field, label.info) ∈ declaration.nodes.map Node.face := by
  unfold nodes
  rcases body : declaration.body with whole | constructors | _ | _
  · rw [body] at member
    exact List.mem_cons_of_mem _ (TypeExpr.mem_faces_of_mem_fieldLabels member)
  · simp only [body, Body.fieldLabels, TypeExpr.fieldListLabels_eq, List.mem_flatMap,
      List.mem_cons] at member
    obtain ⟨constructor, among, field, inside, member⟩ := member
    simp only [TypeExpr.fieldNodes_eq, List.map_cons, List.map_flatMap, List.mem_cons,
      List.mem_flatMap]
    exact .inr ⟨constructor, among, field, inside, member.imp (by rintro rfl; rfl)
      TypeExpr.mem_faces_of_mem_fieldLabels⟩
  all_goals simp [body, Body.fieldLabels] at member

end Declaration

def FieldLabel.mapInfo (g : Info → Info) (label : FieldLabel) : FieldLabel :=
  { label with info := g label.info }

@[simp]
theorem FieldLabel.name_mapInfo (g : Info → Info) (label : FieldLabel) :
    (label.mapInfo g).name = label.name := rfl

@[simp]
theorem FieldLabel.info_mapInfo (g : Info → Info) (label : FieldLabel) :
    (label.mapInfo g).info = g label.info := rfl

def Declaration.mapInfo (g : Info → Info) (declaration : Declaration ρ) : Declaration ρ :=
  { declaration with
    body := declaration.body.mapFields (·.mapInfo g)
    info := g declaration.info }

@[simp]
theorem Declaration.name_mapInfo (g : Info → Info) (declaration : Declaration ρ) :
    (declaration.mapInfo g).name = declaration.name := rfl

@[simp]
theorem Declaration.body_mapInfo (g : Info → Info) (declaration : Declaration ρ) :
    (declaration.mapInfo g).body = declaration.body.mapFields (·.mapInfo g) := rfl

@[simp]
theorem Declaration.info_mapInfo (g : Info → Info) (declaration : Declaration ρ) :
    (declaration.mapInfo g).info = g declaration.info := rfl

/-- Replaces what a node carries if it is a declaration or a field. -/
def Node.mapInfo (g : Info → Info) (node : Node) : Node :=
  if [.alias, .sum, .enum, .restricted, .field].contains node.kind then
    { node with info := g node.info }
  else node

section MapInfo

variable (g : Info → Info)

@[simp]
theorem TypeExpr.nodes_mapInfo (type : TypeExpr ρ) (path : String) :
    (type.mapFields (·.mapInfo g)).nodes path = (type.nodes path).map (Node.mapInfo g) := by
  induction type using TypeExpr.induction generalizing path with
  | unit | basic | named | emptyProduct => rfl
  | product info fields ih =>
    rw [TypeExpr.mapFields, TypeExpr.mapFieldList_eq, TypeExpr.nodes, TypeExpr.nodes,
      TypeExpr.fieldNodes_eq, TypeExpr.fieldNodes_eq, List.map_cons, List.map_flatMap,
      List.flatMap_map]
    congr 1
    refine List.flatMap_congr fun field inside => ?_
    rw [List.map_cons, ih field inside]
    rfl
  | list info element ih | set info element ih | optional info element ih =>
    rw [TypeExpr.mapFields, TypeExpr.nodes, TypeExpr.nodes, List.map_cons, ih]
    rfl
  | dict info first second ihFirst ihSecond | function info first second ihFirst ihSecond =>
    rw [TypeExpr.mapFields, TypeExpr.nodes, TypeExpr.nodes, List.map_cons, List.map_append,
      ihFirst, ihSecond]
    rfl

@[simp]
private theorem TypeExpr.fieldNodes_mapInfo (fields : List (Field (TypeExpr ρ))) (scope : String) :
    TypeExpr.fieldNodes scope (TypeExpr.mapFieldList (·.mapInfo g) fields) =
      (TypeExpr.fieldNodes scope fields).map (Node.mapInfo g) := by
  rw [TypeExpr.mapFieldList_eq, TypeExpr.fieldNodes_eq, TypeExpr.fieldNodes_eq, List.map_flatMap,
    List.flatMap_map]
  refine List.flatMap_congr fun field _ => ?_
  rw [List.map_cons, TypeExpr.nodes_mapInfo]
  rfl

@[simp]
theorem Declaration.nodes_mapInfo (declaration : Declaration ρ) :
    (declaration.mapInfo g).nodes = declaration.nodes.map (Node.mapInfo g) := by
  obtain ⟨name, body, info⟩ := declaration
  rcases body with type | constructors | labels | restriction
  · rw [Declaration.mapInfo, Declaration.nodes, Declaration.nodes, List.map_cons]
    exact congrArg _ (type.nodes_mapInfo g name)
  · rw [Declaration.mapInfo, Declaration.nodes, Declaration.nodes, List.map_cons]
    simp only [Body.mapFields, List.flatMap_map, List.map_flatMap]
    exact congrArg _ (List.flatMap_congr fun constructor _ =>
      TypeExpr.fieldNodes_mapInfo g constructor.fields _)
  · rfl
  · rfl

@[simp]
theorem Model.nodes_mapInfo (model : Model) :
    (model.mapDeclarations (·.mapInfo g)).nodes = model.nodes.map (Node.mapInfo g) := by
  rw [Model.nodes, Model.nodes, Model.mapDeclarations, List.flatMap_map, List.map_cons,
    List.map_flatMap]
  exact congrArg _ (List.flatMap_congr fun declaration _ => declaration.nodes_mapInfo g)

end MapInfo

namespace Docs

/-- A rewriting of what nodes carry that touches nothing but documentation. -/
structure Confined (g : Info → Info) : Prop where
  position : ∀ info, (g info).position = info.position
  slots : ∀ info slot, slot ≠ docSlot → (g info).properties.get? slot = info.properties.get? slot

theorem get?_normalizeInfo_of_ne (info : Info) {slot : String} (h : slot ≠ docSlot) :
    (normalizeInfo info).properties.get? slot = info.properties.get? slot := by
  unfold normalizeInfo
  split
  · rw [OrderedMap.get?_insert, if_neg h]
  · rfl

theorem confined_normalizeInfo : Confined normalizeInfo where
  position info := by
    unfold normalizeInfo
    split <;> rfl
  slots info _ := get?_normalizeInfo_of_ne info

theorem supplies_normalizeInfo {info : Info} {values : Properties} {specs : PropertySpecs}
    (h : (PropertyView.mk info.properties values).Supplies specs) :
    (PropertyView.mk (normalizeInfo info).properties values).Supplies specs := by
  intro slot spec wanted
  obtain ⟨value, found, fits⟩ := h slot spec wanted
  -- Only a documentation of the node's own is rewritten, and it keeps its spec.
  by_cases isDoc : slot = docSlot
  case neg =>
    refine ⟨value, ?_, fits⟩
    rwa [PropertyView.lookup, get?_normalizeInfo_of_ne info isDoc]
  subst isDoc
  unfold normalizeInfo
  split
  · next own text there =>
    simp only [PropertyView.lookup, there, Option.orElse_some, Option.some.injEq] at found
    subst found
    refine ⟨.wrap (.string (normalize text)), ?_, ?_⟩
    · simp [PropertyView.lookup, OrderedMap.get?_insert]
    · obtain ⟨_, rfl⟩ := Property.matches_present_string.1 fits
      exact Property.matches_present_string.2 ⟨rfl, rfl⟩
  · exact ⟨value, found, fits⟩

/-- Bringing documentation into normal form breaks no slot, whatever the slots are. -/
theorem slotErrors_normalize {defaults : Defaults} {model : Model}
    (h : slotErrors defaults model = []) :
    slotErrors defaults (model.mapDeclarations normalizeDeclaration) = [] := by
  rw [slotErrors_eq_nil] at h ⊢
  have nodes : (model.mapDeclarations normalizeDeclaration).nodes =
      model.nodes.map (Node.mapInfo normalizeInfo) :=
    model.nodes_mapInfo normalizeInfo
  rw [nodes]
  intro node member
  obtain ⟨node, before, rfl⟩ := List.mem_map.1 member
  have supplied := h node before
  unfold Node.mapInfo
  split
  · exact supplies_normalizeInfo supplied
  · exact supplied

end Docs

end WireModel
