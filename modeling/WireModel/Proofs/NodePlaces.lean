import WireModel.Proofs.Places
import WireModel.Proofs.Slots

/-! Places of the nodes that carry properties. A model holds its declarations, a declaration and a
product hold fields, a field holds its type, and other types hold types; so every node has one
address, and the traversal of a model meets its nodes in the order of their addresses. -/
namespace WireModel

variable {ρ : Type}

/-- What can stand in a model, with the path that messages name it by. -/
inductive Part (ρ : Type) where
  | declaration (declaration : Declaration ρ)
  | field (path : String) (field : Field (TypeExpr ρ))
  | type (path : String) (type : TypeExpr ρ)

namespace Part

def node : Part ρ → Node
  | .declaration d => ⟨.ofDeclaration d.body.kind, d.name, d.info⟩
  | .field path own => ⟨.field, path, own.info⟩
  | .type path own => ⟨.ofType own, path, own.info⟩

def ofFields (scope : String) (fields : List (Field (TypeExpr ρ))) : List (Part ρ) :=
  fields.map fun field => .field (scope ++ "." ++ field.name) field

def ofBody (declaration : Declaration ρ) : Body ρ → List (Part ρ)
  | .alias whole => [.type declaration.name whole]
  | .sum constructors => constructors.flatMap fun c => ofFields (declaration.scopeOf c) c.fields
  | .enum _ | .restricted _ => []

def ofType (path : String) : TypeExpr ρ → List (Part ρ)
  | .unit _ | .basic .. | .named .. | .emptyProduct _ => []
  | .product _ fields => ofFields path fields
  | .list _ element | .set _ element | .optional _ element =>
    [.type (path ++ "<element>") element]
  | .dict _ key value => [.type (path ++ "<key>") key, .type (path ++ "<value>") value]
  | .function _ argument result =>
    [.type (path ++ "<argument>") argument, .type (path ++ "<result>") result]

def children : Part ρ → List (Part ρ)
  | .declaration d => ofBody d d.body
  | .field path own => [.type path own.type]
  | .type path own => ofType path own

def at? : Part ρ → Place → Option (Part ρ)
  | part, [] => some part
  | part, index :: rest => part.children[index]?.bind (at? · rest)

def nodes : Part ρ → List Node
  | .declaration d => d.nodes
  | .field path own => ⟨.field, path, own.info⟩ :: own.type.nodes path
  | .type path own => own.nodes path

theorem fieldNodes_eq_ofFields (scope : String) (fields : List (Field (TypeExpr ρ))) :
    TypeExpr.fieldNodes scope fields = (ofFields scope fields).flatMap nodes := by
  rw [TypeExpr.fieldNodes_eq, ofFields, List.flatMap_map]
  rfl

theorem nodes_eq_children (part : Part ρ) :
    part.nodes = part.node :: part.children.flatMap nodes := by
  cases part with
  | declaration d =>
    obtain ⟨name, body, info⟩ := d
    cases body with
    | sum constructors =>
      simp only [nodes, Declaration.nodes, node, children, ofBody, fieldNodes_eq_ofFields,
        List.flatMap_assoc]
    | _ => simp [nodes, Declaration.nodes, node, children, ofBody]
  | field path own => simp [nodes, node, children]
  | type path own =>
    cases own with
    | product info fields => exact congrArg _ (fieldNodes_eq_ofFields path fields)
    | _ => simp [nodes, TypeExpr.nodes, node, NodeKind.ofType, TypeExpr.info, children, ofType]

theorem childInduction {motive : Part ρ → Prop}
    (step : ∀ part, (∀ child ∈ part.children, motive child) → motive part) (part : Part ρ) :
    motive part := by
  have type (path : String) (type : TypeExpr ρ) : motive (.type path type) := by
    induction type using TypeExpr.induction generalizing path with
    | unit | basic | named | emptyProduct => exact step _ (by simp [children, ofType])
    | product info fields ih =>
      refine step _ fun child inside => ?_
      obtain ⟨field, member, rfl⟩ := List.mem_map.1 inside
      exact step _ (by simpa [children] using ih field member _)
    | list info element ih | set info element ih | optional info element ih =>
      exact step _ (by simpa [children, ofType] using ih _)
    | dict info first second ihFirst ihSecond | function info first second ihFirst ihSecond =>
      exact step _ (by simp [children, ofType, ihFirst, ihSecond])
  have field (path : String) (field : Field (TypeExpr ρ)) : motive (.field path field) :=
    step _ (by simpa [children] using type path field.type)
  cases part with
  | declaration d =>
    refine step _ fun child inside => ?_
    obtain ⟨name, body, info⟩ := d
    cases body with
    | «alias» whole =>
      obtain rfl := List.mem_singleton.1 inside
      exact type name whole
    | sum constructors =>
      obtain ⟨c, _, inside⟩ := List.mem_flatMap.1 inside
      obtain ⟨member, _, rfl⟩ := List.mem_map.1 inside
      exact field _ member
    | enum | restricted => cases inside
  | field path own => exact field path own
  | type path own => exact type path own

theorem enumerates_nodes (part : Part ρ) :
    Enumerates (fun place => (part.at? place).map node) part.nodes := by
  induction part using childInduction with
  | step part ih =>
    have below (index : Nat) (rest : Place) : (part.at? (index :: rest)).map node =
        part.children[index]?.bind fun child => (child.at? rest).map node := by
      simp [at?, Option.map_bind]
    rw [part.nodes_eq_children]
    exact .root rfl below ih

end Part

def Model.nodeAt? (model : Model) : Place → Option Node
  | [] => some ⟨.top, "model", { properties := model.properties }⟩
  | index :: rest =>
    model.declarations[index]?.bind fun d => ((Part.declaration d).at? rest).map Part.node

theorem Model.enumerates_nodes (model : Model) : Enumerates model.nodeAt? model.nodes :=
  .root rfl (fun _ _ => rfl) fun d _ => (Part.declaration d).enumerates_nodes

section MapInfo

variable (g : Info → Info)

namespace Part

def mapInfo : Part ρ → Part ρ
  | .declaration d => .declaration (d.mapInfo g)
  | .field path own => .field path ⟨own.toFieldLabel.mapInfo g, own.type.mapFields (·.mapInfo g)⟩
  | .type path own => .type path (own.mapFields (·.mapInfo g))

@[simp]
private theorem node_mapInfo (part : Part ρ) : (part.mapInfo g).node = part.node.mapInfo g := by
  cases part with
  | declaration d =>
    obtain ⟨name, body, info⟩ := d
    cases body <;> rfl
  | field => rfl
  | type path own => cases own <;> rfl

@[simp]
private theorem ofFields_mapInfo (scope : String) (fields : List (Field (TypeExpr ρ))) :
    ofFields scope (TypeExpr.mapFieldList (·.mapInfo g) fields) =
      (ofFields scope fields).map (mapInfo g) := by
  rw [ofFields, ofFields, TypeExpr.mapFieldList_eq, List.map_map, List.map_map]
  rfl

@[simp]
private theorem children_mapInfo (part : Part ρ) :
    (part.mapInfo g).children = part.children.map (mapInfo g) := by
  cases part with
  | declaration d =>
    obtain ⟨name, body, info⟩ := d
    cases body with
    | sum constructors =>
      simp only [mapInfo, children, Declaration.mapInfo, Body.mapFields, ofBody,
        List.flatMap_map, List.map_flatMap, ofFields_mapInfo]
      rfl
    | _ => rfl
  | field => rfl
  | type path own =>
    cases own with
    | product info fields => exact ofFields_mapInfo g path fields
    | _ => rfl

@[simp]
theorem at?_mapInfo (part : Part ρ) (place : Place) :
    (part.mapInfo g).at? place = (part.at? place).map (mapInfo g) := by
  induction place generalizing part with
  | nil => rfl
  | cons index rest ih =>
    rw [at?, at?, children_mapInfo, List.getElem?_map]
    cases part.children[index]? with
    | none => rfl
    | some child => exact ih child

end Part

@[simp]
theorem Model.nodeAt?_mapInfo (model : Model) (place : Place) :
    (model.mapDeclarations (·.mapInfo g)).nodeAt? place =
      (model.nodeAt? place).map (Node.mapInfo g) := by
  cases place with
  | nil => rfl
  | cons index rest =>
    rw [nodeAt?, nodeAt?, mapDeclarations, List.getElem?_map]
    cases model.declarations[index]? with
    | none => rfl
    | some d =>
      have below := (Part.declaration d).at?_mapInfo g rest
      rw [Part.mapInfo] at below
      simp only [Option.map_some, Option.bind_some, below, Option.map_map]
      exact congrArg (Option.map · _) (funext fun part => part.node_mapInfo g)

end MapInfo

end WireModel
