import WireModel.Model.Equality
import WireModel.Model.Resolution
import WireModel.Proofs.Types
import WireModel.Slot.Node

/-! Models without positions. Forgetting where the nodes of a model were written commutes with
every traversal, and what is left of a model is what equality up to positions compares. -/
namespace WireModel

variable {ρ σ : Type}

def Info.unplaced (info : Info) : Info :=
  { info with position := {} }

@[simp]
theorem Info.properties_unplaced (info : Info) : info.unplaced.properties = info.properties := rfl

def FieldLabel.unplaced (label : FieldLabel) : FieldLabel :=
  { label with info := label.info.unplaced }

namespace TypeExpr

mutual

/-- Forgets where a type and everything inside it was written. -/
def unplaced : TypeExpr ρ → TypeExpr ρ
  | .unit info => .unit info.unplaced
  | .basic info scalar => .basic info.unplaced scalar
  | .named info name reference => .named info.unplaced name reference
  | .product info fields => .product info.unplaced (unplacedFields fields)
  | .emptyProduct info => .emptyProduct info.unplaced
  | .list info element => .list info.unplaced element.unplaced
  | .set info element => .set info.unplaced element.unplaced
  | .dict info key value => .dict info.unplaced key.unplaced value.unplaced
  | .optional info element => .optional info.unplaced element.unplaced
  | .function info argument result => .function info.unplaced argument.unplaced result.unplaced

def unplacedFields : List (Field (TypeExpr ρ)) → List (Field (TypeExpr ρ))
  | [] => []
  | ⟨label, type⟩ :: rest => ⟨label.unplaced, type.unplaced⟩ :: unplacedFields rest

end

end TypeExpr

def Field.unplaced (field : Field (TypeExpr ρ)) : Field (TypeExpr ρ) :=
  ⟨field.toFieldLabel.unplaced, field.type.unplaced⟩

def Constructor.unplaced (constructor : Constructor ρ) : Constructor ρ where
  name := constructor.name
  fields := TypeExpr.unplacedFields constructor.fields

def Body.unplaced : Body ρ → Body ρ
  | .alias type => .alias type.unplaced
  | .sum constructors => .sum (constructors.map Constructor.unplaced)
  | .enum labels => .enum labels
  | .restricted restriction => .restricted restriction

def Declaration.unplaced (declaration : Declaration ρ) : Declaration ρ where
  name := declaration.name
  body := declaration.body.unplaced
  info := declaration.info.unplaced

def Model.unplaced (model : Model) : Model :=
  model.mapDeclarations Declaration.unplaced

def Node.unplaced (node : Node) : Node :=
  { node with info := node.info.unplaced }

def TypeExpr.Reference.unplaced (reference : TypeExpr.Reference ρ) : TypeExpr.Reference ρ :=
  { reference with position := {} }

namespace TypeExpr

@[simp]
theorem unplacedFields_eq (fields : List (Field (TypeExpr ρ))) :
    unplacedFields fields = fields.map Field.unplaced := by
  induction fields with
  | nil => rfl
  | cons field rest ih => rw [unplacedFields, ih, List.map_cons, Field.unplaced]

@[simp]
theorem walk_unplaced (type : TypeExpr ρ) : type.unplaced.walk = type.walk.map unplaced := by
  induction type using TypeExpr.induction with
  | unit | basic | named | emptyProduct => rfl
  | product info fields ih =>
    simp only [unplaced, walk, walkFields_eq, unplacedFields_eq, List.flatMap_map, List.map_cons,
      List.map_flatMap]
    exact congrArg _ (List.flatMap_congr ih)
  | list info element ih | set info element ih | optional info element ih =>
    simp only [unplaced, walk, ih, List.map_cons]
  | dict info first second ihFirst ihSecond | function info first second ihFirst ihSecond =>
    simp only [unplaced, walk, ihFirst, ihSecond, List.map_cons, List.map_append]

@[simp]
theorem references_unplaced (type : TypeExpr ρ) :
    type.unplaced.references = type.references.map Reference.unplaced := by
  induction type using TypeExpr.induction with
  | unit | basic | named | emptyProduct => rfl
  | product info fields ih =>
    simp only [unplaced, references, fieldReferences_eq, unplacedFields_eq, List.flatMap_map,
      List.map_flatMap]
    exact List.flatMap_congr ih
  | list info element ih | set info element ih | optional info element ih =>
    simp only [unplaced, references, ih]
  | dict info first second ihFirst ihSecond | function info first second ihFirst ihSecond =>
    simp only [unplaced, references, ihFirst, ihSecond, List.map_append]

/-- A payload that does not depend on positions may be put in place before or after. -/
theorem mapReferences_unplaced (f : String → ρ → σ) (type : TypeExpr ρ) :
    type.unplaced.mapReferences (fun name payload _ => f name payload) =
      (type.mapReferences fun name payload _ => f name payload).unplaced := by
  induction type using TypeExpr.induction with
  | unit | basic | named | emptyProduct => rfl
  | product info fields ih =>
    simp only [unplaced, mapReferences, mapFieldReferences_eq, unplacedFields_eq, List.map_map]
    refine congrArg _ (List.map_congr_left fun field member => ?_)
    exact congrArg (Field.mk _) (ih field member)
  | list info element ih | set info element ih | optional info element ih =>
    simp only [unplaced, mapReferences, ih]
  | dict info first second ihFirst ihSecond | function info first second ihFirst ihSecond =>
    simp only [unplaced, mapReferences, ihFirst, ihSecond]

theorem mapFields_unplaced {f : FieldLabel → FieldLabel}
    (blind : ∀ label, f label.unplaced = (f label).unplaced) (type : TypeExpr ρ) :
    type.unplaced.mapFields f = (type.mapFields f).unplaced := by
  induction type using TypeExpr.induction with
  | unit | basic | named | emptyProduct => rfl
  | product info fields ih =>
    simp only [unplaced, mapFields, mapFieldList_eq, unplacedFields_eq, List.map_map]
    refine congrArg _ (List.map_congr_left fun field member => ?_)
    simp only [Function.comp_apply, Field.unplaced, blind, ih field member]
  | list info element ih | set info element ih | optional info element ih =>
    simp only [unplaced, mapFields, ih]
  | dict info first second ihFirst ihSecond | function info first second ihFirst ihSecond =>
    simp only [unplaced, mapFields, ihFirst, ihSecond]

@[simp]
theorem nodes_unplaced (type : TypeExpr ρ) (path : String) :
    type.unplaced.nodes path = (type.nodes path).map Node.unplaced := by
  induction type using TypeExpr.induction generalizing path with
  | unit | basic | named | emptyProduct => rfl
  | product info fields ih =>
    simp only [unplaced, nodes, fieldNodes_eq, unplacedFields_eq, List.flatMap_map, List.map_cons,
      List.map_flatMap]
    refine congrArg _ (List.flatMap_congr fun field member => ?_)
    exact congrArg _ (ih field member _)
  | list info element ih | set info element ih | optional info element ih =>
    simp only [unplaced, nodes, ih, List.map_cons]
    rfl
  | dict info first second ihFirst ihSecond | function info first second ihFirst ihSecond =>
    simp only [unplaced, nodes, ihFirst, ihSecond, List.map_cons, List.map_append]
    rfl

@[simp]
theorem fieldNodes_unplaced (scope : String) (fields : List (Field (TypeExpr ρ))) :
    fieldNodes scope (unplacedFields fields) = (fieldNodes scope fields).map Node.unplaced := by
  simp only [fieldNodes_eq, unplacedFields_eq, List.flatMap_map, List.map_flatMap]
  refine List.flatMap_congr fun field _ => ?_
  exact congrArg _ (field.type.nodes_unplaced _)

end TypeExpr

namespace Body

@[simp]
theorem kind_unplaced (body : Body ρ) : body.unplaced.kind = body.kind := by
  cases body <;> rfl

@[simp]
theorem classify_unplaced (body : Body ρ) : body.unplaced.classify = body.classify := by
  cases body <;> rfl

@[simp]
theorem references_unplaced (body : Body ρ) :
    body.unplaced.references = body.references.map TypeExpr.Reference.unplaced := by
  cases body with
  | «alias» type => exact type.references_unplaced
  | sum constructors =>
    simp only [unplaced, references, List.flatMap_map, List.map_flatMap, Constructor.unplaced,
      TypeExpr.fieldReferences_eq, TypeExpr.unplacedFields_eq]
    refine List.flatMap_congr fun constructor _ => List.flatMap_congr fun field _ => ?_
    exact field.type.references_unplaced
  | enum | restricted => rfl

theorem mapReferences_unplaced (f : String → ρ → σ) (body : Body ρ) :
    body.unplaced.mapReferences (fun name payload _ => f name payload) =
      (body.mapReferences fun name payload _ => f name payload).unplaced := by
  cases body with
  | «alias» type => exact congrArg Body.alias (type.mapReferences_unplaced f)
  | sum constructors =>
    simp only [unplaced, mapReferences, List.map_map]
    refine congrArg _ (List.map_congr_left fun constructor _ => ?_)
    simp only [Function.comp_apply, Constructor.unplaced, TypeExpr.mapFieldReferences_eq,
      TypeExpr.unplacedFields_eq, List.map_map]
    refine congrArg (Constructor.mk _ · _) (List.map_congr_left fun field _ => ?_)
    exact congrArg (Field.mk _) (field.type.mapReferences_unplaced f)
  | enum | restricted => rfl

theorem mapFields_unplaced {f : FieldLabel → FieldLabel}
    (blind : ∀ label, f label.unplaced = (f label).unplaced) (body : Body ρ) :
    body.unplaced.mapFields f = (body.mapFields f).unplaced := by
  cases body with
  | «alias» type => exact congrArg Body.alias (type.mapFields_unplaced blind)
  | sum constructors =>
    simp only [unplaced, mapFields, List.map_map]
    refine congrArg _ (List.map_congr_left fun constructor _ => ?_)
    simp only [Function.comp_apply, Constructor.unplaced, TypeExpr.mapFieldList_eq,
      TypeExpr.unplacedFields_eq, List.map_map]
    refine congrArg (Constructor.mk _ · _) (List.map_congr_left fun field _ => ?_)
    simp only [Function.comp_apply, Field.unplaced, blind, field.type.mapFields_unplaced blind]
  | enum | restricted => rfl

end Body

@[simp]
theorem Declaration.nodes_unplaced (declaration : Declaration ρ) :
    declaration.unplaced.nodes = declaration.nodes.map Node.unplaced := by
  obtain ⟨name, body, info⟩ := declaration
  cases body with
  | «alias» type => exact congrArg (_ :: ·) (type.nodes_unplaced name)
  | sum constructors =>
    simp only [nodes, Declaration.unplaced, Body.unplaced, List.flatMap_map, List.map_cons,
      List.map_flatMap]
    refine congrArg (_ :: ·) (List.flatMap_congr fun constructor _ => ?_)
    exact TypeExpr.fieldNodes_unplaced _ constructor.fields
  | enum | restricted => rfl

@[simp]
theorem Model.nodes_unplaced (model : Model) :
    model.unplaced.nodes = model.nodes.map Node.unplaced := by
  simp only [nodes, unplaced, mapDeclarations, List.flatMap_map, List.map_cons, List.map_flatMap]
  exact congrArg (_ :: ·) (List.flatMap_congr fun declaration _ => declaration.nodes_unplaced)

section Equality

variable [DecidableEq ρ]

theorem Info.unplaced_inj {info other : Info} :
    info.unplaced = other.unplaced ↔ info.properties = other.properties := by
  simp [Info.unplaced]

theorem FieldLabel.unplaced_inj {label other : FieldLabel} :
    label.unplaced = other.unplaced ↔
      label.name = other.name ∧ label.info.properties = other.info.properties := by
  simp [FieldLabel.unplaced, Info.unplaced_inj]

namespace TypeExpr

theorem sameFields_iff {fields others : List (Field (TypeExpr ρ))}
    (each : ∀ field ∈ fields, ∀ other : TypeExpr ρ,
      field.type.same other ↔ field.type.unplaced = other.unplaced) :
    sameFields fields others ↔ unplacedFields fields = unplacedFields others := by
  induction fields generalizing others with
  | nil => cases others <;> simp [sameFields, unplacedFields]
  | cons field rest ih =>
    obtain ⟨first, later⟩ := List.forall_mem_cons.1 each
    cases others with
    | nil => simp [sameFields, unplacedFields]
    | cons other others =>
      simp [sameFields, unplacedFields, FieldLabel.unplaced_inj, first, ih later, and_assoc]

theorem same_iff (type other : TypeExpr ρ) : type.same other ↔ type.unplaced = other.unplaced := by
  induction type using TypeExpr.induction generalizing other with
  | unit | basic | named | emptyProduct =>
    cases other <;> simp [same, unplaced, Info.unplaced_inj, and_assoc]
  | product info fields ih =>
    cases other <;> simp [same, unplaced, Info.unplaced_inj, sameFields_iff ih]
  | list info element ih | set info element ih | optional info element ih =>
    cases other <;> simp [same, unplaced, Info.unplaced_inj, ih]
  | dict info first second ihFirst ihSecond | function info first second ihFirst ihSecond =>
    cases other <;> simp [same, unplaced, Info.unplaced_inj, ihFirst, ihSecond, and_assoc]

end TypeExpr

theorem sameItems_iff {α : Type} {same : α → α → Bool} {f : α → α} {items others : List α}
    (each : ∀ item other, same item other ↔ f item = f other) :
    sameItems same items others ↔ items.map f = others.map f := by
  induction items generalizing others with
  | nil => cases others <;> simp [sameItems]
  | cons item rest ih => cases others <;> simp [sameItems, each, ih]

theorem Constructor.same_iff (constructor other : Constructor ρ) :
    constructor.same other ↔ constructor.unplaced = other.unplaced := by
  have fields : TypeExpr.sameFields constructor.fields other.fields ↔ _ :=
    TypeExpr.sameFields_iff fun field _ => field.type.same_iff
  simp [same, unplaced, fields]

theorem Body.same_iff (body other : Body ρ) : body.same other ↔ body.unplaced = other.unplaced := by
  cases body <;> cases other <;>
    simp [same, unplaced, TypeExpr.same_iff, sameItems_iff Constructor.same_iff]

/-- The comparison of declarations sees all of them but positions. -/
theorem Declaration.same_iff (declaration other : Declaration ρ) :
    declaration.same other ↔ declaration.unplaced = other.unplaced := by
  simp [same, unplaced, Body.same_iff, Info.unplaced_inj, and_assoc]

end Equality

end WireModel
