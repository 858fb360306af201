import WireModel.Slot.Node
import WireModel.Model.Traversal
import Mathlib.Data.List.Basic

/-! Induction over types, and the traversals of fields as ordinary functions on lists. -/
namespace WireModel

variable {ρ σ : Type}

private theorem Field.sizeOf_type_lt {fields : List (Field (TypeExpr ρ))}
    {field : Field (TypeExpr ρ)} (member : field ∈ fields) : sizeOf field.type < sizeOf fields := by
  have inFields := List.sizeOf_lt_of_mem member
  obtain ⟨label, type⟩ := field
  simp only [Field.mk.sizeOf_spec] at inFields ⊢
  omega

namespace TypeExpr

/-- Induction over types; of a product the types of all fields are given. -/
@[elab_as_elim]
theorem induction {motive : TypeExpr ρ → Prop}
    (unit : ∀ info, motive (.unit info))
    (basic : ∀ info scalar, motive (.basic info scalar))
    (named : ∀ info name reference, motive (.named info name reference))
    (product : ∀ info fields, (∀ field ∈ fields, motive field.type) → motive (.product info fields))
    (emptyProduct : ∀ info, motive (.emptyProduct info))
    (list : ∀ info element, motive element → motive (.list info element))
    (set : ∀ info element, motive element → motive (.set info element))
    (dict : ∀ info key value, motive key → motive value → motive (.dict info key value))
    (optional : ∀ info element, motive element → motive (.optional info element))
    (function : ∀ info argument result, motive argument → motive result →
      motive (.function info argument result)) :
    ∀ type, motive type
  | .unit info => unit info
  | .basic info scalar => basic info scalar
  | .named info name reference => named info name reference
  | .product info fields => product info fields fun field member =>
    have := Field.sizeOf_type_lt member
    induction unit basic named product emptyProduct list set dict optional function field.type
  | .emptyProduct info => emptyProduct info
  | .list info element => list info element
    (induction unit basic named product emptyProduct list set dict optional function element)
  | .set info element => set info element
    (induction unit basic named product emptyProduct list set dict optional function element)
  | .dict info key value => dict info key value
    (induction unit basic named product emptyProduct list set dict optional function key)
    (induction unit basic named product emptyProduct list set dict optional function value)
  | .optional info element => optional info element
    (induction unit basic named product emptyProduct list set dict optional function element)
  | .function info argument result => function info argument result
    (induction unit basic named product emptyProduct list set dict optional function argument)
    (induction unit basic named product emptyProduct list set dict optional function result)
termination_by type => sizeOf type

variable (fields : List (Field (TypeExpr ρ)))

@[simp]
theorem walkFields_eq : walkFields fields = fields.flatMap (·.type.walk) := by
  induction fields with
  | nil => rfl
  | cons field rest ih => rw [walkFields, ih, List.flatMap_cons]

@[simp]
theorem fieldReferences_eq : fieldReferences fields = fields.flatMap (·.type.references) := by
  induction fields with
  | nil => rfl
  | cons field rest ih => rw [fieldReferences, ih, List.flatMap_cons]

@[simp]
theorem mapFieldReferences_eq (f : String → ρ → Position → σ) :
    mapFieldReferences f fields =
      fields.map fun field => ⟨field.toFieldLabel, field.type.mapReferences f⟩ := by
  induction fields with
  | nil => rfl
  | cons field rest ih => rw [mapFieldReferences, ih, List.map_cons]

@[simp]
theorem mapFieldList_eq (f : FieldLabel → FieldLabel) :
    mapFieldList f fields =
      fields.map fun field => ⟨f field.toFieldLabel, field.type.mapFields f⟩ := by
  induction fields with
  | nil => rfl
  | cons field rest ih => rw [mapFieldList, ih, List.map_cons]

@[simp]
theorem fieldListLabels_eq :
    fieldListLabels fields =
      fields.flatMap fun field => field.toFieldLabel :: field.type.fieldLabels := by
  induction fields with
  | nil => rfl
  | cons field rest ih => rw [fieldListLabels, ih, List.flatMap_cons, List.cons_append]

theorem fieldNodes_eq (scope : String) :
    fieldNodes scope fields =
      fields.flatMap fun field =>
        ⟨.field, scope ++ "." ++ field.name, field.info⟩ ::
          field.type.nodes (scope ++ "." ++ field.name) := by
  induction fields with
  | nil => rfl
  | cons field rest ih => rw [fieldNodes, ih, List.flatMap_cons, List.cons_append]

end TypeExpr

end WireModel
