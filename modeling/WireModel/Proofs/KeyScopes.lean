import WireModel.Proofs.GeneratedDecoders
import WireModel.Proofs.Validation

/-! Fields that stand together, and what the coding processor asks of their keys: that each is new
and that the fields of a constructor leave the tag alone. The scopes of a declaration are
enumerated by their places, and the errors of a scope list the fields that break a rule. -/
namespace WireModel

variable {ρ : Type}

namespace TypeExpr

private theorem fieldLabels_subset_of_child {type child : TypeExpr ρ}
    (among : child ∈ type.children) : child.fieldLabels ⊆ type.fieldLabels := by
  intro label inside
  cases type with
  | product info fields =>
    obtain ⟨field, member, rfl⟩ := List.mem_map.1 among
    rw [fieldLabels, fieldListLabels_eq]
    exact List.mem_flatMap.2 ⟨field, member, List.mem_cons_of_mem _ inside⟩
  | list | set | optional =>
    obtain rfl := List.mem_singleton.1 among
    exact inside
  | dict | function =>
    obtain rfl | rfl := List.mem_pair.1 among
    · exact List.mem_append_left _ inside
    · exact List.mem_append_right _ inside
  | unit | basic | named | emptyProduct => cases among

theorem mem_fieldLabels_of_mem_walk {type part : TypeExpr ρ} (inside : part ∈ type.walk)
    {field : Field (TypeExpr ρ)} (member : field ∈ part.productFields) :
    field.toFieldLabel ∈ type.fieldLabels := by
  induction type using childInduction with
  | step type ih =>
    rw [walk_eq_children, List.mem_cons, List.mem_flatMap] at inside
    obtain rfl | ⟨child, among, inside⟩ := inside
    · cases part with
      | product info fields =>
        rw [fieldLabels, fieldListLabels_eq]
        exact List.mem_flatMap.2 ⟨field, member, List.mem_cons_self⟩
      | _ => cases member
    · exact fieldLabels_subset_of_child among (ih child among inside)

end TypeExpr

namespace Body

private theorem mem_fieldLabels_of_constructor {body : Body ρ} {constructor : Constructor ρ}
    (among : constructor ∈ body.constructors) {field : Field (TypeExpr ρ)}
    (member : field ∈ constructor.fields) : field.toFieldLabel ∈ body.fieldLabels := by
  cases body with
  | sum constructors =>
    simp only [fieldLabels, TypeExpr.fieldListLabels_eq, List.mem_flatMap]
    exact ⟨constructor, among, field, member, List.mem_cons_self⟩
  | _ => cases among

theorem mem_fieldLabels_of_mem_walk {body : Body ρ} {part : TypeExpr ρ} (inside : part ∈ body.walk)
    {field : Field (TypeExpr ρ)} (member : field ∈ part.productFields) :
    field.toFieldLabel ∈ body.fieldLabels := by
  cases body with
  | «alias» type => exact TypeExpr.mem_fieldLabels_of_mem_walk inside member
  | sum constructors =>
    simp only [walk, TypeExpr.walkFields_eq, List.mem_flatMap] at inside
    obtain ⟨constructor, among, own, within, inside⟩ := inside
    simp only [fieldLabels, TypeExpr.fieldListLabels_eq, List.mem_flatMap]
    exact ⟨constructor, among, own, within,
      List.mem_cons_of_mem _ (TypeExpr.mem_fieldLabels_of_mem_walk inside member)⟩
  | enum | restricted => cases inside

end Body

namespace Coding

/-- Fields that stand together, with the name of what they stand in and the key that they must
leave to the tag. -/
structure KeyScope (ρ : Type) where
  name : String
  tag : Option String
  fields : List (Field (TypeExpr ρ))

namespace KeyScope

/-- A product stands for itself; other types have no fields. -/
def ofType (name : String) (type : TypeExpr ρ) : KeyScope ρ :=
  ⟨name, none, type.productFields⟩

variable (scope : KeyScope ρ)

def repeatAt? (index : Nat) : Option Error :=
  (WireModel.repeatAt? (·.wireKey) scope.fields index).map fun field =>
    .duplicateWireKey scope.name field.wireKey field.info.position

def clashAt? (index : Nat) : Option Error :=
  (scope.fields[index]?.filter fun field => scope.tag = some field.wireKey).map fun field =>
    .tagFieldClash scope.name field.wireKey field.info.position

end KeyScope

/-- The fields that stand together at a place of a constructor: its own, or those of a product in
one of them. -/
def constructorScopeAt? (name tag : String) (constructor : Constructor ρ) :
    Place → Option (KeyScope ρ)
  | [] => some ⟨name, some tag, constructor.fields⟩
  | index :: rest =>
    constructor.fields[index]?.bind fun field => (field.type.at? rest).map (.ofType name)

def keyScopeAt? (tag : String) (declaration : Declaration ρ) (place : Place) :
    Option (KeyScope ρ) :=
  match declaration.body with
  | .alias type => (type.at? place).map (.ofType declaration.name)
  | .sum constructors =>
    enter (fun constructor => constructorScopeAt? (declaration.scopeOf constructor) tag constructor)
      constructors place
  | .enum _ | .restricted _ => none

section Keys

theorem tagField_eq_tagKey (model : Model) : tagField model = model.tagKey := by
  unfold tagField
  split
  · next tag read => exact Model.eq_tagKey rfl read
  · next failed =>
    unfold Model.tagKey
    split
    · next tag own =>
      have read : (defaults.topView model).string tagFieldSlot = .ok tag :=
        PropertyView.string_eq_ok.2 (PropertyView.lookup_eq_some.2 (.inl own))
      cases failed.symm.trans read
    · rfl

theorem fieldKey_eq_wireKey_of_slots {model : Model} (slots : slotErrors defaults model = [])
    {declaration : Declaration Classification} (member : declaration ∈ model.declarations)
    {label : FieldLabel} (inside : label ∈ declaration.body.fieldLabels) :
    fieldKey defaults label = label.wireKey := by
  have face := mem_faces_of_declaration member (Declaration.mem_faces_of_mem_fieldLabels inside)
  obtain ⟨node, among, same⟩ := List.mem_map.1 face
  have supplied := slotErrors_eq_nil.1 slots node among
  obtain ⟨kind, info⟩ := Prod.mk.inj same
  rw [kind, info] at supplied
  obtain ⟨text, read⟩ := string?_of_supplies supplied fieldNameSlot rfl
  rw [← FieldLabel.getD_eq_wireKey rfl read, fieldKey, Defaults.fieldView, read]
  cases text <;> rfl

end Keys

section Scopes

def KeyScope.breachAt? (scope : KeyScope ρ) (key : Nat × Bool) : Option Error :=
  bif key.2 then scope.clashAt? key.1 else scope.repeatAt? key.1

def keyScopes (tag : String) (declaration : Declaration ρ) : List (KeyScope ρ) :=
  match declaration.body with
  | .alias type => type.walk.map (.ofType declaration.name)
  | .sum constructors => constructors.flatMap fun constructor =>
    ⟨declaration.scopeOf constructor, some tag, constructor.fields⟩ ::
      constructor.fields.flatMap fun field =>
        field.type.walk.map (.ofType (declaration.scopeOf constructor))
  | .enum _ | .restricted _ => []

private theorem enumerates_ofType (name : String) (type : TypeExpr ρ) :
    Enumerates (fun place => (type.at? place).map (KeyScope.ofType name))
      (type.walk.map (.ofType name)) := by
  simpa [Option.map_eq_bind, List.filterMap_eq_map, Function.comp_def] using
    type.enumerates_walk.filterMap (some ∘ KeyScope.ofType name)

theorem enumerates_keyScopes (tag : String) (declaration : Declaration ρ) :
    Enumerates (keyScopeAt? tag declaration) (keyScopes tag declaration) := by
  obtain ⟨name, body, info⟩ := declaration
  cases body with
  | «alias» type => exact enumerates_ofType name type
  | sum constructors =>
    refine .enter fun constructor _ => ?_
    exact .root rfl (fun _ _ => rfl) fun field _ => enumerates_ofType _ field.type
  | enum | restricted => exact ⟨[], .nil, nofun, rfl⟩

theorem forall_keyScopes {P : Option String → List (Field (TypeExpr ρ)) → Prop} {tag : String}
    {declaration : Declaration ρ} :
    (∀ scope ∈ keyScopes tag declaration, P scope.tag scope.fields) ↔
      (∀ c ∈ declaration.body.constructors, P (some tag) c.fields) ∧
        ∀ type ∈ declaration.body.walk, P none type.productFields := by
  obtain ⟨name, body, info⟩ := declaration
  cases body with
  | «alias» type => simp [keyScopes, KeyScope.ofType, Body.constructors, Body.walk]
  | sum constructors =>
    simp only [keyScopes, Body.constructors, Body.walk, TypeExpr.walkFields_eq,
      List.forall_mem_flatMap, List.forall_mem_cons, List.forall_mem_map]
    exact forall₂_and
  | enum | restricted => simp [keyScopes, Body.constructors, Body.walk]

theorem mem_fieldLabels_of_mem_keyScopes {tag : String} {declaration : Declaration ρ}
    {scope : KeyScope ρ} (among : scope ∈ keyScopes tag declaration) {field : Field (TypeExpr ρ)}
    (member : field ∈ scope.fields) : field.toFieldLabel ∈ declaration.body.fieldLabels := by
  have each : ∀ scope ∈ keyScopes tag declaration, ∀ field ∈ scope.fields,
      field.toFieldLabel ∈ declaration.body.fieldLabels :=
    (forall_keyScopes
      (P := fun _ fields => ∀ field ∈ fields, field.toFieldLabel ∈ declaration.body.fieldLabels)).2
      ⟨fun _ inSum _ => Body.mem_fieldLabels_of_constructor inSum,
        fun _ inside _ => Body.mem_fieldLabels_of_mem_walk inside⟩
  exact each scope among field member

private theorem listsBy_keyErrors_seen {fields : List (Field (TypeExpr ρ))}
    (keyed : ∀ field ∈ fields, fieldKey defaults field.toFieldLabel = field.wireKey)
    (name : String) (tag : Option String) (seen : List String) :
    ListsBy (Prod.Lex (· < ·) (· < ·))
      (fun key : Nat × Bool => bif key.2
        then (fields[key.1]?.filter fun field => tag = some field.wireKey).map fun field =>
          .tagFieldClash name field.wireKey field.info.position
        else (fields[key.1]?.filter fun field =>
            field.wireKey ∈ seen ∨ field.wireKey ∈ (fields.take key.1).map (·.wireKey)).map
          fun field => .duplicateWireKey name field.wireKey field.info.position)
      (keyErrors name tag seen fields) := by
  induction fields generalizing seen with
  | nil => exact ⟨[], .nil, by simp, rfl⟩
  | cons field rest ih =>
    obtain ⟨own, keyed⟩ := List.forall_mem_cons.1 keyed
    rw [keyErrors]
    simp only [own]
    refine .succ ?_ ?_
    · convert ListsBy.flags _ using 1
      by_cases again : field.wireKey ∈ seen <;> by_cases hidden : tag = some field.wireKey <;>
        simp [Option.filter, again, hidden]
    · have later := ih keyed (field.wireKey :: seen)
      simp only [List.mem_cons, or_assoc] at later
      simp only [List.getElem?_cons_succ, List.take_succ_cons, List.map_cons, List.mem_cons,
        or_left_comm]
      exact later

theorem listsBy_keyErrors {scope : KeyScope ρ}
    (keyed : ∀ field ∈ scope.fields, fieldKey defaults field.toFieldLabel = field.wireKey) :
    ListsBy (Prod.Lex (· < ·) (· < ·)) scope.breachAt?
      (keyErrors scope.name scope.tag [] scope.fields) := by
  have listed := listsBy_keyErrors_seen keyed scope.name scope.tag []
  simp only [List.not_mem_nil, false_or] at listed
  exact listed

theorem keyErrors_eq_nil {scope : KeyScope ρ}
    (keyed : ∀ field ∈ scope.fields, fieldKey defaults field.toFieldLabel = field.wireKey) :
    keyErrors scope.name scope.tag [] scope.fields = [] ↔
      (scope.fields.map (·.wireKey)).Nodup ∧
        ∀ field ∈ scope.fields, scope.tag ≠ some field.wireKey := by
  rw [(listsBy_keyErrors keyed).eq_nil_iff, ← repeatAt?_eq_none]
  constructor
  · intro none
    refine ⟨fun index => ?_, fun field member hidden => ?_⟩
    · simpa [KeyScope.breachAt?, KeyScope.repeatAt?] using none (index, false)
    · obtain ⟨index, there⟩ := List.getElem?_of_mem member
      simpa [KeyScope.breachAt?, KeyScope.clashAt?, there, Option.filter, hidden] using
        none (index, true)
  · rintro ⟨distinct, clear⟩ ⟨index, flag⟩
    cases flag
    · simpa [KeyScope.breachAt?, KeyScope.repeatAt?] using distinct index
    · simp only [KeyScope.breachAt?, KeyScope.clashAt?, cond_true, Option.map_eq_none_iff,
        Option.filter_eq_none_iff, decide_eq_true_eq]
      exact fun field there => clear field (List.mem_of_getElem? there)

theorem keyScopes_eq_nil {tag : String} {declaration : Declaration ρ}
    (keyed : ∀ label ∈ declaration.body.fieldLabels, fieldKey defaults label = label.wireKey) :
    ((keyScopes tag declaration).flatMap fun scope =>
        keyErrors scope.name scope.tag [] scope.fields) = [] ↔
      (∀ c ∈ declaration.body.constructors, (c.fields.map (·.wireKey)).Nodup ∧
        ∀ field ∈ c.fields, field.wireKey ≠ tag) ∧
      ∀ type ∈ declaration.body.walk, (type.productFields.map (·.wireKey)).Nodup := by
  calc
    _ ↔ ∀ scope ∈ keyScopes tag declaration, (scope.fields.map (·.wireKey)).Nodup ∧
        ∀ field ∈ scope.fields, scope.tag ≠ some field.wireKey := by
      rw [List.flatMap_eq_nil_iff]
      refine forall₂_congr fun scope among => keyErrors_eq_nil fun field member => ?_
      exact keyed _ (mem_fieldLabels_of_mem_keyScopes among member)
    _ ↔ _ := by
      rw [forall_keyScopes (P := fun tag fields => (fields.map (·.wireKey)).Nodup ∧
        ∀ field ∈ fields, tag ≠ some field.wireKey)]
      simp [eq_comm]

end Scopes

end Coding

end WireModel
