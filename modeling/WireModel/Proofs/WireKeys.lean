import WireModel.Proofs.CheckedSlots
import WireModel.Proofs.Documentation
import WireModel.Proofs.Scoping

/-! Keys on the wire. The fields that stand together have distinct names, as the draft owes, and
distinct keys that do not hide the tag, as the coding processor checks. What the processor reports
depends on keys, places and restrictions alone, so that it is the same before and after
documentation is normalized, and a compiled model keeps all of this. -/
namespace WireModel

variable {ρ σ : Type}

namespace TypeExpr

@[simp]
theorem walk_mapFields (f : FieldLabel → FieldLabel) (type : TypeExpr ρ) :
    (type.mapFields f).walk = type.walk.map (·.mapFields f) := by
  induction type using TypeExpr.induction with
  | unit | basic | named | emptyProduct => rfl
  | product info fields ih =>
    simp only [mapFields, walk, walkFields_eq, mapFieldList_eq, List.flatMap_map, List.map_cons,
      List.map_flatMap]
    exact congrArg _ (List.flatMap_congr ih)
  | list info element ih | set info element ih | optional info element ih =>
    simp only [mapFields, walk, List.map_cons, ih]
  | dict info first second ihFirst ihSecond | function info first second ihFirst ihSecond =>
    simp only [mapFields, walk, List.map_cons, List.map_append, ihFirst, ihSecond]

@[simp]
theorem walk_mapReferences (f : String → ρ → Position → σ) (type : TypeExpr ρ) :
    (type.mapReferences f).walk = type.walk.map (·.mapReferences f) := by
  induction type using TypeExpr.induction with
  | unit | basic | named | emptyProduct => rfl
  | product info fields ih =>
    simp only [mapReferences, walk, walkFields_eq, mapFieldReferences_eq, List.flatMap_map,
      List.map_cons, List.map_flatMap]
    exact congrArg _ (List.flatMap_congr ih)
  | list info element ih | set info element ih | optional info element ih =>
    simp only [mapReferences, walk, List.map_cons, ih]
  | dict info first second ihFirst ihSecond | function info first second ihFirst ihSecond =>
    simp only [mapReferences, walk, List.map_cons, List.map_append, ihFirst, ihSecond]

/-- The labels of the fields of a product itself, and not of the types inside it. -/
def ownLabels : TypeExpr ρ → List FieldLabel
  | .product _ fields => fields.map (·.toFieldLabel)
  | _ => []

@[simp]
private theorem ownLabels_mapFields (f : FieldLabel → FieldLabel) (type : TypeExpr ρ) :
    (type.mapFields f).ownLabels = type.ownLabels.map f := by
  cases type with
  | product => simp [mapFields, ownLabels]
  | _ => rfl

@[simp]
private theorem ownLabels_mapReferences (f : String → ρ → Position → σ) (type : TypeExpr ρ) :
    (type.mapReferences f).ownLabels = type.ownLabels := by
  cases type with
  | product => simp [mapReferences, ownLabels]
  | _ => rfl

end TypeExpr

namespace Body

variable (body : Body ρ)

def constructorLabels : Body ρ → List (List FieldLabel)
  | .sum constructors => constructors.map fun c => c.fields.map (·.toFieldLabel)
  | _ => []

/-- The labels of fields, by what the fields stand in: a constructor, or a product at any depth. -/
def labelGroups : List (List FieldLabel) :=
  body.constructorLabels ++ body.walk.map (·.ownLabels)

@[simp]
private theorem labelGroups_mapFields (f : FieldLabel → FieldLabel) :
    (body.mapFields f).labelGroups = body.labelGroups.map (·.map f) := by
  unfold labelGroups
  rw [List.map_append, List.map_map]
  cases body with
  | «alias» type => simp [mapFields, constructorLabels, walk]
  | sum constructors =>
    simp [mapFields, constructorLabels, walk, List.flatMap_map, List.map_flatMap, Function.comp_def]
  | enum | restricted => rfl

@[simp]
private theorem labelGroups_mapReferences (f : String → ρ → Position → σ) :
    (body.mapReferences f).labelGroups = body.labelGroups := by
  unfold labelGroups
  cases body with
  | «alias» type => simp [mapReferences, constructorLabels, walk]
  | sum constructors =>
    simp [mapReferences, constructorLabels, walk, List.flatMap_map, List.map_flatMap,
      Function.comp_def]
  | enum | restricted => rfl

end Body

section Names

private theorem nodup_of_repeatedFields {scope : String} {seen : List String}
    {fields : List (Field (TypeExpr ρ))} (h : repeatedFields scope seen fields = []) :
    (fields.map (·.name)).Nodup ∧ ∀ field ∈ fields, field.name ∉ seen := by
  induction fields generalizing seen with
  | nil => exact ⟨List.nodup_nil, by simp⟩
  | cons first rest ih =>
    simp only [repeatedFields, List.append_eq_nil_iff, ifRepeated_eq_nil] at h
    exact nodup_cons_of_unseen h.1 (ih h.2)

theorem nodup_of_typeErrors {scope : String} {type part : TypeExpr ρ}
    (h : typeErrors scope type = []) (member : part ∈ type.walk) :
    (part.ownLabels.map (·.name)).Nodup := by
  have own := List.flatMap_eq_nil_iff.1 h part member
  cases part with
  | product info fields =>
    simp only [productErrors, List.append_eq_nil_iff] at own
    rw [TypeExpr.ownLabels, List.map_map]
    exact (nodup_of_repeatedFields own.2).1
  | _ => exact List.nodup_nil

theorem nodup_of_fieldErrors {scope : String} {seen : List String}
    {fields : List (Field (TypeExpr ρ))} (h : fieldErrors scope seen fields = []) :
    ((fields.map (·.name)).Nodup ∧ ∀ field ∈ fields, field.name ∉ seen) ∧
      ∀ field ∈ fields, typeErrors scope field.type = [] := by
  induction fields generalizing seen with
  | nil => exact ⟨⟨List.nodup_nil, by simp⟩, by simp⟩
  | cons first rest ih =>
    simp only [fieldErrors, List.append_eq_nil_iff, ifRepeated_eq_nil] at h
    obtain ⟨⟨new, inside⟩, tail⟩ := h
    obtain ⟨distinct, types⟩ := ih tail
    exact ⟨nodup_cons_of_unseen new distinct, List.forall_mem_cons.2 ⟨inside, types⟩⟩

theorem fieldErrors_of_constructorErrors {declaration : Declaration ρ} {seen : List String}
    {constructors : List (Constructor ρ)}
    (h : constructorErrors declaration seen constructors = []) :
    ∀ c ∈ constructors, fieldErrors (declaration.scopeOf c) [] c.fields = [] := by
  induction constructors generalizing seen with
  | nil => simp
  | cons first rest ih =>
    simp only [constructorErrors, List.append_eq_nil_iff] at h
    exact List.forall_mem_cons.2 ⟨h.1.2, ih h.2⟩

theorem names_of_bodyErrors {declaration : Declaration ρ} (h : bodyErrors declaration = []) :
    ∀ group ∈ declaration.body.labelGroups, (group.map (·.name)).Nodup := by
  intro group among
  unfold bodyErrors at h
  unfold Body.labelGroups at among
  rcases body : declaration.body with type | constructors | _ | _
  · simp only [body, Body.constructorLabels, Body.walk, List.nil_append, List.mem_map] at h among
    obtain ⟨part, member, rfl⟩ := among
    exact nodup_of_typeErrors h member
  · simp only [body, List.append_eq_nil_iff] at h
    have fields := fieldErrors_of_constructorErrors h.2
    simp only [body, Body.constructorLabels, Body.walk, TypeExpr.walkFields_eq, List.mem_append,
      List.mem_map, List.mem_flatMap] at among
    obtain ⟨c, inSum, rfl⟩ | ⟨part, ⟨c, inSum, field, member, inside⟩, rfl⟩ := among
    · rw [List.map_map]
      exact (nodup_of_fieldErrors (fields c inSum)).1.1
    · exact nodup_of_typeErrors ((nodup_of_fieldErrors (fields c inSum)).2 field member) inside
  · simp [body, Body.constructorLabels, Body.walk] at among
  · simp [body, Body.constructorLabels, Body.walk] at among

end Names

namespace Coding

section Confined

variable {g : Info → Info} (confined : Docs.Confined g)

include confined

@[simp]
theorem fieldKey_mapInfo (defaults : Defaults) (label : FieldLabel) :
    fieldKey defaults (label.mapInfo g) = fieldKey defaults label := by
  have own := confined.slots label.info fieldNameSlot (by decide)
  simp only [fieldKey, Defaults.fieldView, Defaults.view, PropertyView.string?, PropertyView.read,
    PropertyView.lookup, FieldLabel.mapInfo, own]

@[simp]
theorem keyErrors_mapInfo (scope : String) (tag : Option String) (seen : List String)
    (fields : List (Field (TypeExpr ρ))) :
    keyErrors scope tag seen (TypeExpr.mapFieldList (·.mapInfo g) fields) =
      keyErrors scope tag seen fields := by
  induction fields generalizing seen with
  | nil => rfl
  | cons field rest ih =>
    have key := fieldKey_mapInfo confined defaults field.toFieldLabel
    have position := confined.position field.info
    simp only [TypeExpr.mapFieldList, keyErrors, key, ih]
    simp only [FieldLabel.mapInfo, position]

@[simp]
theorem productErrors_mapInfo (scope : String) (type : TypeExpr ρ) :
    productErrors scope (type.mapFields (·.mapInfo g)) = productErrors scope type := by
  unfold productErrors
  rw [TypeExpr.walk_mapFields, List.flatMap_map]
  apply List.flatMap_congr
  intro part _
  cases part with
  | product info fields => exact keyErrors_mapInfo confined scope none [] fields
  | _ => rfl

variable [Pattern.Engine]

/-- The rules of coding do not depend on documentation. -/
@[simp]
theorem declarationErrors_mapInfo (tag : String) (declaration : Declaration ρ) :
    declarationErrors tag (declaration.mapInfo g) = declarationErrors tag declaration := by
  obtain ⟨name, body, info⟩ := declaration
  cases body with
  | «alias» type => exact productErrors_mapInfo confined name type
  | sum constructors =>
    simp only [Declaration.mapInfo, declarationErrors, Body.mapFields, List.flatMap_map]
    apply List.flatMap_congr
    intro constructor _
    have keys := keyErrors_mapInfo confined (s!"{name}.{constructor.name}") (some tag) []
      constructor.fields
    have products : ∀ scope,
        (TypeExpr.mapFieldList (·.mapInfo g) constructor.fields).flatMap
          (fun field => productErrors scope field.type) =
        constructor.fields.flatMap fun field => productErrors scope field.type := by
      intro scope
      rw [TypeExpr.mapFieldList_eq, List.flatMap_map]
      exact List.flatMap_congr fun field _ => productErrors_mapInfo confined scope field.type
    exact congrArg₂ (· ++ ·) keys (products _)
  | enum => rfl
  | restricted restriction =>
    simp only [Declaration.mapInfo, declarationErrors, Body.mapFields, confined.position]

end Confined

@[simp]
theorem declarationErrors_normalize [Pattern.Engine] (tag : String) (declaration : Declaration ρ) :
    declarationErrors tag (Docs.normalizeDeclaration declaration) =
      declarationErrors tag declaration :=
  declarationErrors_mapInfo Docs.confined_normalizeInfo tag declaration

theorem nodup_of_keyErrors {scope : String} {tag : Option String} {seen : List String}
    {fields : List (Field (TypeExpr ρ))} (h : keyErrors scope tag seen fields = []) :
    ((fields.map fun field => fieldKey defaults field.toFieldLabel).Nodup ∧
      ∀ field ∈ fields, fieldKey defaults field.toFieldLabel ∉ seen) ∧
    ∀ field ∈ fields, tag ≠ some (fieldKey defaults field.toFieldLabel) := by
  induction fields generalizing seen with
  | nil => exact ⟨⟨List.nodup_nil, by simp⟩, by simp⟩
  | cons first rest ih =>
    simp only [keyErrors, List.append_eq_nil_iff] at h
    obtain ⟨⟨new, notTag⟩, tail⟩ := h
    obtain ⟨distinct, others⟩ := ih tail
    refine ⟨nodup_cons_of_unseen (by simpa using new) distinct, ?_⟩
    exact List.forall_mem_cons.2 ⟨by simpa using notTag, others⟩

theorem nodup_of_productErrors {scope : String} {type part : TypeExpr ρ}
    (h : productErrors scope type = []) (member : part ∈ type.walk) :
    (part.ownLabels.map (fieldKey defaults)).Nodup := by
  have own := List.flatMap_eq_nil_iff.1 h part member
  cases part with
  | product info fields =>
    rw [TypeExpr.ownLabels, List.map_map]
    exact (nodup_of_keyErrors own).1.1
  | _ => exact List.nodup_nil

variable [Pattern.Engine]

/-- A declaration that the processor accepts has distinct keys for fields that stand together, and
no field of a constructor is keyed by the tag. -/
theorem keys_of_declarationErrors {tag : String} {declaration : Declaration ρ}
    (h : declarationErrors tag declaration = []) :
    (∀ group ∈ declaration.body.labelGroups, (group.map (fieldKey defaults)).Nodup) ∧
      ∀ group ∈ declaration.body.constructorLabels, tag ∉ group.map (fieldKey defaults) := by
  unfold declarationErrors at h
  unfold Body.labelGroups
  rcases body : declaration.body with type | constructors | _ | _
  · simp only [body] at h
    refine ⟨fun group among => ?_, by simp [Body.constructorLabels]⟩
    simp only [Body.constructorLabels, Body.walk, List.nil_append, List.mem_map] at among
    obtain ⟨part, member, rfl⟩ := among
    exact nodup_of_productErrors h member
  · simp only [body, List.flatMap_eq_nil_iff, List.append_eq_nil_iff] at h
    simp only [Body.constructorLabels, Body.walk, TypeExpr.walkFields_eq, List.mem_append,
      List.mem_map, List.mem_flatMap]
    refine ⟨fun group among => ?_, ?_⟩
    · obtain ⟨c, inSum, rfl⟩ | ⟨part, ⟨c, inSum, field, member, inside⟩, rfl⟩ := among
      · rw [List.map_map]
        exact (nodup_of_keyErrors (h c inSum).1).1.1
      · exact nodup_of_productErrors ((h c inSum).2 field member) inside
    · rintro _ ⟨c, inSum, rfl⟩ ⟨label, member, same⟩
      obtain ⟨field, inside, rfl⟩ := List.mem_map.1 member
      exact (nodup_of_keyErrors (h c inSum).1).2 field inside (congrArg some same.symm)
  · simp [Body.constructorLabels, Body.walk]
  · simp [Body.constructorLabels, Body.walk]

end Coding

/-- What a model owes to its draft and to the coding processor. -/
structure Model.WellKeyed (model : Model) : Prop where
  names : ∀ d ∈ model.declarations, ∀ group ∈ d.body.labelGroups, (group.map (·.name)).Nodup
  keys : ∀ d ∈ model.declarations, ∀ group ∈ d.body.labelGroups,
    (group.map (Coding.fieldKey Coding.defaults)).Nodup
  tags : ∀ d ∈ model.declarations, ∀ group ∈ d.body.constructorLabels,
    Coding.tagField model ∉ group.map (Coding.fieldKey Coding.defaults)

section Compiled

variable [Pattern.Engine] {draft : Draft} {properties : Properties} {processors : List Processor}
  {compiled : Compiled}

theorem compiled_names (compiles : compile draft properties processors = .ok compiled) :
    ∀ d ∈ compiled.model.declarations, ∀ group ∈ d.body.labelGroups,
      (group.map (·.name)).Nodup := by
  refine compiled_of_resolve (Q := fun model => ∀ d ∈ model.declarations,
    ∀ group ∈ d.body.labelGroups, (group.map (·.name)).Nodup) ?_ ?_ compiles
  · intro declarations resolved d member
    obtain ⟨_, rfl⟩ := resolve_eq_ok.1 resolved
    obtain ⟨d, there, rfl⟩ := List.mem_map.1 member
    rw [classifyReferences, Body.labelGroups_mapReferences]
    exact names_of_bodyErrors (bodyErrors_of_declarationErrors draft.wellScoped d there)
  · intro model names d member
    obtain ⟨d, there, rfl⟩ := List.mem_map.1 member
    rw [Docs.normalizeDeclaration, Body.labelGroups_mapFields]
    intro group among
    obtain ⟨group, before, rfl⟩ := List.mem_map.1 among
    rw [List.map_map]
    exact names d there group before

/-- What the coding processor accepted is without errors in the end too. -/
theorem compiled_declarationErrors (coding : .coding ∈ processors)
    (compiles : compile draft properties processors = .ok compiled) :
    ∀ d ∈ compiled.model.declarations,
      Coding.declarationErrors (Coding.tagField compiled.model) d = [] := by
  refine compiled_of_giver (Q := fun model => ∀ d ∈ model.declarations,
    Coding.declarationErrors (Coding.tagField model) d = []) coding ?_ ?_ compiles
  · intro model next checked
    obtain ⟨_, noErrors, rfl⟩ := Coding.check_eq_ok.1 (mapError_eq_ok.1 checked)
    exact List.flatMap_eq_nil_iff.1 noErrors
  · intro model noErrors d member
    obtain ⟨d, there, rfl⟩ := List.mem_map.1 member
    rw [Coding.declarationErrors_normalize]
    exact noErrors d there

theorem compiled_wellKeyed (coding : .coding ∈ processors)
    (compiles : compile draft properties processors = .ok compiled) :
    compiled.model.WellKeyed := by
  have accepted := compiled_declarationErrors coding compiles
  constructor
  · exact compiled_names compiles
  · exact fun d member => (Coding.keys_of_declarationErrors (accepted d member)).1
  · exact fun d member => (Coding.keys_of_declarationErrors (accepted d member)).2

end Compiled

end WireModel
