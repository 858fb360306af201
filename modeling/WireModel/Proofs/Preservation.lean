import WireModel.Pattern.Compiled
import WireModel.Proofs.ProcessorOrder
import WireModel.Proofs.Resolution

/-! What compilation preserves. Processors write the texts of documentation and nothing else: a
compiled model has the declarations that resolution gave, with the same nodes and slots, and
looks them up by the same names. -/
namespace WireModel

variable {ρ : Type}

/-- Equal but for a text of documentation, which may be in normal form now. -/
structure Info.Redocumented (before after : Info) : Prop where
  position : after.position = before.position
  slots : after.properties.keys = before.properties.keys
  others : ∀ slot, slot ≠ Docs.docSlot →
    after.properties.get? slot = before.properties.get? slot
  doc : after.properties.get? Docs.docSlot = before.properties.get? Docs.docSlot ∨
    ∃ text, before.properties.get? Docs.docSlot = some (.wrap (.string text)) ∧
      after.properties.get? Docs.docSlot = some (.wrap (.string (Docs.normalize text)))

structure FieldLabel.Redocumented (before after : FieldLabel) : Prop where
  name : after.name = before.name
  info : before.info.Redocumented after.info

namespace TypeExpr

mutual

/-- Equal but for the labels of fields, which are related. -/
inductive Relabelled (R : FieldLabel → FieldLabel → Prop) : TypeExpr ρ → TypeExpr ρ → Prop
  | unit {info} : Relabelled R (.unit info) (.unit info)
  | basic {info scalar} : Relabelled R (.basic info scalar) (.basic info scalar)
  | named {info name reference} :
      Relabelled R (.named info name reference) (.named info name reference)
  | product {info before after} (fields : FieldsRelabelled R before after) :
      Relabelled R (.product info before) (.product info after)
  | emptyProduct {info} : Relabelled R (.emptyProduct info) (.emptyProduct info)
  | list {info before after} (element : Relabelled R before after) :
      Relabelled R (.list info before) (.list info after)
  | set {info before after} (element : Relabelled R before after) :
      Relabelled R (.set info before) (.set info after)
  | dict {info key key' value value'} (keys : Relabelled R key key')
      (values : Relabelled R value value') :
      Relabelled R (.dict info key value) (.dict info key' value')
  | optional {info before after} (element : Relabelled R before after) :
      Relabelled R (.optional info before) (.optional info after)
  | function {info argument argument' result result'} (arguments : Relabelled R argument argument')
      (results : Relabelled R result result') :
      Relabelled R (.function info argument result) (.function info argument' result')

inductive FieldsRelabelled (R : FieldLabel → FieldLabel → Prop) :
    List (Field (TypeExpr ρ)) → List (Field (TypeExpr ρ)) → Prop
  | nil : FieldsRelabelled R [] []
  | cons {field field' rest rest'} (label : R field.toFieldLabel field'.toFieldLabel)
      (type : Relabelled R field.type field'.type) (later : FieldsRelabelled R rest rest') :
      FieldsRelabelled R (field :: rest) (field' :: rest')

end

variable {R : FieldLabel → FieldLabel → Prop} {f : FieldLabel → FieldLabel}

private theorem fieldsRelabelled_map {fields : List (Field (TypeExpr ρ))}
    (labels : ∀ field ∈ fields, R field.toFieldLabel (f field.toFieldLabel))
    (types : ∀ field ∈ fields, field.type.Relabelled R (field.type.mapFields f)) :
    FieldsRelabelled R fields (mapFieldList f fields) := by
  induction fields with
  | nil => exact .nil
  | cons field rest ih =>
    rw [List.forall_mem_cons] at labels types
    exact .cons labels.1 types.1 (ih labels.2 types.2)

theorem relabelled_mapFields {type : TypeExpr ρ}
    (each : ∀ label ∈ type.fieldLabels, R label (f label)) :
    type.Relabelled R (type.mapFields f) := by
  induction type using TypeExpr.induction with
  | unit => exact .unit
  | basic => exact .basic
  | named => exact .named
  | emptyProduct => exact .emptyProduct
  | product info fields ih =>
    simp only [fieldLabels, fieldListLabels_eq, List.mem_flatMap, List.mem_cons] at each
    refine .product (fieldsRelabelled_map (fun field inside => ?_) fun field inside => ?_)
    · exact each _ ⟨field, inside, .inl rfl⟩
    · exact ih field inside fun label inType => each label ⟨field, inside, .inr inType⟩
  | list info element ih => exact .list (ih each)
  | set info element ih => exact .set (ih each)
  | optional info element ih => exact .optional (ih each)
  | dict info key value ihKey ihValue =>
    simp only [fieldLabels, List.mem_append] at each
    exact .dict (ihKey fun label inKey => each label (.inl inKey))
      (ihValue fun label inValue => each label (.inr inValue))
  | function info argument result ihArgument ihResult =>
    simp only [fieldLabels, List.mem_append] at each
    exact .function (ihArgument fun label inArgument => each label (.inl inArgument))
      (ihResult fun label inResult => each label (.inr inResult))

@[simp]
theorem mapFields_id (type : TypeExpr ρ) : type.mapFields id = type := by
  induction type using TypeExpr.induction with
  | unit | basic | named | emptyProduct => rfl
  | product info fields ih =>
    rw [mapFields, mapFieldList_eq]
    congr 1
    refine (List.map_congr_left fun field inside => ?_).trans (List.map_id _)
    rw [ih field inside]
    rfl
  | list info element ih | set info element ih | optional info element ih => exact congrArg _ ih
  | dict info first second ihFirst ihSecond | function info first second ihFirst ihSecond =>
    rw [mapFields, ihFirst, ihSecond]

end TypeExpr

structure Constructor.Relabelled (R : FieldLabel → FieldLabel → Prop)
    (before after : Constructor ρ) : Prop where
  name : after.name = before.name
  position : after.position = before.position
  fields : TypeExpr.FieldsRelabelled R before.fields after.fields

namespace Body

inductive Relabelled (R : FieldLabel → FieldLabel → Prop) : Body ρ → Body ρ → Prop
  | alias {before after} (type : before.Relabelled R after) :
      Relabelled R (.alias before) (.alias after)
  | sum {before after} (constructors : List.Forall₂ (Constructor.Relabelled R) before after) :
      Relabelled R (.sum before) (.sum after)
  | enum {labels} : Relabelled R (.enum labels) (.enum labels)
  | restricted {restriction} : Relabelled R (.restricted restriction) (.restricted restriction)

theorem relabelled_mapFields {R : FieldLabel → FieldLabel → Prop} {f : FieldLabel → FieldLabel}
    {body : Body ρ} (each : ∀ label ∈ body.fieldLabels, R label (f label)) :
    body.Relabelled R (body.mapFields f) := by
  cases body with
  | «alias» type => exact .alias (TypeExpr.relabelled_mapFields each)
  | sum constructors =>
    simp only [fieldLabels, TypeExpr.fieldListLabels_eq, List.mem_flatMap, List.mem_cons] at each
    refine .sum (List.forall₂_map_right_iff.2 (List.forall₂_same.2 fun c among => ?_))
    refine ⟨rfl, rfl, TypeExpr.fieldsRelabelled_map (fun field inside => ?_) fun field inside => ?_⟩
    · exact each _ ⟨c, among, field, inside, .inl rfl⟩
    · refine TypeExpr.relabelled_mapFields fun label inType => ?_
      exact each label ⟨c, among, field, inside, .inr inType⟩
  | enum => exact .enum
  | restricted => exact .restricted

@[simp]
theorem mapFields_id (body : Body ρ) : body.mapFields id = body := by
  cases body with
  | «alias» type => exact congrArg Body.alias type.mapFields_id
  | sum constructors =>
    rw [mapFields]
    congr 1
    refine (List.map_congr_left fun c _ => ?_).trans (List.map_id _)
    rw [TypeExpr.mapFieldList_eq]
    simp only [TypeExpr.mapFields_id, id, List.map_id']
  | enum | restricted => rfl

end Body

/-- Equal but for texts of documentation, of the declaration or of its fields. -/
structure Declaration.Redocumented (before after : Declaration ρ) : Prop where
  name : after.name = before.name
  info : before.info.Redocumented after.info
  body : before.body.Relabelled FieldLabel.Redocumented after.body

theorem Info.Redocumented.refl (info : Info) : info.Redocumented info where
  position := rfl
  slots := rfl
  others _ _ := rfl
  doc := .inl rfl

theorem Declaration.Redocumented.refl (declaration : Declaration ρ) :
    declaration.Redocumented declaration where
  name := rfl
  info := .refl _
  body := by
    have same : declaration.body.Relabelled FieldLabel.Redocumented
        (declaration.body.mapFields id) :=
      Body.relabelled_mapFields fun label _ => ⟨rfl, .refl label.info⟩
    rwa [Body.mapFields_id] at same

namespace Docs

/-- Where the slot is right, documentation that is rewritten was a text before. -/
theorem redocumented_normalizeInfo {info : Info}
    (right : ∀ value, info.properties.get? docSlot = some value →
      value.Matches (.optional .string)) : info.Redocumented (normalizeInfo info) := by
  by_cases doc : ∃ own text, info.properties.get? docSlot = some (.present own (.string text))
  · obtain ⟨own, text, there⟩ := doc
    obtain ⟨rfl, _⟩ := Property.matches_present_string.1 (right _ there)
    rw [normalizeInfo_of_doc there]
    refine ⟨rfl, OrderedMap.keys_insert there, fun slot notDoc => ?_, .inr ⟨text, there, ?_⟩⟩
    · rw [OrderedMap.get?_insert, if_neg notDoc]
    · rw [OrderedMap.get?_insert, if_pos rfl]
  · rw [normalizeInfo_of_not_doc (by simpa using doc)]
    exact .refl info

theorem matches_doc {model : Model} (slots : slotErrors defaults model = []) {kind : NodeKind}
    {info : Info} (face : (kind, info) ∈ model.nodes.map Node.face)
    (known : (defaults.of kind).specs.get? docSlot = some (.optional .string)) {value : Property}
    (own : info.properties.get? docSlot = some value) : value.Matches (.optional .string) := by
  obtain ⟨node, there, same⟩ := List.mem_map.1 face
  obtain ⟨rfl, rfl⟩ := Prod.mk.inj same
  obtain ⟨found, read, fits⟩ := slotErrors_eq_nil.1 slots node there docSlot _ known
  have direct : (defaults.view node.kind node.info.properties).lookup docSlot = some value :=
    PropertyView.lookup_eq_some.2 (.inl own)
  cases read.symm.trans direct
  exact fits

theorem redocumented_normalizeDeclaration {model : Model} (slots : slotErrors defaults model = [])
    {declaration : Declaration Classification} (member : declaration ∈ model.declarations) :
    declaration.Redocumented (normalizeDeclaration declaration) := by
  refine ⟨rfl, redocumented_normalizeInfo fun value => ?_, ?_⟩
  · refine matches_doc slots (mem_faces_of_declaration member Declaration.mem_faces_self) ?_
    cases declaration.body <;> rfl
  · refine Body.relabelled_mapFields fun label inside => ⟨rfl, ?_⟩
    have face := mem_faces_of_declaration member
      (Declaration.mem_faces_of_mem_fieldLabels inside)
    exact redocumented_normalizeInfo fun value => matches_doc slots face rfl

end Docs

namespace Processor

@[simp]
private theorem settledModel_properties (processors : List Processor) (model : Model) :
    (settledModel processors model).properties = model.properties := by
  unfold settledModel
  split <;> rfl

theorem settledModel_of_not_mem {processors : List Processor} (none : .docs ∉ processors)
    (model : Model) : settledModel processors model = model :=
  if_neg none

variable [Pattern.Engine]

theorem redocumented_settledModel {processors : List Processor} {model : Model}
    (accepted : ∀ processor ∈ processors, processor.Accepts model) :
    List.Forall₂ Declaration.Redocumented model.declarations
      (settledModel processors model).declarations := by
  unfold settledModel
  split
  · next docs =>
    obtain ⟨slots, _⟩ := accepted .docs docs
    refine List.forall₂_map_right_iff.2 (List.forall₂_same.2 fun declaration member => ?_)
    exact Docs.redocumented_normalizeDeclaration slots member
  · exact List.forall₂_same.2 fun declaration _ => .refl declaration

end Processor

/-- Where the declaration of each name stands; of two with one name the later counts. -/
def nameIndex (declarations : List (Declaration ρ)) : OrderedMap Nat :=
  .ofList (declarations.zipIdx.map fun entry => (entry.1.name, entry.2))

theorem nameIndex_lookup {before after : List (Declaration ρ)}
    (names : after.map (·.name) = before.map (·.name))
    (distinct : (before.map (·.name)).Nodup) (name : String) :
    ((nameIndex before).get? name).bind (after[·]?) = findDeclaration? name after := by
  have keys : (before.zipIdx.map fun entry => (entry.1.name, entry.2)).map Prod.fst =
      before.map (·.name) := by
    conv_rhs => rw [← List.zipIdx_map_fst 0 before]
    simp only [List.map_map, Function.comp_def]
  have entry : ∀ index, (nameIndex before).get? name = some index ↔
      (after.map (·.name))[index]? = some name := by
    intro index
    rw [nameIndex, OrderedMap.ofList, OrderedMap.get?_insertAll_of_nodup _ (keys ▸ distinct),
      OrderedMap.get?_empty, Option.or_none, findEntry_eq_some (keys ▸ distinct), names]
    simp [List.mem_zipIdx_iff_getElem?, and_comm]
  cases indexed : (nameIndex before).get? name with
  | some index =>
    have there := (entry index).1 indexed
    rw [List.getElem?_map] at there
    obtain ⟨declaration, here, same⟩ := Option.map_eq_some_iff.1 there
    have found := (findDeclaration?_eq_some (names ▸ distinct)).2 ⟨List.mem_of_getElem? here, same⟩
    rw [Option.bind_some, here, found]
  | none =>
    symm
    rw [Option.bind_none, findDeclaration?_eq_none]
    intro declared
    obtain ⟨index, there⟩ := List.mem_iff_getElem?.1 declared
    cases indexed.symm.trans ((entry index).2 there)

theorem Defaults.topView_congr {model other : Model} (same : model.properties = other.properties)
    (defaults : Defaults) : defaults.topView model = defaults.topView other :=
  congrArg (defaults.view .top) same

theorem Options.ofModel_congr {model other : Model} (same : model.properties = other.properties)
    (defaults : Defaults) : Options.ofModel defaults model = Options.ofModel defaults other := by
  unfold Options.ofModel
  rw [defaults.topView_congr same]

/-- The model of a draft before any processor has run. -/
def Draft.initialModel (draft : Draft) (properties : Properties) : Model where
  properties
  declarations := draft.declarations.map (classifyReferences draft.declarations)

section Compiled

variable [Pattern.Engine] {draft : Draft} {properties : Properties} {processors : List Processor}
  {compiled : Compiled}

theorem compile_eq_settled :
    compile draft properties processors = .ok compiled ↔
      draft.declarations.flatMap (danglingReferences draft.declarations) = [] ∧
      (∀ processor ∈ processors, processor.Accepts (draft.initialModel properties)) ∧
      compiled = ⟨Processor.settledModel processors (draft.initialModel properties),
        Processor.mergedDefaults processors, processors⟩ := by
  rw [compile_eq_ok]
  constructor
  · rintro ⟨declarations, model, resolves, ran, rfl⟩
    obtain ⟨none, rfl⟩ := resolve_eq_ok.1 resolves
    obtain ⟨accepted, rfl⟩ := Processor.threadFrom_eq_ok.1 ran
    exact ⟨none, accepted, rfl⟩
  · rintro ⟨none, accepted, rfl⟩
    exact ⟨_, _, resolve_eq_ok.2 ⟨none, rfl⟩, Processor.threadFrom_eq_ok.2 ⟨accepted, rfl⟩, rfl⟩

/-- A draft is rejected by the first processor that does not accept its model. -/
theorem compile_eq_rejected {processor : Processor} :
    (∃ errors, compile draft properties processors = .error (.rejected processor errors)) ↔
      draft.declarations.flatMap (danglingReferences draft.declarations) = [] ∧
      ∃ before after, processors = before ++ processor :: after ∧
        (∀ earlier ∈ before, earlier.Accepts (draft.initialModel properties)) ∧
        ¬processor.Accepts (draft.initialModel properties) := by
  rw [← Processor.threadFrom_stops 0]
  constructor
  · rintro ⟨errors, failed⟩
    rcases bind_eq_error.1 failed with failed | ⟨declarations, resolves, failed⟩
    · obtain ⟨_, _, same⟩ := mapError_eq_error.1 failed
      cases same
    · obtain ⟨none, rfl⟩ := resolve_eq_ok.1 (mapError_eq_ok.1 resolves)
      obtain ⟨halt, stopped, same⟩ := mapError_eq_error.1 (return_eq_error.1 failed)
      cases same
      exact ⟨none, halt, stopped, rfl⟩
  · rintro ⟨none, halt, stopped, rfl⟩
    have resolves := resolve_eq_ok.2 ⟨none, rfl⟩
    refine ⟨halt.errors, bind_eq_error.2 (.inr ⟨_, mapError_eq_ok.2 resolves, ?_⟩)⟩
    exact return_eq_error.2 (mapError_eq_error.2 ⟨halt, stopped, rfl⟩)

theorem compiled_properties (compiles : compile draft properties processors = .ok compiled) :
    compiled.model.properties = properties := by
  obtain ⟨_, _, rfl⟩ := compile_eq_settled.1 compiles
  exact Processor.settledModel_properties processors _

theorem compiled_declarationNames
    (compiles : compile draft properties processors = .ok compiled) :
    compiled.model.declarations.map (·.name) = draft.declarations.map (·.name) := by
  obtain ⟨_, accepted, rfl⟩ := compile_eq_settled.1 compiles
  have each := Processor.redocumented_settledModel accepted
  rw [← map_eq_of_forall₂ each fun _ _ same => same.name.symm]
  exact List.map_map

/-- Compilation keeps what resolution gave: a compiled model has the properties that it was compiled
with, and the same declarations but for texts of documentation, which only the processor of
documentation rewrites. Names are where they were, so that an index of them stays right, and a
look-up by name finds the only declaration of that name. -/
theorem compilation_preserves (compiles : compile draft properties processors = .ok compiled) :
    compiled.model.properties = properties ∧
    (∃ resolved, resolve draft = .ok resolved ∧
      List.Forall₂ Declaration.Redocumented resolved compiled.model.declarations ∧
      (.docs ∉ processors → compiled.model.declarations = resolved) ∧
      ∀ name, ((nameIndex resolved).get? name).bind (compiled.model.declarations[·]?) =
        compiled.model.find? name) ∧
    (compiled.model.declarations.map (·.name)).Nodup ∧
    ∀ name,
      (∀ declaration, compiled.model.find? name = some declaration ↔
        declaration ∈ compiled.model.declarations ∧ declaration.name = name) ∧
      (compiled.model.find? name = none ↔ name ∉ draft.declarations.map (·.name)) := by
  have distinct := (compiled_wellScoped compiles).names
  have names := compiled_declarationNames compiles
  refine ⟨compiled_properties compiles, ?_, distinct, fun name => ⟨fun declaration => ?_, ?_⟩⟩
  · obtain ⟨none, accepted, rfl⟩ := compile_eq_settled.1 compiles
    have each := Processor.redocumented_settledModel accepted
    have kept := (map_eq_of_forall₂ each fun _ _ same => same.name.symm).symm
    refine ⟨_, resolve_eq_ok.2 ⟨none, rfl⟩, each, fun noDocs => ?_, fun name => ?_⟩
    · rw [Processor.settledModel_of_not_mem noDocs]
      rfl
    · exact nameIndex_lookup kept (kept ▸ distinct) name
  · exact findDeclaration?_eq_some distinct
  · rw [← names]
    exact findDeclaration?_eq_none

end Compiled

section Program

attribute [local instance] Pattern.regexEngine

theorem compilation_preserves_tree :
    ∃ compiled resolved,
      compile treeDraft (.ofList [(Docs.requiredSlot, .bool false)]) [.docs, .coding, .docs] =
        .ok compiled ∧
      resolve treeDraft = .ok resolved ∧
      List.Forall₂ Declaration.Redocumented resolved compiled.model.declarations ∧
      compiled.model.declarations.map (·.body.fieldLabels.map (·.info.properties.get? "doc")) =
        [[some (.wrap (.string "from left to right")), none], []] ∧
      compiled.model.find? "leaf" = none := by
  obtain ⟨compiled, compiles⟩ : ∃ compiled,
      compile treeDraft (.ofList [(Docs.requiredSlot, .bool false)]) [.docs, .coding, .docs] =
        .ok compiled := ⟨_, rfl⟩
  obtain ⟨_, ⟨resolved, resolves, each, _⟩, _, names⟩ := compilation_preserves compiles
  refine ⟨compiled, resolved, compiles, resolves, each, ?_, (names "leaf").2.2 (by decide)⟩
  cases compiles
  decide +kernel

end Program

end WireModel
