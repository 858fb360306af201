import WireModel.Decoding.Run
import WireModel.Generation.Report
import WireModel.Pattern.Compiled
import WireModel.Proofs.GeneratedDecoders
import WireModel.Proofs.Unplaced

/-! Positions matter to diagnostics alone. Every stage does to a model without positions what it
does to the model itself, up to the positions in its result or in its errors. So no run can tell two
models apart that differ in positions alone, and what is generated from them is the same. -/
namespace WireModel

variable {ρ : Type}

section Errors

def ModelError.unplaced : ModelError → ModelError
  | .duplicateDeclaration name _ => .duplicateDeclaration name {}
  | .duplicateField scope field _ => .duplicateField scope field {}
  | .duplicateConstructor declaration constructor _ =>
    .duplicateConstructor declaration constructor {}
  | .duplicateLabel declaration label _ => .duplicateLabel declaration label {}
  | .empty declaration what _ => .empty declaration what {}

def ResolveError.unplaced (error : ResolveError) : ResolveError :=
  { error with position := {} }

def SlotError.unplaced : SlotError → SlotError
  | .missing path slot spec _ => .missing path slot spec {}
  | .wrongKind path slot spec found _ => .wrongKind path slot spec found {}

def Coding.Error.unplaced : Coding.Error → Coding.Error
  | .slot error => .slot error.unplaced
  | .duplicateWireKey scope key _ => .duplicateWireKey scope key {}
  | .tagFieldClash scope key _ => .tagFieldClash scope key {}
  | .emptyRange declaration min max _ => .emptyRange declaration min max {}
  | .invalidWidth declaration width _ => .invalidWidth declaration width {}
  | .emptyLength declaration min max _ => .emptyLength declaration min max {}
  | .invalidPattern declaration fault _ => .invalidPattern declaration fault {}

def Docs.Error.unplaced : Docs.Error → Docs.Error
  | .slot error => .slot error.unplaced
  | .missingDoc declaration _ => .missingDoc declaration {}

def ProcessorError.unplaced : ProcessorError → ProcessorError
  | .coding error => .coding error.unplaced
  | .docs error => .docs error.unplaced

def CompileError.unplaced : CompileError → CompileError
  | .unresolved errors => .unresolved (errors.map ResolveError.unplaced)
  | .rejected processor errors => .rejected processor (errors.map ProcessorError.unplaced)

def GenerateError.unplaced : GenerateError → GenerateError
  | .noCodingStrategy declaration _ => .noCodingStrategy declaration {}
  | .property cause => .property cause
  | .undecodable declaration path _ => .undecodable declaration path {}
  | .backendUnavailable declaration backend => .backendUnavailable declaration backend

end Errors

section Validation

private theorem ifRepeated_map {ε ε' : Type} (f : ε → ε') (seen : List String) (name : String)
    (error : ε) : (ifRepeated seen name error).map f = ifRepeated seen name (f error) := by
  unfold ifRepeated
  split <;> rfl

@[simp]
private theorem repeatedFields_unplaced (scope : String) (seen : List String)
    (fields : List (Field (TypeExpr ρ))) :
    repeatedFields scope seen (TypeExpr.unplacedFields fields) =
      (repeatedFields scope seen fields).map ModelError.unplaced := by
  induction fields generalizing seen with
  | nil => rfl
  | cons field rest ih =>
    simp only [TypeExpr.unplacedFields, repeatedFields, ih, List.map_append, ifRepeated_map]
    rfl

@[simp]
theorem productErrors_unplaced (scope : String) (type : TypeExpr ρ) :
    productErrors scope type.unplaced = (productErrors scope type).map ModelError.unplaced := by
  cases type with
  | product info fields =>
    simp only [TypeExpr.unplaced, productErrors, repeatedFields_unplaced, List.map_append]
    cases fields <;> rfl
  | _ => rfl

@[simp]
theorem typeErrors_unplaced (scope : String) (type : TypeExpr ρ) :
    typeErrors scope type.unplaced = (typeErrors scope type).map ModelError.unplaced := by
  simp only [typeErrors, TypeExpr.walk_unplaced, List.flatMap_map, List.map_flatMap,
    productErrors_unplaced]

@[simp]
private theorem fieldErrors_unplaced (scope : String) (seen : List String)
    (fields : List (Field (TypeExpr ρ))) :
    fieldErrors scope seen (TypeExpr.unplacedFields fields) =
      (fieldErrors scope seen fields).map ModelError.unplaced := by
  induction fields generalizing seen with
  | nil => rfl
  | cons field rest ih =>
    simp only [TypeExpr.unplacedFields, fieldErrors, ih, typeErrors_unplaced, List.map_append,
      ifRepeated_map]
    rfl

@[simp]
private theorem constructorErrors_unplaced (declaration : Declaration ρ) (seen : List String)
    (constructors : List (Constructor ρ)) :
    constructorErrors declaration.unplaced seen (constructors.map Constructor.unplaced) =
      (constructorErrors declaration seen constructors).map ModelError.unplaced := by
  induction constructors generalizing seen with
  | nil => rfl
  | cons constructor rest ih =>
    have later := ih (constructor.name :: seen)
    simp only [List.map_cons, constructorErrors, List.map_append, ifRepeated_map,
      ← fieldErrors_unplaced, ← later]
    rfl

@[simp]
private theorem labelErrors_unplaced (declaration : Declaration ρ) (seen labels : List String) :
    labelErrors declaration.unplaced seen labels =
      (labelErrors declaration seen labels).map ModelError.unplaced := by
  induction labels generalizing seen with
  | nil => rfl
  | cons label rest ih =>
    simp only [labelErrors, ih, List.map_append, ifRepeated_map]
    rfl

@[simp]
private theorem bodyErrors_unplaced (declaration : Declaration ρ) :
    bodyErrors declaration.unplaced = (bodyErrors declaration).map ModelError.unplaced := by
  obtain ⟨name, body, info⟩ := declaration
  cases body with
  | «alias» type => exact typeErrors_unplaced name type
  | sum constructors =>
    simp only [bodyErrors, List.map_append, ← constructorErrors_unplaced]
    cases constructors <;> rfl
  | enum labels =>
    simp only [bodyErrors, List.map_append, ← labelErrors_unplaced]
    cases labels <;> rfl
  | restricted restriction => rfl

@[simp]
theorem declarationErrors_unplaced (seen : List String) (declarations : List (Declaration ρ)) :
    declarationErrors seen (declarations.map Declaration.unplaced) =
      (declarationErrors seen declarations).map ModelError.unplaced := by
  induction declarations generalizing seen with
  | nil => rfl
  | cons declaration rest ih =>
    have later := ih (declaration.name :: seen)
    simp only [List.map_cons, declarationErrors, List.map_append, ifRepeated_map, ← later,
      ← bodyErrors_unplaced]
    rfl

@[simp]
theorem modelErrors_unplaced (declarations : List (Declaration ρ)) :
    modelErrors (declarations.map Declaration.unplaced) =
      (modelErrors declarations).map ModelError.unplaced :=
  declarationErrors_unplaced [] declarations

def Draft.unplaced (draft : Draft) : Draft where
  declarations := draft.declarations.map Declaration.unplaced
  wellScoped := by rw [modelErrors_unplaced, draft.wellScoped, List.map_nil]

end Validation

section Outcome

variable {ε ε' α β : Type}

def mapOutcome (f : ε → ε') (g : α → β) : Except ε α → Except ε' β
  | .ok value => .ok (g value)
  | .error error => .error (f error)

/-- Both outcomes are results, or both are errors, and they are equal once replaced. -/
def AgreeUpTo (f : ε → ε) (g : α → α) (first second : Except ε α) : Prop :=
  mapOutcome f g first = mapOutcome f g second

theorem AgreeUpTo.results {f : ε → ε} {g : α → α} {first second : Except ε α} {value other : α}
    (agree : AgreeUpTo f g first second) (isFirst : first = .ok value)
    (isSecond : second = .ok other) : g value = g other := by
  unfold AgreeUpTo at agree
  rw [isFirst, isSecond] at agree
  exact Except.ok.inj agree

theorem mapError_bind {γ : Type} (f : ε → ε') (first : Except ε α) (rest : α → Except ε γ) :
    (first >>= rest).mapError f = first.mapError f >>= fun value => (rest value).mapError f := by
  cases first <;> rfl

theorem mapM_mapError {f : ε → ε'} {g : α → α} {read : α → Except ε β} {read' : α → Except ε' β}
    {items : List α} (each : ∀ item ∈ items, read' (g item) = (read item).mapError f) :
    (items.map g).mapM read' = (items.mapM read).mapError f := by
  induction items with
  | nil => rfl
  | cons item rest ih =>
    obtain ⟨first, later⟩ := List.forall_mem_cons.1 each
    rw [List.map_cons, List.mapM_cons, List.mapM_cons, mapError_bind, first, ih later]
    refine bind_congr fun value => ?_
    rw [mapError_bind]
    rfl

end Outcome

section Resolution

theorem ofDeclarations_unplaced (declarations : List (Declaration Unit)) :
    Draft.ofDeclarations (declarations.map Declaration.unplaced) =
      mapOutcome (List.map ModelError.unplaced) Draft.unplaced
        (Draft.ofDeclarations declarations) := by
  unfold Draft.ofDeclarations
  by_cases none : modelErrors declarations = []
  · have none' : modelErrors (declarations.map Declaration.unplaced) = [] := by
      rw [modelErrors_unplaced, none, List.map_nil]
    rw [dif_pos none, dif_pos none']
    rfl
  · have some' : modelErrors (declarations.map Declaration.unplaced) ≠ [] := by
      rw [modelErrors_unplaced, Ne, List.map_eq_nil_iff]
      exact none
    rw [dif_neg none, dif_neg some', modelErrors_unplaced]
    rfl

@[simp]
theorem findDeclaration?_unplaced (name : String) (declarations : List (Declaration ρ)) :
    findDeclaration? name (declarations.map Declaration.unplaced) =
      (findDeclaration? name declarations).map Declaration.unplaced := by
  unfold findDeclaration?
  rw [List.find?_map]
  rfl

@[simp]
theorem classification?_unplaced (declarations : List (Declaration Unit)) (name : String) :
    classification? (declarations.map Declaration.unplaced) name =
      classification? declarations name := by
  unfold classification?
  rw [findDeclaration?_unplaced, Option.map_map]
  exact congrArg (Option.map · _) (funext fun declaration => declaration.body.classify_unplaced)

variable (declarations : List (Declaration Unit)) (declaration : Declaration Unit)

theorem danglingReferences_unplaced :
    danglingReferences (declarations.map Declaration.unplaced) declaration.unplaced =
      (danglingReferences declarations declaration).map ResolveError.unplaced := by
  unfold danglingReferences
  simp only [classification?_unplaced, Declaration.unplaced, Body.references_unplaced,
    List.filterMap_map, List.map_filterMap]
  refine List.filterMap_congr fun reference _ => ?_
  simp only [Function.comp_apply, TypeExpr.Reference.unplaced]
  cases classification? declarations reference.name <;> rfl

theorem classifyReferences_unplaced :
    classifyReferences (declarations.map Declaration.unplaced) declaration.unplaced =
      (classifyReferences declarations declaration).unplaced := by
  unfold classifyReferences
  simp only [classification?_unplaced, Declaration.unplaced]
  rw [Body.mapReferences_unplaced fun name _ => (classification? declarations name).getD .plain]

theorem resolve_unplaced (draft : Draft) :
    resolve draft.unplaced =
      mapOutcome (List.map ResolveError.unplaced) (List.map Declaration.unplaced)
        (resolve draft) := by
  have errors : draft.unplaced.declarations.flatMap
        (danglingReferences draft.unplaced.declarations) =
      (draft.declarations.flatMap (danglingReferences draft.declarations)).map
        ResolveError.unplaced := by
    simp only [Draft.unplaced, List.flatMap_map, List.map_flatMap, danglingReferences_unplaced]
  unfold resolve
  simp only [errors, List.isEmpty_map]
  split
  · simp only [Draft.unplaced, mapOutcome, List.map_map, Function.comp_def,
      classifyReferences_unplaced]
  · rfl

end Resolution

section Processors

@[simp]
theorem Defaults.declarationView_unplaced (defaults : Defaults) (declaration : Declaration ρ) :
    defaults.declarationView declaration.unplaced = defaults.declarationView declaration := by
  simp only [declarationView, Declaration.unplaced, Body.kind_unplaced, Info.properties_unplaced]

@[simp]
theorem Node.slotError?_unplaced (slots : NodeSlots) (node : Node) (slot : String)
    (spec : PropertySpec) :
    node.unplaced.slotError? slots slot spec =
      (node.slotError? slots slot spec).map SlotError.unplaced := by
  unfold Node.slotError?
  simp only [Node.unplaced, Info.properties_unplaced]
  split
  · rfl
  · split <;> rfl

@[simp]
theorem Node.slotErrors_unplaced (slots : NodeSlots) (node : Node) :
    node.unplaced.slotErrors slots = (node.slotErrors slots).map SlotError.unplaced := by
  simp only [Node.slotErrors, Node.slotError?_unplaced, List.map_filterMap]

@[simp]
theorem slotErrors_unplaced (defaults : Defaults) (model : Model) :
    slotErrors defaults model.unplaced = (slotErrors defaults model).map SlotError.unplaced := by
  simp only [slotErrors, Model.nodes_unplaced, List.flatMap_map, List.map_flatMap,
    Node.slotErrors_unplaced]
  rfl

namespace Coding

@[simp]
private theorem keyErrors_unplaced (scope : String) (tag : Option String) (seen : List String)
    (fields : List (Field (TypeExpr ρ))) :
    keyErrors scope tag seen (TypeExpr.unplacedFields fields) =
      (keyErrors scope tag seen fields).map Error.unplaced := by
  induction fields generalizing seen with
  | nil => rfl
  | cons field rest ih =>
    have sameKey : fieldKey defaults field.toFieldLabel.unplaced =
        fieldKey defaults field.toFieldLabel := rfl
    simp only [TypeExpr.unplacedFields, keyErrors, sameKey, ih, List.map_append]
    congr 2
    · split <;> rfl
    · split <;> rfl

@[simp]
theorem productErrors_unplaced (scope : String) (type : TypeExpr ρ) :
    productErrors scope type.unplaced = (productErrors scope type).map Error.unplaced := by
  unfold productErrors
  rw [TypeExpr.walk_unplaced, List.flatMap_map, List.map_flatMap]
  refine List.flatMap_congr fun part _ => ?_
  cases part with
  | product info fields => exact keyErrors_unplaced scope none [] fields
  | _ => rfl

variable [Pattern.Engine]

private theorem restrictionErrors_unplaced (declaration : String) (position : Position)
    (restriction : Restriction) :
    restrictionErrors declaration {} restriction =
      (restrictionErrors declaration position restriction).map Error.unplaced := by
  cases restriction with
  | int restriction =>
    simp only [restrictionErrors, intErrors, List.map_append]
    congr 1
    · split
      · split <;> rfl
      · rfl
    · split
      · split <;> rfl
      · rfl
  | string restriction =>
    simp only [restrictionErrors, stringErrors, List.map_append]
    congr 1
    · split
      · split <;> rfl
      · rfl
    · split
      · split <;> rfl
      · rfl

@[simp]
theorem declarationErrors_unplaced (tag : String) (declaration : Declaration ρ) :
    declarationErrors tag declaration.unplaced =
      (declarationErrors tag declaration).map Error.unplaced := by
  obtain ⟨name, body, info⟩ := declaration
  cases body with
  | «alias» type => exact productErrors_unplaced name type
  | sum constructors =>
    simp only [declarationErrors, Declaration.unplaced, Body.unplaced, List.flatMap_map,
      List.map_flatMap, List.map_append]
    refine List.flatMap_congr fun constructor _ => ?_
    refine congrArg₂ (· ++ ·) (keyErrors_unplaced _ _ [] constructor.fields) ?_
    simp only [Constructor.unplaced, TypeExpr.unplacedFields_eq, List.flatMap_map]
    exact List.flatMap_congr fun field _ => productErrors_unplaced _ field.type
  | enum labels => rfl
  | restricted restriction => exact restrictionErrors_unplaced name info.position restriction

theorem check_unplaced (model : Model) :
    check model.unplaced =
      mapOutcome (List.map Error.unplaced) Model.unplaced (check model) := by
  have errors : model.unplaced.declarations.flatMap
        (declarationErrors (tagField model.unplaced)) =
      (model.declarations.flatMap (declarationErrors (tagField model))).map Error.unplaced := by
    simp only [Model.unplaced, Model.mapDeclarations, List.flatMap_map, List.map_flatMap,
      declarationErrors_unplaced]
    rfl
  unfold check
  simp only [slotErrors_unplaced, errors, List.isEmpty_map]
  split
  · simp only [mapOutcome, List.map_map]
    rfl
  · split <;> rfl

end Coding

namespace Docs

@[simp]
theorem normalizeInfo_unplaced (info : Info) :
    normalizeInfo info.unplaced = (normalizeInfo info).unplaced := by
  unfold normalizeInfo
  rw [Info.properties_unplaced]
  split <;> rfl

@[simp]
theorem normalizeDeclaration_unplaced (declaration : Declaration ρ) :
    normalizeDeclaration declaration.unplaced = (normalizeDeclaration declaration).unplaced := by
  have label : ∀ label : FieldLabel,
      { label.unplaced with info := normalizeInfo label.unplaced.info } =
        FieldLabel.unplaced { label with info := normalizeInfo label.info } := fun label =>
    congrArg (FieldLabel.mk label.name) (normalizeInfo_unplaced label.info)
  simp only [normalizeDeclaration, Declaration.unplaced, normalizeInfo_unplaced]
  rw [Body.mapFields_unplaced label]

@[simp]
theorem isDocumented_unplaced (declaration : Declaration ρ) :
    isDocumented declaration.unplaced = isDocumented declaration := by
  simp only [isDocumented, Defaults.declarationView_unplaced]

theorem check_unplaced (model : Model) :
    check model.unplaced =
      mapOutcome (List.map Error.unplaced) Model.unplaced (check model) := by
  have undocumented : (if isRequired model.unplaced then
        model.unplaced.declarations.filter (!isDocumented ·) else []) =
      (if isRequired model then model.declarations.filter (!isDocumented ·) else []).map
        Declaration.unplaced := by
    have sameRequired : isRequired model.unplaced = isRequired model := rfl
    rw [sameRequired]
    split
    · simp only [Model.unplaced, Model.mapDeclarations, List.filter_map, Function.comp_def,
        isDocumented_unplaced]
    · rfl
  unfold check
  simp only [slotErrors_unplaced, undocumented, List.isEmpty_map]
  generalize (if isRequired model then model.declarations.filter (!isDocumented ·) else []) = bare
  split
  · simp only [mapOutcome, List.map_map]
    rfl
  · split
    · simp only [mapOutcome, Model.unplaced, Model.mapDeclarations, List.map_map,
        Function.comp_def, normalizeDeclaration_unplaced]
    · simp only [mapOutcome, List.map_map]
      rfl

end Docs

theorem Processor.check_unplaced [Pattern.Engine] (processor : Processor) (model : Model) :
    processor.check model.unplaced =
      mapOutcome (List.map ProcessorError.unplaced) Model.unplaced (processor.check model) := by
  cases processor with
  | coding =>
    simp only [Processor.check, Coding.check_unplaced]
    cases Coding.check model with
    | ok next => rfl
    | error errors => simp [mapOutcome, Except.mapError, ProcessorError.unplaced]
  | docs =>
    simp only [Processor.check, Docs.check_unplaced]
    cases Docs.check model with
    | ok next => rfl
    | error errors => simp [mapOutcome, Except.mapError, ProcessorError.unplaced]

/-- A run of blind checks is blind: it stops at the same processor. -/
theorem threadFrom_unplaced {π ε : Type} {check : π → Model → Except (List ε) Model} {f : ε → ε}
    (blind : ∀ processor model,
      check processor model.unplaced =
        mapOutcome (List.map f) Model.unplaced (check processor model))
    (index : Nat) (processors : List π) (model : Model) :
    threadFrom check index processors model.unplaced =
      mapOutcome (fun halt => { halt with errors := halt.errors.map f }) Model.unplaced
        (threadFrom check index processors model) := by
  induction processors generalizing index model with
  | nil => rfl
  | cons processor rest ih =>
    have same := blind processor model
    cases outcome : check processor model with
    | ok next =>
      rw [outcome] at same
      rw [threadFrom_of_ok same, threadFrom_of_ok outcome]
      exact ih (index + 1) next
    | error errors =>
      rw [outcome] at same
      rw [threadFrom_of_error same, threadFrom_of_error outcome]
      rfl

variable [Pattern.Engine]

theorem Model.run_unplaced (model : Model) (processors : List Processor) :
    model.unplaced.run processors =
      mapOutcome CompileError.unplaced Model.unplaced (model.run processors) := by
  unfold Model.run thread
  rw [threadFrom_unplaced Processor.check_unplaced]
  cases threadFrom Processor.check 0 processors model <;> rfl

def Compiled.unplaced (compiled : Compiled) : Compiled :=
  { compiled with model := compiled.model.unplaced }

theorem compile_unplaced (draft : Draft) (properties : Properties) (processors : List Processor) :
    compile draft.unplaced properties processors =
      mapOutcome CompileError.unplaced Compiled.unplaced (compile draft properties processors) := by
  unfold compile
  rw [resolve_unplaced]
  cases resolve draft with
  | error errors => rfl
  | ok declarations =>
    show ((Model.unplaced { properties, declarations }).run processors >>= _) =
      mapOutcome _ _ (Model.run { properties, declarations } processors >>= _)
    rw [Model.run_unplaced]
    cases Model.run { properties, declarations } processors <;> rfl

end Processors

section Generation

@[simp]
theorem KeyDecoder.ofType_unplaced (type : TypeExpr Classification) :
    KeyDecoder.ofType type.unplaced = .ofType type := by
  cases type with
  | named info name reference => cases reference <;> rfl
  | _ => rfl

@[simp]
theorem TypeExpr.held_unplaced (type : TypeExpr ρ) : type.unplaced.held = type.held.unplaced := by
  cases type <;> rfl

@[simp]
theorem TypeExpr.presence_unplaced (type : TypeExpr ρ) :
    type.unplaced.presence = type.presence := by
  cases type <;> rfl

namespace Site

variable (site : Site)

private theorem fieldKey_mapError (label : FieldLabel) :
    site.fieldKey label = (site.fieldKey label).mapError GenerateError.unplaced := by
  unfold fieldKey
  split <;> rfl

private theorem forField_unplaced {scope : String} {field : Field (TypeExpr Classification)}
    (held : ∀ path, site.forType path field.type.held.unplaced =
      (site.forType path field.type.held).mapError GenerateError.unplaced) :
    site.forField scope field.unplaced =
      (site.forField scope field).mapError GenerateError.unplaced := by
  unfold forField
  rw [mapError_bind, ← fieldKey_mapError]
  refine bind_congr fun key => ?_
  rw [mapError_bind, ← held, ← TypeExpr.held_unplaced]
  refine bind_congr fun decoder => ?_
  rw [Field.unplaced, TypeExpr.presence_unplaced]
  rfl

theorem forType_unplaced (path : String) (type : TypeExpr Classification) :
    site.forType path type.unplaced =
      (site.forType path type).mapError GenerateError.unplaced := by
  induction type using TypeExpr.decodingInduction generalizing path with
  | unit | basic | named | emptyProduct | function => rfl
  | product info fields ih =>
    simp only [TypeExpr.unplaced, forType, forFields_eq_mapM, TypeExpr.unplacedFields_eq]
    rw [mapError_bind, mapM_mapError fun field member =>
      site.forField_unplaced fun path => ih field member path]
    rfl
  | list info element ih | set info element ih | optional info element ih =>
    simp only [TypeExpr.unplaced, forType, ih, mapError_bind]
    rfl
  | dict info key value ih =>
    simp only [TypeExpr.unplaced, forType, ih, mapError_bind, KeyDecoder.ofType_unplaced]
    rfl

theorem forFields_unplaced (scope : String) (fields : List (Field (TypeExpr Classification))) :
    site.forFields scope (TypeExpr.unplacedFields fields) =
      (site.forFields scope fields).mapError GenerateError.unplaced := by
  rw [forFields_eq_mapM, forFields_eq_mapM, TypeExpr.unplacedFields_eq]
  exact mapM_mapError fun field _ => site.forField_unplaced fun path => site.forType_unplaced path _

private theorem forCase_unplaced (constructor : Constructor Classification) :
    site.forCase constructor.unplaced =
      (site.forCase constructor).mapError GenerateError.unplaced := by
  unfold forCase
  rw [mapError_bind, ← forFields_unplaced]
  rfl

theorem forBody_unplaced (body : Body Classification) :
    site.forBody body.unplaced = (site.forBody body).mapError GenerateError.unplaced := by
  cases body with
  | «alias» type => exact site.forType_unplaced _ type
  | sum constructors =>
    simp only [Body.unplaced, forBody, forCases_eq_mapM]
    rw [mapError_bind, mapM_mapError fun constructor _ => site.forCase_unplaced constructor]
    rfl
  | enum | restricted => rfl

end Site

variable (defaults : Defaults) (options : Options)

theorem documentation_unplaced (declaration : Declaration Classification) :
    documentation defaults declaration.unplaced =
      (documentation defaults declaration).mapError GenerateError.unplaced := by
  unfold documentation
  rw [Defaults.declarationView_unplaced]
  split <;> rfl

theorem decoderFragment_unplaced (declaration : Declaration Classification) :
    decoderFragment defaults options declaration.unplaced =
      (decoderFragment defaults options declaration).mapError GenerateError.unplaced := by
  rw [decoderFragment_eq, decoderFragment_eq, mapError_bind, ← Site.forBody_unplaced]
  refine bind_congr fun body => ?_
  rw [mapError_bind, ← documentation_unplaced]
  rfl

theorem requestedFragment_unplaced (declaration : Declaration Classification) :
    requestedFragment defaults options declaration.unplaced =
      (requestedFragment defaults options declaration).mapError GenerateError.unplaced := by
  unfold requestedFragment
  rw [Defaults.declarationView_unplaced]
  split
  · rfl
  · split
    · rfl
    · exact decoderFragment_unplaced defaults options declaration
    · rfl

def Report.unplaced (report : Report) : Report :=
  { report with errors := report.errors.map GenerateError.unplaced }

@[simp]
private theorem toOption_mapError {ε ε' α : Type} (f : ε → ε') (outcome : Except ε α) :
    (outcome.mapError f).toOption = outcome.toOption := by
  cases outcome <;> rfl

@[simp]
private theorem error?_mapError {ε ε' α : Type} (f : ε → ε') (outcome : Except ε α) :
    error? (outcome.mapError f) = (error? outcome).map f := by
  cases outcome <;> rfl

theorem generate_unplaced (model : Model) :
    generate defaults options model.unplaced = (generate defaults options model).unplaced := by
  simp only [generate, Report.unplaced, Model.unplaced, Model.mapDeclarations, List.map_map,
    List.filterMap_map, List.map_filterMap, Function.comp_def, requestedFragment_unplaced,
    toOption_mapError, error?_mapError]
  congr 3
  funext declaration
  rw [Declaration.unplaced, Body.kind_unplaced]

end Generation

section Runs

theorem Model.unplaced_inj {model other : Model} :
    model.unplaced = other.unplaced ↔ model.properties = other.properties ∧
      model.declarations.map Declaration.unplaced =
        other.declarations.map Declaration.unplaced := by
  simp [Model.unplaced, Model.mapDeclarations]

theorem Compiled.unplaced_inj {compiled other : Compiled} :
    compiled.unplaced = other.unplaced ↔ compiled.model.unplaced = other.model.unplaced ∧
      compiled.defaults = other.defaults ∧ compiled.processors = other.processors := by
  simp [Compiled.unplaced]

theorem Report.unplaced_inj {report other : Report} :
    report.unplaced = other.unplaced ↔ report.fragments = other.fragments ∧
      report.errors.map GenerateError.unplaced = other.errors.map GenerateError.unplaced ∧
      report.counts = other.counts := by
  simp [Report.unplaced]

variable [Pattern.Engine]

/-- Two lists of declarations that differ in positions alone are accepted and refused at the same
stage, for the same reasons but for the positions that errors give. What they compile to differs in
positions alone, and what is generated from it does not differ, nor does any result of decoding. -/
theorem positions_only_diagnose {declarations others : List (Declaration Unit)}
    (same : declarations.map Declaration.unplaced = others.map Declaration.unplaced)
    (properties : Properties) (processors : List Processor) :
    AgreeUpTo (List.map ModelError.unplaced) Draft.unplaced
      (Draft.ofDeclarations declarations) (Draft.ofDeclarations others) ∧
    ∀ draft other, Draft.ofDeclarations declarations = .ok draft →
      Draft.ofDeclarations others = .ok other →
      AgreeUpTo (List.map ResolveError.unplaced) (List.map Declaration.unplaced)
        (resolve draft) (resolve other) ∧
      AgreeUpTo CompileError.unplaced Compiled.unplaced
        (compile draft properties processors) (compile other properties processors) ∧
      ∀ compiled compiled', compile draft properties processors = .ok compiled →
        compile other properties processors = .ok compiled' →
        compiled.model.unplaced = compiled'.model.unplaced ∧
        sameItems Declaration.same compiled.model.declarations compiled'.model.declarations ∧
        compiled.defaults = compiled'.defaults ∧
        Options.ofModel compiled.defaults compiled.model =
          Options.ofModel compiled'.defaults compiled'.model ∧
        ∀ options,
          (compiled.report options).fragments = (compiled'.report options).fragments ∧
          (compiled.report options).counts = (compiled'.report options).counts ∧
          (compiled.report options).errors.map GenerateError.unplaced =
            (compiled'.report options).errors.map GenerateError.unplaced ∧
          ∀ name input,
            Decoding.decode (.ofFragments (compiled.report options).fragments) name input =
              Decoding.decode (.ofFragments (compiled'.report options).fragments) name input := by
  have drafts : AgreeUpTo (List.map ModelError.unplaced) Draft.unplaced
      (Draft.ofDeclarations declarations) (Draft.ofDeclarations others) := by
    unfold AgreeUpTo
    rw [← ofDeclarations_unplaced, ← ofDeclarations_unplaced, same]
  refine ⟨drafts, fun draft other isDraft isOther => ?_⟩
  have sameDraft := drafts.results isDraft isOther
  have resolved : AgreeUpTo (List.map ResolveError.unplaced) (List.map Declaration.unplaced)
      (resolve draft) (resolve other) := by
    unfold AgreeUpTo
    rw [← resolve_unplaced, ← resolve_unplaced, sameDraft]
  have outcomes : AgreeUpTo CompileError.unplaced Compiled.unplaced
      (compile draft properties processors) (compile other properties processors) := by
    unfold AgreeUpTo
    rw [← compile_unplaced, ← compile_unplaced, sameDraft]
  refine ⟨resolved, outcomes, fun compiled compiled' isCompiled isCompiled' => ?_⟩
  obtain ⟨sameModel, sameDefaults, _⟩ :=
    Compiled.unplaced_inj.1 (outcomes.results isCompiled isCompiled')
  obtain ⟨sameProperties, sameDeclarations⟩ := Model.unplaced_inj.1 sameModel
  refine ⟨sameModel, (sameItems_iff Declaration.same_iff).2 sameDeclarations, sameDefaults, ?_,
    fun options => ?_⟩
  · unfold Options.ofModel Defaults.topView
    rw [sameDefaults, sameProperties]
  have reports : (compiled.report options).unplaced = (compiled'.report options).unplaced := by
    unfold Compiled.report
    rw [← generate_unplaced, ← generate_unplaced, sameDefaults, sameModel]
  obtain ⟨fragments, errors, counts⟩ := Report.unplaced_inj.1 reports
  refine ⟨fragments, counts, errors, fun name input => ?_⟩
  rw [fragments]

end Runs

def handlers (line : UInt32) : List (Declaration Unit) := [
  { name := "Port"
    body := .restricted (.int { min := some 1 })
    info := { decodedInfo with position := { line } } },
  { name := "Handler"
    body := .alias (.function { position := { line := line + 1 } }
      (.named { position := { line := line + 2 } } "Port" ()) (.unit {}))
    info := decodedInfo }]

section Program

attribute [local instance] Pattern.regexEngine

theorem positions_only_diagnose_handlers :
    ∃ draft other compiled compiled',
      Draft.ofDeclarations (handlers 1) = .ok draft ∧
      Draft.ofDeclarations (handlers 7) = .ok other ∧
      compile draft ∅ [.coding, .docs] = .ok compiled ∧
      compile other ∅ [.coding, .docs] = .ok compiled' ∧
      ∀ options,
        (compiled.report options).errors = [.undecodable "Handler" "Handler" { line := 2 }] ∧
        (compiled'.report options).errors = [.undecodable "Handler" "Handler" { line := 8 }] ∧
        (compiled.report options).fragments.length = 1 ∧
        (compiled.report options).fragments = (compiled'.report options).fragments ∧
        ∀ name input,
          Decoding.decode (.ofFragments (compiled.report options).fragments) name input =
            Decoding.decode (.ofFragments (compiled'.report options).fragments) name input := by
  have same : (handlers 1).map Declaration.unplaced = (handlers 7).map Declaration.unplaced := rfl
  obtain ⟨_, agrees⟩ := positions_only_diagnose same ∅ [.coding, .docs]
  obtain ⟨_, _, generated⟩ := agrees _ _ rfl rfl
  obtain ⟨_, _, _, _, reports⟩ := generated _ _ rfl rfl
  refine ⟨_, _, _, _, rfl, rfl, rfl, rfl, fun options => ?_⟩
  obtain ⟨fragments, _, _, decoded⟩ := reports options
  exact ⟨rfl, rfl, rfl, fragments, decoded⟩

end Program

end WireModel
