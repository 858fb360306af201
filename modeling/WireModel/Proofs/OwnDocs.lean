import WireModel.Pattern.Compiled
import WireModel.Proofs.Locality

/-! Documentation where its processor did not run. No rule reads it then, and no decoder is built
from it; but what a declaration says of itself still goes into its fragment, and is an error there
if it is not a text. -/
namespace WireModel

variable {ρ σ : Type}

section Confined

variable {g : Info → Info}

theorem TypeExpr.mapReferences_mapFields (f : FieldLabel → FieldLabel)
    (h : String → ρ → Position → σ) (type : TypeExpr ρ) :
    (type.mapFields f).mapReferences h = (type.mapReferences h).mapFields f := by
  induction type using TypeExpr.induction with
  | unit | basic | named | emptyProduct => rfl
  | product info fields ih =>
    simp only [mapFields, mapReferences, mapFieldList_eq, mapFieldReferences_eq, List.map_map]
    congr 1
    apply List.map_congr_left
    intro field inside
    simp only [Function.comp_apply, ih field inside]
  | list info element ih | set info element ih | optional info element ih =>
    simp only [mapFields, mapReferences, ih]
  | dict info first second ihFirst ihSecond | function info first second ihFirst ihSecond =>
    simp only [mapFields, mapReferences, ihFirst, ihSecond]

theorem Body.mapReferences_mapFields (f : FieldLabel → FieldLabel)
    (h : String → ρ → Position → σ) (body : Body ρ) :
    (body.mapFields f).mapReferences h = (body.mapReferences h).mapFields f := by
  cases body with
  | «alias» type => exact congrArg Body.alias (type.mapReferences_mapFields f h)
  | sum constructors =>
    simp only [mapFields, mapReferences, List.map_map, Function.comp_def,
      TypeExpr.mapFieldList_eq, TypeExpr.mapFieldReferences_eq, TypeExpr.mapReferences_mapFields]
  | enum | restricted => rfl

section Rules

variable (confined : Docs.Confined g)

include confined

@[simp]
private theorem repeatedFields_mapInfo (scope : String) (seen : List String)
    (fields : List (Field (TypeExpr ρ))) :
    repeatedFields scope seen (TypeExpr.mapFieldList (·.mapInfo g) fields) =
      repeatedFields scope seen fields := by
  induction fields generalizing seen with
  | nil => rfl
  | cons field rest ih =>
    simp only [TypeExpr.mapFieldList, repeatedFields, FieldLabel.name_mapInfo,
      FieldLabel.info_mapInfo, confined.position, ih]

@[simp]
theorem typeErrors_mapInfo (scope : String) (type : TypeExpr ρ) :
    typeErrors scope (type.mapFields (·.mapInfo g)) = typeErrors scope type := by
  unfold typeErrors
  rw [TypeExpr.walk_mapFields, List.flatMap_map]
  apply List.flatMap_congr
  intro part _
  cases part with
  | product info fields =>
    simp only [TypeExpr.mapFields, productErrors, repeatedFields_mapInfo confined]
    cases fields <;> rfl
  | _ => rfl

@[simp]
private theorem fieldErrors_mapInfo (scope : String) (seen : List String)
    (fields : List (Field (TypeExpr ρ))) :
    fieldErrors scope seen (TypeExpr.mapFieldList (·.mapInfo g) fields) =
      fieldErrors scope seen fields := by
  induction fields generalizing seen with
  | nil => rfl
  | cons field rest ih =>
    simp only [TypeExpr.mapFieldList, fieldErrors, FieldLabel.name_mapInfo,
      FieldLabel.info_mapInfo, confined.position, typeErrors_mapInfo confined, ih]

@[simp]
private theorem constructorErrors_mapInfo (declaration : Declaration ρ) (seen : List String)
    (constructors : List (Constructor ρ)) :
    constructorErrors (declaration.mapInfo g) seen
        (constructors.map fun c =>
          { c with fields := TypeExpr.mapFieldList (·.mapInfo g) c.fields }) =
      constructorErrors declaration seen constructors := by
  induction constructors generalizing seen with
  | nil => rfl
  | cons constructor rest ih =>
    simp only [List.map_cons, constructorErrors, fieldErrors_mapInfo confined, ih]
    rfl

@[simp]
private theorem labelErrors_mapInfo (declaration : Declaration ρ) (seen labels : List String) :
    labelErrors (declaration.mapInfo g) seen labels = labelErrors declaration seen labels := by
  induction labels generalizing seen with
  | nil => rfl
  | cons label rest ih =>
    simp only [labelErrors, ih, Declaration.name_mapInfo, Declaration.info_mapInfo,
      confined.position]

@[simp]
private theorem bodyErrors_mapInfo (declaration : Declaration ρ) :
    bodyErrors (declaration.mapInfo g) = bodyErrors declaration := by
  unfold bodyErrors
  simp only [Declaration.name_mapInfo, Declaration.body_mapInfo, Declaration.info_mapInfo,
    confined.position]
  cases declaration.body with
  | «alias» type => exact typeErrors_mapInfo confined declaration.name type
  | sum constructors =>
    simp only [Body.mapFields, constructorErrors_mapInfo confined, List.isEmpty_map]
  | enum labels => simp only [Body.mapFields, labelErrors_mapInfo confined]
  | restricted restriction => rfl

@[simp]
theorem declarationErrors_mapInfo (seen : List String) (declarations : List (Declaration ρ)) :
    declarationErrors seen (declarations.map (·.mapInfo g)) =
      declarationErrors seen declarations := by
  induction declarations generalizing seen with
  | nil => rfl
  | cons declaration rest ih =>
    simp only [List.map_cons, declarationErrors, bodyErrors_mapInfo confined,
      Declaration.name_mapInfo, Declaration.info_mapInfo, confined.position, ih]

/-- The scoping rules do not depend on documentation. -/
@[simp]
theorem modelErrors_mapInfo (declarations : List (Declaration ρ)) :
    modelErrors (declarations.map (·.mapInfo g)) = modelErrors declarations :=
  declarationErrors_mapInfo confined [] declarations

end Rules

section Resolution

@[simp]
theorem classification?_mapInfo (declarations : List (Declaration Unit)) (name : String) :
    classification? (declarations.map (·.mapInfo g)) name =
      classification? declarations name := by
  unfold classification? findDeclaration?
  rw [List.find?_map, Option.map_map]
  exact congrArg (Option.map · _) (funext fun declaration => declaration.body.classify_mapFields _)

theorem danglingReferences_mapInfo (declarations : List (Declaration Unit)) :
    (declarations.map (·.mapInfo g)).flatMap
        (danglingReferences (declarations.map (·.mapInfo g))) =
      declarations.flatMap (danglingReferences declarations) := by
  rw [List.flatMap_map]
  apply List.flatMap_congr
  intro declaration _
  simp only [danglingReferences, classification?_mapInfo]
  rw [Declaration.mapInfo, Body.references_mapFields]

theorem classifyReferences_mapInfo (declarations : List (Declaration Unit))
    (declaration : Declaration Unit) :
    classifyReferences (declarations.map (·.mapInfo g)) (declaration.mapInfo g) =
      (classifyReferences declarations declaration).mapInfo g := by
  simp only [classifyReferences, classification?_mapInfo]
  rw [Declaration.mapInfo, Body.mapReferences_mapFields]
  rfl

end Resolution

namespace Site

variable (confined : Docs.Confined g) (site : Site)

include confined

@[simp]
theorem fieldKey_mapInfo (label : FieldLabel) :
    site.fieldKey (label.mapInfo g) = site.fieldKey label := by
  have own := confined.slots label.info Coding.fieldNameSlot (by decide)
  simp only [fieldKey, Defaults.fieldView, Defaults.view, PropertyView.string?, PropertyView.read,
    PropertyView.lookup, FieldLabel.mapInfo, own]

private theorem forField_mapInfo {scope : String} {label : FieldLabel}
    {type : TypeExpr Classification}
    (held : ∀ path, site.forType path (type.held.mapFields (·.mapInfo g)) =
      site.forType path type.held) :
    site.forField scope ⟨label.mapInfo g, type.mapFields (·.mapInfo g)⟩ =
      site.forField scope ⟨label, type⟩ := by
  have same : (type.mapFields (·.mapInfo g)).held = type.held.mapFields (·.mapInfo g) := by
    cases type <;> rfl
  have presence : (type.mapFields (·.mapInfo g)).presence = type.presence := by
    cases type <;> rfl
  simp only [forField, fieldKey_mapInfo confined, same, held, presence]
  rfl

@[simp]
theorem forType_mapInfo (path : String) (type : TypeExpr Classification) :
    site.forType path (type.mapFields (·.mapInfo g)) = site.forType path type := by
  induction type using TypeExpr.decodingInduction generalizing path with
  | unit | basic | named | emptyProduct | function => rfl
  | product info fields ih =>
    simp only [TypeExpr.mapFields, forType, forFields_eq_mapM, TypeExpr.mapFieldList_eq]
    rw [mapM_map_of_same fun field member => site.forField_mapInfo confined (ih field member)]
  | list info element ih | set info element ih | optional info element ih =>
    simp only [TypeExpr.mapFields, forType, ih]
  | dict info key value ih =>
    have sameKey : KeyDecoder.ofType (key.mapFields (·.mapInfo g)) = .ofType key := by
      cases key with
      | named info name reference => cases reference <;> rfl
      | _ => rfl
    simp only [TypeExpr.mapFields, forType, ih, sameKey]

@[simp]
private theorem forFields_mapInfo (scope : String)
    (fields : List (Field (TypeExpr Classification))) :
    site.forFields scope (TypeExpr.mapFieldList (·.mapInfo g) fields) =
      site.forFields scope fields := by
  rw [forFields_eq_mapM, forFields_eq_mapM, TypeExpr.mapFieldList_eq]
  exact mapM_map_of_same fun field _ =>
    site.forField_mapInfo confined fun path => site.forType_mapInfo confined path _

/-- No decoder is built from documentation. -/
@[simp]
theorem forBody_mapInfo (body : Body Classification) :
    site.forBody (body.mapFields (·.mapInfo g)) = site.forBody body := by
  cases body with
  | «alias» type => exact site.forType_mapInfo confined _ type
  | sum constructors =>
    simp only [Body.mapFields, forBody, forCases_eq_mapM]
    rw [mapM_map_of_same fun constructor _ => ?_]
    simp only [forCase, forFields_mapInfo confined]
  | enum | restricted => rfl

end Site

end Confined

section OwnDocs

/-- What a node carries, saying that it has no documentation. -/
def Info.undocumented (info : Info) : Info :=
  { info with properties := info.properties.insert Docs.docSlot (.absent .string) }

theorem Docs.confined_undocumented : Confined Info.undocumented where
  position _ := rfl
  slots info slot other := by rw [Info.undocumented, OrderedMap.get?_insert, if_neg other]

def Declaration.undocumented (declaration : Declaration ρ) : Declaration ρ :=
  declaration.mapInfo Info.undocumented

/-- What a node by itself says to be its documentation. -/
def Info.ownDoc (info : Info) : Except GenerateError (Option String) :=
  match info.properties.get? Docs.docSlot with
  | none => .ok none
  | some (.absent .string) => .ok none
  | some (.present .string (.string text)) => .ok (some text)
  | some other => .error (.property (.wrongKind Docs.docSlot (.optional .string) other.spec))

def Fragment.withDoc (fragment : Fragment) (doc : Option String) : Fragment :=
  { fragment with function := { fragment.function with doc } }

@[simp]
private theorem Info.ownDoc_undocumented (info : Info) : info.undocumented.ownDoc = .ok none := by
  unfold ownDoc undocumented
  rw [OrderedMap.get?_insert, if_pos rfl]

theorem documentation_eq_ownDoc {defaults : Defaults} {declaration : Declaration Classification}
    (noDefault : (defaults.of (.ofDeclaration declaration.body.kind)).values.get? Docs.docSlot =
      none) : documentation defaults declaration = declaration.info.ownDoc := by
  unfold documentation Info.ownDoc PropertyView.string? PropertyView.read PropertyView.lookup
  simp only [Defaults.declarationView, Defaults.view, noDefault]
  cases declaration.info.properties.get? Docs.docSlot with
  | none => rfl
  | some value =>
    cases value with
    | absent spec => cases spec <;> rfl
    | present spec value => cases spec <;> cases value <;> rfl
    | _ => rfl

@[simp]
theorem Body.kind_mapFields (f : FieldLabel → FieldLabel) (body : Body ρ) :
    (body.mapFields f).kind = body.kind := by
  cases body <;> rfl

@[simp]
theorem Body.kind_mapReferences (h : String → ρ → Position → σ) (body : Body ρ) :
    (body.mapReferences h).kind = body.kind := by
  cases body <;> rfl

/-- How a declaration is coded does not depend on documentation. -/
theorem kind_mapInfo {g : Info → Info} (confined : Docs.Confined g) (defaults : Defaults)
    (declaration : Declaration ρ) :
    (defaults.declarationView (declaration.mapInfo g)).enumeration? Coding.kindSlot Coding.kinds =
      (defaults.declarationView declaration).enumeration? Coding.kindSlot Coding.kinds := by
  have own := confined.slots declaration.info Coding.kindSlot (by decide)
  simp only [Defaults.declarationView, Defaults.view, PropertyView.enumeration?,
    PropertyView.read, PropertyView.lookup, Declaration.body_mapInfo, Body.kind_mapFields,
    Declaration.info_mapInfo, own]

/-- What is generated for a declaration is what is generated without documentation, with the
declaration's own documentation added. -/
theorem requestedFragment_eq_bind {defaults : Defaults} {options : Options}
    {declaration : Declaration Classification}
    (noDefault : (defaults.of (.ofDeclaration declaration.body.kind)).values.get? Docs.docSlot =
      none) :
    requestedFragment defaults options declaration =
      requestedFragment defaults options declaration.undocumented >>= fun fragment =>
        declaration.info.ownDoc.map fragment.withDoc := by
  have bare : documentation defaults declaration.undocumented = .ok none := by
    rw [documentation_eq_ownDoc]
    · exact declaration.info.ownDoc_undocumented
    · rwa [Declaration.undocumented, Declaration.body_mapInfo, Body.kind_mapFields]
  have fragments : decoderFragment defaults options declaration =
      decoderFragment defaults options declaration.undocumented >>= fun fragment =>
        declaration.info.ownDoc.map fragment.withDoc := by
    have body := (Site.mk defaults options declaration.name).forBody_mapInfo
      Docs.confined_undocumented declaration.body
    simp only [decoderFragment_eq]
    rw [documentation_eq_ownDoc noDefault, bare, Declaration.undocumented,
      Declaration.name_mapInfo, Declaration.body_mapInfo, body]
    cases (Site.mk defaults options declaration.name).forBody declaration.body with
    | error => rfl
    | ok => cases declaration.info.ownDoc <;> rfl
  unfold requestedFragment
  rw [Declaration.undocumented, kind_mapInfo Docs.confined_undocumented]
  split
  · rfl
  · split
    · rfl
    · exact fragments
    · rfl

theorem Processor.docs_default {processors : List Processor} (noDocs : .docs ∉ processors)
    (kind : NodeKind) :
    ((Processor.mergedDefaults processors).of kind).values.get? Docs.docSlot = none := by
  rw [mergedDefaults, Defaults.values_merged, List.findSome?_eq_none_iff]
  intro record among
  obtain ⟨processor, member, rfl⟩ := List.mem_map.1 (List.mem_reverse.1 among)
  cases processor with
  | docs => exact absurd member noDocs
  | coding => cases kind <;> rfl

end OwnDocs

section Compiled

variable {draft edited : Draft} {properties : Properties} {processors : List Processor}
  {compiled compiled' : Compiled}

def Draft.undocumented (draft : Draft) : Draft where
  declarations := draft.declarations.map Declaration.undocumented
  wellScoped := by
    rw [← draft.wellScoped]
    exact modelErrors_mapInfo Docs.confined_undocumented draft.declarations

theorem initialModel_undocumented (draft : Draft) (properties : Properties) :
    draft.undocumented.initialModel properties =
      (draft.initialModel properties).mapDeclarations Declaration.undocumented := by
  unfold Draft.initialModel Model.mapDeclarations Draft.undocumented
  simp only [List.map_map]
  congr 1
  apply List.map_congr_left
  intro declaration _
  exact classifyReferences_mapInfo draft.declarations declaration

/-- Where the processor of documentation does not run, a draft compiles exactly if it does without
documentation. -/
theorem compile_undocumented [Pattern.Engine] (noDocs : .docs ∉ processors) :
    (∃ compiled, compile draft.undocumented properties processors = .ok compiled) ↔
      ∃ compiled, compile draft properties processors = .ok compiled := by
  have dangling : draft.undocumented.declarations.flatMap
        (danglingReferences draft.undocumented.declarations) =
      draft.declarations.flatMap (danglingReferences draft.declarations) :=
    danglingReferences_mapInfo draft.declarations
  have accepts : ∀ processor ∈ processors,
      (processor.Accepts (draft.undocumented.initialModel properties) ↔
        processor.Accepts (draft.initialModel properties)) := by
    intro processor member
    rw [initialModel_undocumented]
    cases processor with
    | docs => exact absurd member noDocs
    | coding => exact Processor.coding_accepts_mapInfo Docs.confined_undocumented
  simp only [compile_eq_settled, dangling, forall₂_congr accepts, exists_and_left, exists_eq]

def Draft.bareOutcome (draft : Draft) (processors : List Processor) (options : Options)
    (declaration : Declaration Unit) : Except GenerateError Fragment :=
  requestedFragment (Processor.mergedDefaults processors) options
    (classifyReferences draft.undocumented.declarations declaration.undocumented)

theorem requestedFragment_eq_bareOutcome (noDocs : .docs ∉ processors) (options : Options)
    (declaration : Declaration Unit) :
    requestedFragment (Processor.mergedDefaults processors) options
        (classifyReferences draft.declarations declaration) =
      draft.bareOutcome processors options declaration >>= fun fragment =>
        declaration.info.ownDoc.map fragment.withDoc := by
  have bare : classifyReferences draft.undocumented.declarations declaration.undocumented =
      (classifyReferences draft.declarations declaration).undocumented :=
    classifyReferences_mapInfo draft.declarations declaration
  rw [Draft.bareOutcome, bare]
  exact requestedFragment_eq_bind (Processor.docs_default noDocs _)

theorem report_eq_generate [Pattern.Engine] (noDocs : .docs ∉ processors)
    (compiles : compile draft properties processors = .ok compiled) (options : Options) :
    compiled.report options =
      generate (Processor.mergedDefaults processors) options (draft.initialModel properties) := by
  obtain ⟨_, _, rfl⟩ := compile_eq_settled.1 compiles
  unfold Compiled.report
  rw [Processor.settledModel_of_not_mem noDocs]

theorem mem_bare_fragments [Pattern.Engine] {bare : Compiled} (noDocs : .docs ∉ processors)
    (compiles : compile draft.undocumented properties processors = .ok bare) {options : Options}
    {declaration : Declaration Unit} (member : declaration ∈ draft.declarations) :
    declaration.name ∈ (bare.report options).fragments.map (·.declaration) ↔
      ∃ fragment, draft.bareOutcome processors options declaration = .ok fragment := by
  have distinct := (modelErrors_eq_nil.1 draft.wellScoped).1
  simp only [report_eq_generate noDocs compiles, List.mem_map, mem_fragments]
  constructor
  · rintro ⟨fragment, ⟨d, among, requested⟩, sameName⟩
    obtain ⟨d, inside, rfl⟩ := List.mem_map.1 among
    obtain ⟨d, there, rfl⟩ := List.mem_map.1 inside
    have names : d.name = declaration.name :=
      (requestedFragment_eq_ok requested).1.symm.trans sameName
    obtain rfl := List.inj_on_of_nodup_map distinct there member names
    exact ⟨fragment, requested⟩
  · rintro ⟨fragment, requested⟩
    refine ⟨fragment, ⟨_, List.mem_map_of_mem (List.mem_map_of_mem member), requested⟩, ?_⟩
    exact (requestedFragment_eq_ok requested).1

/-- Outcomes that differ in documentation alone are equal if they are errors, or if their
documentation is the same. -/
theorem bind_withDoc_eq_iff {outcome : Except GenerateError Fragment} {before after : Info} :
    (outcome >>= fun fragment => after.ownDoc.map fragment.withDoc) =
        (outcome >>= fun fragment => before.ownDoc.map fragment.withDoc) ↔
      ((∃ fragment, outcome = .ok fragment) → after.ownDoc = before.ownDoc) := by
  cases outcome with
  | error error => exact ⟨fun _ isOk => absurd isOk (by simp), fun _ => rfl⟩
  | ok fragment =>
    have injective {doc other : Option String}
        (h : fragment.withDoc doc = fragment.withDoc other) : doc = other :=
      congrArg (·.function.doc) h
    change after.ownDoc.map fragment.withDoc = before.ownDoc.map fragment.withDoc ↔ _
    constructor
    · intro same _
      cases own : after.ownDoc with
      | error =>
        cases own' : before.ownDoc with
        | error => simpa [own, own', Except.map] using same
        | ok => simp [own, own', Except.map] at same
      | ok =>
        cases own' : before.ownDoc with
        | error => simp [own, own', Except.map] at same
        | ok =>
          rw [own, own'] at same
          rw [injective (Except.ok.inj same)]
    · intro same
      rw [same ⟨fragment, rfl⟩]

theorem generate_eq_iff {defaults : Defaults} {options : Options} {model other : Model}
    (distinct : (model.declarations.map (·.name)).Nodup)
    (each : List.Forall₂ (fun d d' => d'.name = d.name ∧ d'.body.kind = d.body.kind)
      model.declarations other.declarations) :
    generate defaults options other = generate defaults options model ↔
      List.Forall₂ (fun d d' =>
        requestedFragment defaults options d' = requestedFragment defaults options d)
        model.declarations other.declarations := by
  have names : other.declarations.map (·.name) = model.declarations.map (·.name) :=
    (map_eq_of_forall₂ each fun _ _ same => same.1.symm).symm
  constructor
  · intro same
    have items := generate_itemizes defaults options model
    have items' := generate_itemizes defaults options other
    rw [names] at items'
    have outcomes := outcomes_unique distinct items'.each items.each
      (by rw [← items'.fragments, ← items.fragments, same])
      (by rw [← items'.errors, ← items.errors, same])
    rw [← List.forall₂_eq_eq_eq, List.forall₂_map_left_iff, List.forall₂_map_right_iff] at outcomes
    exact outcomes.flip
  · intro outcomes
    have same : model.declarations.map (fun d =>
          (d.body.kind, requestedFragment defaults options d)) =
        other.declarations.map fun d => (d.body.kind, requestedFragment defaults options d) := by
      refine map_eq_of_forall₂
        (each.mp (fun _ _ faces outcome => And.intro faces outcome) outcomes) ?_
      rintro d d' ⟨⟨_, kind⟩, outcome⟩
      rw [kind, outcome]
    unfold generate
    rw [same]

theorem outcome_eq_iff [Pattern.Engine] {bare : Compiled} (noDocs : .docs ∉ processors)
    (compiles : compile draft.undocumented properties processors = .ok bare) (options : Options)
    (sameDraft : edited.undocumented = draft.undocumented) {before after : Declaration Unit}
    (member : before ∈ draft.declarations) (same : after.undocumented = before.undocumented) :
    requestedFragment (Processor.mergedDefaults processors) options
          (classifyReferences edited.declarations after) =
        requestedFragment (Processor.mergedDefaults processors) options
          (classifyReferences draft.declarations before) ↔
      (before.name ∈ (bare.report options).fragments.map (·.declaration) →
        after.info.ownDoc = before.info.ownDoc) := by
  have sameBare : edited.bareOutcome processors options after =
      draft.bareOutcome processors options before := by
    rw [Draft.bareOutcome, sameDraft, same, Draft.bareOutcome]
  rw [requestedFragment_eq_bareOutcome noDocs, requestedFragment_eq_bareOutcome noDocs, sameBare,
    bind_withDoc_eq_iff, mem_bare_fragments noDocs compiles member]

theorem ownDoc_of_mem_fragments [Pattern.Engine] (noDocs : .docs ∉ processors)
    (compiles : compile draft properties processors = .ok compiled) {options : Options}
    {fragment : Fragment} (member : fragment ∈ (compiled.report options).fragments) :
    ∃ declaration ∈ draft.declarations, declaration.name = fragment.declaration ∧
      declaration.info.ownDoc = .ok fragment.function.doc := by
  rw [report_eq_generate noDocs compiles, mem_fragments] at member
  obtain ⟨d, among, requested⟩ := member
  obtain ⟨declaration, there, rfl⟩ := List.mem_map.1 among
  refine ⟨declaration, there, (requestedFragment_eq_ok requested).1.symm, ?_⟩
  rw [requestedFragment_eq_bareOutcome noDocs] at requested
  obtain ⟨bare, _, added⟩ := bind_eq_ok.1 requested
  cases own : declaration.info.ownDoc with
  | error error => simp [own, Except.map] at added
  | ok doc =>
    rw [own] at added
    cases added
    rfl

theorem exists_draft_of_undocumented {declarations : List (Declaration Unit)}
    (same : declarations.map Declaration.undocumented =
      draft.declarations.map Declaration.undocumented) :
    ∃ edited : Draft, edited.declarations = declarations ∧
      edited.undocumented = draft.undocumented := by
  have wellScoped : modelErrors declarations = [] := by
    have bare := draft.undocumented.wellScoped
    change modelErrors (draft.declarations.map Declaration.undocumented) = [] at bare
    rw [← same] at bare
    exact (modelErrors_mapInfo Docs.confined_undocumented declarations).symm.trans bare
  refine ⟨⟨declarations, wellScoped⟩, rfl, ?_⟩
  simp only [Draft.undocumented, Draft.mk.injEq]
  exact same

theorem faces_of_undocumented {before after : Declaration Unit}
    (same : after.undocumented = before.undocumented) :
    after.name = before.name ∧ after.body.kind = before.body.kind := by
  have names := congrArg Declaration.name same
  have kinds := congrArg (fun d : Declaration Unit => d.body.kind) same
  simp only [Declaration.undocumented, Declaration.name_mapInfo, Declaration.body_mapInfo,
    Body.kind_mapFields] at names kinds
  exact ⟨names, kinds⟩

variable [Pattern.Engine]

/-- Reports of drafts that differ in documentation alone are equal exactly if the declarations with
a decoder say the same about themselves. -/
theorem report_eq_iff {compiled' bare : Compiled} (noDocs : .docs ∉ processors)
    (compiles : compile draft properties processors = .ok compiled)
    (compiles' : compile edited properties processors = .ok compiled')
    (bareCompiles : compile draft.undocumented properties processors = .ok bare)
    (sameDraft : edited.undocumented = draft.undocumented) (options : Options) :
    compiled'.report options = compiled.report options ↔
      ∀ before after, (before, after) ∈ draft.declarations.zip edited.declarations →
        before.name ∈ (bare.report options).fragments.map (·.declaration) →
        after.info.ownDoc = before.info.ownDoc := by
  have each : List.Forall₂ (fun before after => after.undocumented = before.undocumented)
      draft.declarations edited.declarations := by
    have same := congrArg Draft.declarations sameDraft
    simp only [Draft.undocumented] at same
    rw [← List.forall₂_eq_eq_eq, List.forall₂_map_left_iff, List.forall₂_map_right_iff] at same
    exact same.flip
  obtain ⟨lengths, pairs⟩ := List.forall₂_iff_zip.1 each
  rw [report_eq_generate noDocs compiles, report_eq_generate noDocs compiles', generate_eq_iff]
  · simp only [Draft.initialModel, List.forall₂_map_left_iff, List.forall₂_map_right_iff]
    rw [List.forall₂_iff_zip]
    have iff {before after} (pair : (before, after) ∈ draft.declarations.zip edited.declarations) :=
      outcome_eq_iff noDocs bareCompiles options sameDraft (List.of_mem_zip pair).1 (pairs pair)
    exact ⟨fun h before after pair => (iff pair).1 (h.2 pair),
      fun h => ⟨lengths, fun pair => (iff pair).2 (h _ _ pair)⟩⟩
  · have distinct := (modelErrors_eq_nil.1 draft.wellScoped).1
    simpa [Draft.initialModel, Function.comp_def, classifyReferences] using distinct
  · simp only [Draft.initialModel, List.forall₂_map_left_iff, List.forall₂_map_right_iff]
    refine each.imp fun before after same => ?_
    simpa [classifyReferences] using faces_of_undocumented same

/-- Where the processor of documentation does not run, documentation decides neither what compiles
nor what is decoded how. The documentation of fields is not read at all; that of a declaration is
read if the declaration has a decoder, and what is generated changes exactly if it reads
differently. The documentation of a fragment is what its declaration says. -/
theorem own_docs_reported (compiles : compile draft properties processors = .ok compiled)
    (noDocs : .docs ∉ processors) {declarations : List (Declaration Unit)}
    (same : declarations.map Declaration.undocumented =
      draft.declarations.map Declaration.undocumented) :
    ∃ edited compiled' bare,
      Draft.ofDeclarations declarations = .ok edited ∧
      compile edited properties processors = .ok compiled' ∧
      compile draft.undocumented properties processors = .ok bare ∧
      Options.ofModel compiled'.defaults compiled'.model =
        Options.ofModel compiled.defaults compiled.model ∧
      ∀ options,
        (compiled'.report options = compiled.report options ↔
          ∀ before after, (before, after) ∈ draft.declarations.zip declarations →
            before.name ∈ (bare.report options).fragments.map (·.declaration) →
            after.info.ownDoc = before.info.ownDoc) ∧
        ∀ fragment ∈ (compiled'.report options).fragments,
          ∃ declaration ∈ declarations, declaration.name = fragment.declaration ∧
            declaration.info.ownDoc = .ok fragment.function.doc := by
  obtain ⟨edited, rfl, sameDraft⟩ := exists_draft_of_undocumented same
  obtain ⟨bare, bareCompiles⟩ := (compile_undocumented noDocs).2 ⟨compiled, compiles⟩
  have editedCompiles : ∃ compiled', compile edited properties processors = .ok compiled' :=
    (compile_undocumented noDocs).1 ⟨bare, sameDraft ▸ bareCompiles⟩
  obtain ⟨compiled', compiles'⟩ := editedCompiles
  refine ⟨edited, compiled', bare, Draft.ofDeclarations_eq_ok.2 rfl, compiles', bareCompiles, ?_,
    fun options => ?_⟩
  · rw [compiled_defaults compiles', compiled_defaults compiles]
    exact Options.ofModel_congr
      ((compiled_properties compiles').trans (compiled_properties compiles).symm) _
  · exact ⟨report_eq_iff noDocs compiles compiles' bareCompiles sameDraft options,
      fun fragment => ownDoc_of_mem_fragments noDocs compiles'⟩

end Compiled

def identifiers (doc fieldDoc : Property) : List (Declaration Unit) := [
  { name := "Id"
    body := .alias (.product {} [
      { name := "value"
        info := { properties := .ofList [(Docs.docSlot, fieldDoc)] }
        type := .basic {} .int }])
    info := { decodedInfo with properties := decodedInfo.properties.insert Docs.docSlot doc } }]

section Program

attribute [local instance] Pattern.regexEngine

theorem own_docs_reported_identifiers :
    ∃ draft compiled edited compiled',
      draft.declarations = identifiers (.absent .string) (.absent .string) ∧
      compile draft ∅ [.coding] = .ok compiled ∧
      Draft.ofDeclarations (identifiers (.absent .string) (.bool true)) = .ok edited ∧
      compile edited ∅ [.coding] = .ok compiled' ∧
      ∀ options,
        (compiled.report options).fragments.length = 1 ∧
        compiled'.report options = compiled.report options := by
  let draft : Draft := ⟨identifiers (.absent .string) (.absent .string), rfl⟩
  obtain ⟨compiled, compiles⟩ : ∃ compiled, compile draft ∅ [.coding] = .ok compiled := ⟨_, rfl⟩
  have same : (identifiers (.absent .string) (.bool true)).map Declaration.undocumented =
      draft.declarations.map Declaration.undocumented := rfl
  obtain ⟨edited, compiled', _, isDraft, compiles', _, _, reports⟩ :=
    own_docs_reported compiles (by decide) same
  refine ⟨draft, compiled, edited, compiled', rfl, compiles, isDraft, compiles', fun options => ?_⟩
  have unchanged := (reports options).1.2 fun before after pair _ => by
    cases List.mem_singleton.1 pair
    rfl
  cases compiles
  exact ⟨rfl, unchanged⟩

/-- Documentation is reported without its processor, and changes what is generated. -/
theorem docs_reported_without_processor :
    ∃ draft compiled,
      Draft.ofDeclarations (identifiers (.wrap (.string "An identifier.")) (.absent .string)) =
        .ok draft ∧
      compile draft ∅ [.coding] = .ok compiled ∧
      ∀ options,
        (compiled.report options).fragments.map (·.function.doc) = [some "An identifier."] :=
  ⟨_, _, rfl, rfl, fun _ => rfl⟩

end Program

end WireModel
