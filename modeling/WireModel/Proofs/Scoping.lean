import WireModel.Proofs.Processing
import WireModel.Proofs.Resolution

/-! Scoping of compiled models. Declarations and the constructors of a sum have distinct names, and
every reference names a declaration and is classified as that declaration is. A draft gives the
first two, resolution the third, and documentation in normal form takes none of them away. -/
namespace WireModel

variable {ρ σ : Type}

@[simp]
theorem ifRepeated_eq_nil {ε : Type} {seen : List String} {name : String} {error : ε} :
    ifRepeated seen name error = [] ↔ name ∉ seen := by
  simp [ifRepeated]

theorem nodup_cons_of_unseen {α : Type} {name : α → String} {seen : List String} {first : α}
    {rest : List α} (new : name first ∉ seen)
    (tail : (rest.map name).Nodup ∧ ∀ item ∈ rest, name item ∉ name first :: seen) :
    ((first :: rest).map name).Nodup ∧ ∀ item ∈ first :: rest, name item ∉ seen := by
  obtain ⟨nodup, unseen⟩ := tail
  simp only [List.mem_cons, not_or] at unseen
  constructor
  · refine List.nodup_cons.2 ⟨fun again => ?_, nodup⟩
    obtain ⟨item, among, same⟩ := List.mem_map.1 again
    exact (unseen item among).1 same
  · intro item among
    rcases List.mem_cons.1 among with rfl | among
    · exact new
    · exact (unseen item among).2

theorem nodup_of_constructorErrors {declaration : Declaration ρ} {seen : List String}
    {constructors : List (Constructor ρ)}
    (h : constructorErrors declaration seen constructors = []) :
    (constructors.map (·.name)).Nodup ∧ ∀ c ∈ constructors, c.name ∉ seen := by
  induction constructors generalizing seen with
  | nil => exact ⟨List.nodup_nil, by simp⟩
  | cons first rest ih =>
    simp only [constructorErrors, List.append_eq_nil_iff, ifRepeated_eq_nil] at h
    obtain ⟨⟨new, _⟩, tail⟩ := h
    exact nodup_cons_of_unseen new (ih tail)

theorem nodup_of_declarationErrors {seen : List String} {declarations : List (Declaration ρ)}
    (h : declarationErrors seen declarations = []) :
    (declarations.map (·.name)).Nodup ∧ ∀ d ∈ declarations, d.name ∉ seen := by
  induction declarations generalizing seen with
  | nil => exact ⟨List.nodup_nil, by simp⟩
  | cons first rest ih =>
    simp only [declarationErrors, List.append_eq_nil_iff, ifRepeated_eq_nil] at h
    obtain ⟨⟨new, _⟩, tail⟩ := h
    exact nodup_cons_of_unseen new (ih tail)

theorem bodyErrors_of_declarationErrors {seen : List String} {declarations : List (Declaration ρ)}
    (h : declarationErrors seen declarations = []) : ∀ d ∈ declarations, bodyErrors d = [] := by
  induction declarations generalizing seen with
  | nil => simp
  | cons first rest ih =>
    simp only [declarationErrors, List.append_eq_nil_iff] at h
    obtain ⟨⟨_, body⟩, tail⟩ := h
    exact List.forall_mem_cons.2 ⟨body, ih tail⟩

theorem declarationErrors_of_nodup {seen : List String} {declarations : List (Declaration ρ)}
    (distinct : (declarations.map (·.name)).Nodup) (unseen : ∀ d ∈ declarations, d.name ∉ seen)
    (bodies : ∀ d ∈ declarations, bodyErrors d = []) :
    declarationErrors seen declarations = [] := by
  induction declarations generalizing seen with
  | nil => rfl
  | cons first rest ih =>
    obtain ⟨new, distinct⟩ := List.nodup_cons.1 distinct
    rw [List.forall_mem_cons] at unseen bodies
    have later : ∀ d ∈ rest, d.name ∉ first.name :: seen := by
      intro d member again
      rcases List.mem_cons.1 again with same | again
      · exact new (List.mem_map.2 ⟨d, member, same⟩)
      · exact unseen.2 d member again
    rw [declarationErrors, ifRepeated_eq_nil.2 unseen.1, bodies.1, ih distinct later bodies.2]
    rfl

theorem modelErrors_eq_nil {declarations : List (Declaration ρ)} :
    modelErrors declarations = [] ↔
      (declarations.map (·.name)).Nodup ∧ ∀ d ∈ declarations, bodyErrors d = [] := by
  constructor
  · intro h
    exact ⟨(nodup_of_declarationErrors h).1, bodyErrors_of_declarationErrors h⟩
  · rintro ⟨distinct, bodies⟩
    exact declarationErrors_of_nodup distinct (by simp) bodies

theorem Draft.ofDeclarations_eq_ok {declarations : List (Declaration Unit)} {draft : Draft} :
    Draft.ofDeclarations declarations = .ok draft ↔ draft.declarations = declarations := by
  unfold Draft.ofDeclarations
  split
  · next wellScoped =>
    constructor
    · intro same
      cases same
      rfl
    · rintro rfl
      rfl
  · next errors =>
    refine iff_of_false (by simp) ?_
    rintro rfl
    exact errors draft.wellScoped

theorem Draft.exists_ofDeclarations {declarations : List (Declaration Unit)} :
    (∃ draft, Draft.ofDeclarations declarations = .ok draft) ↔ modelErrors declarations = [] := by
  simp only [ofDeclarations_eq_ok]
  constructor
  · rintro ⟨draft, rfl⟩
    exact draft.wellScoped
  · intro wellScoped
    exact ⟨⟨declarations, wellScoped⟩, rfl⟩

namespace TypeExpr

variable (type : TypeExpr ρ)

@[simp]
theorem references_mapReferences (f : String → ρ → Position → σ) :
    (type.mapReferences f).references =
      type.references.map fun r => ⟨r.name, f r.name r.payload r.position, r.position⟩ := by
  induction type using TypeExpr.induction with
  | unit | basic | named | emptyProduct => rfl
  | product info fields ih =>
    simp only [mapReferences, references, mapFieldReferences_eq, fieldReferences_eq,
      List.flatMap_map, List.map_flatMap]
    exact List.flatMap_congr ih
  | list info element ih | set info element ih | optional info element ih => exact ih
  | dict info first second ihFirst ihSecond | function info first second ihFirst ihSecond =>
    simp only [mapReferences, references, List.map_append, ihFirst, ihSecond]

@[simp]
theorem references_mapFields (f : FieldLabel → FieldLabel) :
    (type.mapFields f).references = type.references := by
  induction type using TypeExpr.induction with
  | unit | basic | named | emptyProduct => rfl
  | product info fields ih =>
    simp only [mapFields, references, mapFieldList_eq, fieldReferences_eq, List.flatMap_map]
    exact List.flatMap_congr ih
  | list info element ih | set info element ih | optional info element ih => exact ih
  | dict info first second ihFirst ihSecond | function info first second ihFirst ihSecond =>
    simp only [mapFields, references, ihFirst, ihSecond]

end TypeExpr

namespace Body

def constructorNames : Body ρ → List String
  | .sum constructors => constructors.map (·.name)
  | _ => []

variable (body : Body ρ)

@[simp]
theorem references_mapReferences (f : String → ρ → Position → σ) :
    (body.mapReferences f).references =
      body.references.map fun r => ⟨r.name, f r.name r.payload r.position, r.position⟩ := by
  rcases body with type | constructors | labels | restriction
  · exact type.references_mapReferences f
  · simp only [mapReferences, references, TypeExpr.mapFieldReferences_eq,
      TypeExpr.fieldReferences_eq, List.flatMap_map, List.map_flatMap,
      TypeExpr.references_mapReferences]
  · rfl
  · rfl

@[simp]
theorem references_mapFields (f : FieldLabel → FieldLabel) :
    (body.mapFields f).references = body.references := by
  rcases body with type | constructors | labels | restriction
  · exact type.references_mapFields f
  · simp only [mapFields, references, TypeExpr.mapFieldList_eq, TypeExpr.fieldReferences_eq,
      List.flatMap_map, TypeExpr.references_mapFields]
  · rfl
  · rfl

@[simp]
theorem constructorNames_mapReferences (f : String → ρ → Position → σ) :
    (body.mapReferences f).constructorNames = body.constructorNames := by
  cases body <;> simp [mapReferences, constructorNames]

@[simp]
theorem constructorNames_mapFields (f : FieldLabel → FieldLabel) :
    (body.mapFields f).constructorNames = body.constructorNames := by
  cases body <;> simp [mapFields, constructorNames]

@[simp]
private theorem classify_mapReferences (f : String → ρ → Position → σ) :
    (body.mapReferences f).classify = body.classify := by
  cases body <;> rfl

@[simp]
theorem classify_mapFields (f : FieldLabel → FieldLabel) :
    (body.mapFields f).classify = body.classify := by
  cases body <;> rfl

theorem constructorNames_nodup {declaration : Declaration ρ} (h : bodyErrors declaration = []) :
    declaration.body.constructorNames.Nodup := by
  unfold bodyErrors at h
  rcases body : declaration.body with _ | constructors | _ | _
  · exact List.nodup_nil
  · simp only [body, List.append_eq_nil_iff] at h
    exact (nodup_of_constructorErrors h.2).1
  · exact List.nodup_nil
  · exact List.nodup_nil

end Body

theorem find?_of_nodup {α : Type} {name : α → String} {items : List α} {item : α}
    (distinct : (items.map name).Nodup) (among : item ∈ items) :
    items.find? (name · = name item) = some item := by
  induction items with
  | nil => simp at among
  | cons first rest ih =>
    obtain ⟨new, distinct⟩ := List.nodup_cons.1 distinct
    rcases List.mem_cons.1 among with rfl | among
    · simp
    · have differs : name first ≠ name item := by
        intro same
        exact new (same ▸ List.mem_map_of_mem among)
      rw [List.find?_cons_of_neg (by simpa using differs)]
      exact ih distinct among

theorem find?_eq_some_of_nodup {α : Type} {name : α → String} {items : List α} {item : α}
    {key : String} (distinct : (items.map name).Nodup) :
    items.find? (name · = key) = some item ↔ item ∈ items ∧ name item = key := by
  constructor
  · intro found
    exact ⟨List.mem_of_find?_eq_some found, by simpa using List.find?_some found⟩
  · rintro ⟨among, rfl⟩
    exact find?_of_nodup distinct among

theorem findDeclaration?_eq_some {name : String} {declarations : List (Declaration ρ)}
    {declaration : Declaration ρ} (distinct : (declarations.map (·.name)).Nodup) :
    findDeclaration? name declarations = some declaration ↔
      declaration ∈ declarations ∧ declaration.name = name :=
  find?_eq_some_of_nodup distinct

theorem findDeclaration?_eq_none {name : String} {declarations : List (Declaration ρ)} :
    findDeclaration? name declarations = none ↔ name ∉ declarations.map (·.name) := by
  simp [findDeclaration?]

theorem findDeclaration?_map {name : String} {declarations : List (Declaration ρ)}
    {declaration : Declaration ρ} (found : findDeclaration? name declarations = some declaration)
    (f : Declaration ρ → Declaration σ) (names : ∀ d, (f d).name = d.name) :
    findDeclaration? name (declarations.map f) = some (f declaration) := by
  rw [findDeclaration?] at found
  simp only [findDeclaration?, List.find?_map, Function.comp_def, names, found, Option.map_some]

def Model.Classifies (model : Model) (reference : TypeExpr.Reference Classification) : Prop :=
  ∃ target, model.find? reference.name = some target ∧ reference.payload = target.body.classify

/-- What a model owes to its draft and to resolution. -/
structure Model.WellScoped (model : Model) : Prop where
  names : (model.declarations.map (·.name)).Nodup
  constructors : ∀ d ∈ model.declarations, d.body.constructorNames.Nodup
  references : ∀ d ∈ model.declarations, ∀ reference ∈ d.body.references,
    model.Classifies reference

theorem wellScoped_of_resolve {draft : Draft} {properties : Properties}
    {declarations : List (Declaration Classification)} (h : resolve draft = .ok declarations) :
    Model.WellScoped { properties, declarations } := by
  obtain ⟨none, rfl⟩ := resolve_eq_ok.1 h
  refine ⟨?_, fun d member => ?_, fun d member reference inBody => ?_⟩
  · simpa [Function.comp_def, classifyReferences] using
      (nodup_of_declarationErrors draft.wellScoped).1
  · obtain ⟨d, there, rfl⟩ := List.mem_map.1 member
    rw [classifyReferences, Body.constructorNames_mapReferences]
    exact Body.constructorNames_nodup (bodyErrors_of_declarationErrors draft.wellScoped d there)
  · obtain ⟨d, there, rfl⟩ := List.mem_map.1 member
    rw [classifyReferences, Body.references_mapReferences] at inBody
    obtain ⟨r, inDraft, rfl⟩ := List.mem_map.1 inBody
    simp only [List.flatMap_eq_nil_iff, danglingReferences, List.filterMap_eq_nil_iff] at none
    have classified := none d there r inDraft
    simp only [classification?] at classified ⊢
    cases found : findDeclaration? r.name draft.declarations with
    | none => simp [found] at classified
    | some target =>
      refine ⟨classifyReferences draft.declarations target, ?_, ?_⟩
      · exact findDeclaration?_map found (classifyReferences draft.declarations) fun _ => rfl
      · exact (Body.classify_mapReferences target.body _).symm

theorem Model.WellScoped.normalize {model : Model} (h : model.WellScoped) :
    (model.mapDeclarations Docs.normalizeDeclaration).WellScoped := by
  refine ⟨?_, fun d member => ?_, fun d member reference inBody => ?_⟩
  · simpa [Model.mapDeclarations, Function.comp_def, Docs.normalizeDeclaration] using h.names
  · obtain ⟨d, there, rfl⟩ := List.mem_map.1 member
    rw [Docs.normalizeDeclaration, Body.constructorNames_mapFields]
    exact h.constructors d there
  · obtain ⟨d, there, rfl⟩ := List.mem_map.1 member
    rw [Docs.normalizeDeclaration, Body.references_mapFields] at inBody
    obtain ⟨target, found, classified⟩ := h.references d there reference inBody
    refine ⟨Docs.normalizeDeclaration target, ?_, ?_⟩
    · exact findDeclaration?_map found Docs.normalizeDeclaration fun _ => rfl
    · exact classified.trans (Body.classify_mapFields target.body _).symm

variable [Pattern.Engine]

theorem compiled_wellScoped {draft : Draft} {properties : Properties} {processors : List Processor}
    {compiled : Compiled} (h : compile draft properties processors = .ok compiled) :
    compiled.model.WellScoped :=
  compiled_of_resolve (fun _ => wellScoped_of_resolve) (fun _ => Model.WellScoped.normalize) h

end WireModel
