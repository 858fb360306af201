import WireModel.Pattern.Compiled
import WireModel.Proofs.DecoderParts
import WireModel.Proofs.Preservation

/-! Generation takes one declaration at a time. What comes out for a declaration depends on the
declaration, on the classifications of the names in it and on the options, and on no other
declaration; a report lists these outcomes in the order of the model. -/
namespace WireModel

section Outcomes

/-- Whether an outcome can be that of a declaration: a fragment has the declaration's name. -/
def BelongsTo (name : String) (outcome : Except GenerateError Fragment) : Prop :=
  ∀ fragment, outcome = .ok fragment → fragment.declaration = name

variable {names : List String} {outcomes others : List (Except GenerateError Fragment)}

private theorem mem_names_of_fragment (each : List.Forall₂ BelongsTo names outcomes)
    {fragment : Fragment}
    (member : fragment ∈ outcomes.filterMap (·.toOption)) : fragment.declaration ∈ names := by
  induction each with
  | nil => simp at member
  | @cons name outcome _ _ head _ ih =>
    obtain ⟨found, there, known⟩ := List.mem_filterMap.1 member
    rcases List.mem_cons.1 there with rfl | there
    · exact head fragment (toOption_eq_some.1 known) ▸ List.mem_cons_self
    · exact List.mem_cons_of_mem _ (ih (List.mem_filterMap.2 ⟨found, there, known⟩))

/-- The outcomes for distinct names are known from their fragments and their errors: fragments show
at which names the errors stand. -/
theorem outcomes_unique (distinct : names.Nodup) (each : List.Forall₂ BelongsTo names outcomes)
    (each' : List.Forall₂ BelongsTo names others)
    (fragments : outcomes.filterMap (·.toOption) = others.filterMap (·.toOption))
    (errors : outcomes.filterMap error? = others.filterMap error?) : outcomes = others := by
  induction each generalizing others with
  | nil =>
    cases each'
    rfl
  | @cons name outcome rest outcomes head tail ih =>
    obtain ⟨new, distinct⟩ := List.nodup_cons.1 distinct
    cases each' with
    | @cons _ other _ others head' tail' =>
      cases outcome with
      | ok fragment =>
        cases other with
        | ok fragment' =>
          injection fragments with same fragments
          rw [same, ih distinct tail' fragments errors]
        | error error =>
          -- a fragment of this name would have to come later, among fragments of other names
          have later : fragment ∈ others.filterMap (·.toOption) := fragments ▸ List.mem_cons_self
          exact absurd (head fragment rfl ▸ mem_names_of_fragment tail' later) new
      | error error =>
        cases other with
        | ok fragment' =>
          have later : fragment' ∈ outcomes.filterMap (·.toOption) :=
            fragments.symm ▸ List.mem_cons_self
          exact absurd (head' fragment' rfl ▸ mem_names_of_fragment tail later) new
        | error error' =>
          injection errors with same errors
          rw [same, ih distinct tail' fragments errors]

private theorem length_outcomes (outcomes : List (Except GenerateError Fragment)) :
    (outcomes.filterMap (·.toOption)).length + (outcomes.filterMap error?).length =
      outcomes.length := by
  induction outcomes with
  | nil => rfl
  | cons outcome rest ih =>
    cases outcome with
    | ok =>
      simp only [List.filterMap_cons, Except.toOption, error?, List.length_cons, ← ih]
      omega
    | error =>
      simp only [List.filterMap_cons, Except.toOption, error?, List.length_cons, ← ih]
      omega

end Outcomes

namespace Report

/-- A report has one outcome for each name, and lists fragments and errors in the order of the
names. -/
structure Itemizes (report : Report) (names : List String)
    (outcomes : List (Except GenerateError Fragment)) : Prop where
  each : List.Forall₂ BelongsTo names outcomes
  fragments : report.fragments = outcomes.filterMap (·.toOption)
  errors : report.errors = outcomes.filterMap error?

def Gives (report : Report) (names : List String) (name : String)
    (outcome : Except GenerateError Fragment) : Prop :=
  ∃ outcomes, report.Itemizes names outcomes ∧ (name, outcome) ∈ names.zip outcomes

end Report

def FragmentCounts.of (counts : FragmentCounts) : DeclarationKind → Nat
  | .alias => counts.aliases
  | .sum => counts.sums
  | .enum => counts.enums
  | .restricted => counts.refinements

private theorem FragmentCounts.of_ofKinds (kinds : List DeclarationKind) (kind : DeclarationKind) :
    (FragmentCounts.ofKinds kinds).of kind = kinds.count kind := by
  cases kind <;> rfl

section Generated

variable (defaults : Defaults) (options : Options) (model : Model)

theorem generate_itemizes :
    (generate defaults options model).Itemizes (model.declarations.map (·.name))
      (model.declarations.map (requestedFragment defaults options)) where
  each := by
    refine List.forall₂_map_left_iff.2 (List.forall₂_map_right_iff.2 (List.forall₂_same.2 ?_))
    intro declaration _ fragment generated
    exact (requestedFragment_eq_ok generated).1
  fragments := by simp only [generate, List.filterMap_map, Function.comp_def]
  errors := by simp only [generate, List.filterMap_map, Function.comp_def]

variable {model}

theorem counts_generate (distinct : (model.declarations.map (·.name)).Nodup)
    (kind : DeclarationKind) :
    (generate defaults options model).counts.of kind =
      (generate defaults options model).fragments.countP fun fragment =>
        (model.find? fragment.declaration).map (·.body.kind) = some kind := by
  simp only [generate, FragmentCounts.of_ofKinds, List.count, List.filterMap_map,
    List.countP_filterMap]
  refine List.countP_congr fun declaration member => ?_
  simp only [Function.comp_apply]
  cases outcome : requestedFragment defaults options declaration with
  | error => simp [Except.toOption]
  | ok fragment =>
    have found : model.find? fragment.declaration = some declaration := by
      rw [(requestedFragment_eq_ok outcome).1]
      exact find?_of_nodup distinct member
    simp [Except.toOption, found]

theorem isComplete_iff :
    (generate defaults options model).isComplete ↔
      (generate defaults options model).fragments.map (·.declaration) =
        model.declarations.map (·.name) := by
  constructor
  · intro complete
    exact declarations_of_fragments (fragments_of_complete complete)
  · intro same
    have items := generate_itemizes defaults options model
    have count := length_outcomes (model.declarations.map (requestedFragment defaults options))
    have lengths := congrArg List.length same
    rw [← items.fragments, ← items.errors, List.length_map] at count
    rw [List.length_map, List.length_map] at lengths
    rw [Report.isComplete, List.isEmpty_iff, ← List.length_eq_zero_iff]
    omega

end Generated

def Draft.compiledForm (draft : Draft) (processors : List Processor)
    (declaration : Declaration Unit) : Declaration Classification :=
  if .docs ∈ processors then
    Docs.normalizeDeclaration (classifyReferences draft.declarations declaration)
  else classifyReferences draft.declarations declaration

section Compiled

variable {draft other : Draft} {properties : Properties} {processors : List Processor}
  {compiled compiled' : Compiled}

/-- Compilation sees of other declarations only how the names in a declaration are classified. -/
theorem compiledForm_congr {declaration : Declaration Unit}
    (agree : ∀ reference ∈ declaration.body.references,
      classification? draft.declarations reference.name =
        classification? other.declarations reference.name) :
    draft.compiledForm processors declaration = other.compiledForm processors declaration := by
  have same : classifyReferences draft.declarations declaration =
      classifyReferences other.declarations declaration := by
    unfold classifyReferences
    congr 1
    refine Body.mapReferences_congr fun reference member => ?_
    rw [agree reference member]
  unfold Draft.compiledForm
  rw [same]

variable [Pattern.Engine]

private theorem compiled_declarations
    (compiles : compile draft properties processors = .ok compiled) :
    compiled.model.declarations = draft.declarations.map (draft.compiledForm processors) := by
  obtain ⟨_, _, rfl⟩ := compile_eq_settled.1 compiles
  unfold Processor.settledModel Draft.compiledForm
  split
  · exact List.map_map
  · rfl

private theorem itemizes_report (compiles : compile draft properties processors = .ok compiled)
    (options : Options) :
    (compiled.report options).Itemizes (draft.declarations.map (·.name))
      (draft.declarations.map fun declaration =>
        requestedFragment (Processor.mergedDefaults processors) options
          (draft.compiledForm processors declaration)) := by
  have items := generate_itemizes compiled.defaults options compiled.model
  rw [compiled_declarationNames compiles, compiled_declarations compiles, List.map_map,
    compiled_defaults compiles] at items
  unfold Compiled.report
  rw [compiled_defaults compiles]
  exact items

private theorem gives_report (compiles : compile draft properties processors = .ok compiled)
    (options : Options) {declaration : Declaration Unit}
    (member : declaration ∈ draft.declarations) :
    (compiled.report options).Gives (draft.declarations.map (·.name)) declaration.name
      (requestedFragment (Processor.mergedDefaults processors) options
        (draft.compiledForm processors declaration)) := by
  refine ⟨_, itemizes_report compiles options, ?_⟩
  rw [List.zip_map']
  exact List.mem_map_of_mem member

/-- A declaration that two models share, and whose references point at the same in both, has the
same fragment or the same error in both. In each report every declaration has one outcome, kinds
are counted by fragments, and nothing is missing exactly if all declarations have fragments. -/
theorem generation_local (coding : .coding ∈ processors)
    (compiles : compile draft properties processors = .ok compiled)
    (compiles' : compile other properties processors = .ok compiled') :
    (∃ options, Options.ofModel compiled.defaults compiled.model = .ok options ∧
      Options.ofModel compiled'.defaults compiled'.model = .ok options) ∧
    ∀ options,
      (∀ declaration ∈ draft.declarations, declaration ∈ other.declarations →
        (∀ reference ∈ declaration.body.references,
          classification? draft.declarations reference.name =
            classification? other.declarations reference.name) →
        ∃ outcome,
          (compiled.report options).Gives (draft.declarations.map (·.name)) declaration.name
            outcome ∧
          (compiled'.report options).Gives (other.declarations.map (·.name)) declaration.name
            outcome) ∧
      (∃! outcomes,
        (compiled.report options).Itemizes (draft.declarations.map (·.name)) outcomes) ∧
      (∀ kind, (compiled.report options).counts.of kind =
        (compiled.report options).fragments.countP fun fragment =>
          (compiled.model.find? fragment.declaration).map (·.body.kind) = some kind) ∧
      ((compiled.report options).isComplete ↔
        (compiled.report options).fragments.map (·.declaration) =
          draft.declarations.map (·.name)) := by
  have distinct := (compiled_wellScoped compiles).names
  have names := compiled_declarationNames compiles
  refine ⟨?_, fun options => ⟨fun declaration here there agree => ?_, ?_, ?_, ?_⟩⟩
  · obtain ⟨options, given⟩ := options_eq_ok coding compiles
    have properties' := (compiled_properties compiles').trans (compiled_properties compiles).symm
    have defaults' := (compiled_defaults compiles').trans (compiled_defaults compiles).symm
    refine ⟨options, given, ?_⟩
    rw [defaults', Options.ofModel_congr properties', given]
  · have again := gives_report compiles' options there
    rw [← compiledForm_congr agree] at again
    exact ⟨_, gives_report compiles options here, again⟩
  · have items := itemizes_report compiles options
    refine ⟨_, items, fun outcomes items' => ?_⟩
    refine outcomes_unique (names ▸ distinct) items'.each items.each ?_ ?_
    · rw [← items.fragments, ← items'.fragments]
    · rw [← items.errors, ← items'.errors]
  · exact counts_generate _ _ distinct
  · rw [← names]
    exact isComplete_iff _ _

end Compiled

def forestDraft : Draft where
  declarations :=
    { name := "Handler"
      body := .alias (.function {} (.named {} "Tree" ()) (.unit {}))
      info := decodedInfo } ::
    treeDraft.declarations.take 1 ++
    [{ name := "Label"
       body := .restricted (.string { maxLength := some 8 })
       info := decodedInfo }]
  wellScoped := by decide

section Program

attribute [local instance] Pattern.regexEngine

theorem generation_local_tree :
    ∃ compiled compiled',
      compile treeDraft ∅ [.coding] = .ok compiled ∧
      compile forestDraft ∅ [.coding] = .ok compiled' ∧
      ∀ options,
        (compiled.report options).isComplete ∧
        (compiled'.report options).isComplete = false ∧
        ∃ outcome,
          (compiled.report options).Gives ["Tree", "Label"] "Tree" outcome ∧
          (compiled'.report options).Gives ["Handler", "Tree", "Label"] "Tree" outcome := by
  obtain ⟨compiled, compiles⟩ : ∃ compiled, compile treeDraft ∅ [.coding] = .ok compiled :=
    ⟨_, rfl⟩
  obtain ⟨compiled', compiles'⟩ : ∃ compiled', compile forestDraft ∅ [.coding] = .ok compiled' :=
    ⟨_, rfl⟩
  obtain ⟨_, reports⟩ := generation_local (by decide) compiles compiles'
  refine ⟨compiled, compiled', compiles, compiles', fun options => ?_⟩
  have shared :=
    (reports options).1 _ List.mem_cons_self (List.mem_cons_of_mem _ List.mem_cons_self)
    (by decide +kernel)
  cases compiles
  cases compiles'
  exact ⟨rfl, rfl, shared⟩

end Program

end WireModel
