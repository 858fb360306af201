import WireModel.Pattern.Compiled
import WireModel.Proofs.DecoderParts
import WireModel.Proofs.Preservation

/-! The order of declarations. Whether a model is well scoped, resolves and passes its processors,
and what is generated for each declaration, is decided by which declarations there are; the order
in which they come decides only in which order fragments and errors are listed. -/
namespace WireModel

private theorem modelErrors_perm {ρ : Type} {declarations others : List (Declaration ρ)}
    (perm : declarations.Perm others) :
    modelErrors declarations = [] ↔ modelErrors others = [] := by
  simp only [modelErrors_eq_nil, (perm.map (·.name)).nodup_iff, perm.mem_iff]

private theorem find?_perm {α : Type} {name : α → String} {items others : List α}
    (perm : items.Perm others) (distinct : (items.map name).Nodup) (key : String) :
    items.find? (name · = key) = others.find? (name · = key) := by
  have distinct' := (perm.map name).nodup_iff.1 distinct
  refine Option.ext fun item => ?_
  rw [find?_eq_some_of_nodup distinct, find?_eq_some_of_nodup distinct', perm.mem_iff]

structure Model.Reordered (model other : Model) : Prop where
  properties : model.properties = other.properties
  declarations : model.declarations.Perm other.declarations

section Draft

variable {draft other : Draft} (perm : draft.declarations.Perm other.declarations)
include perm

private theorem classification?_perm :
    classification? draft.declarations = classification? other.declarations := by
  funext name
  have distinct := (modelErrors_eq_nil.1 draft.wellScoped).1
  unfold classification? findDeclaration?
  rw [find?_perm perm distinct]

private theorem dangling_perm :
    draft.declarations.flatMap (danglingReferences draft.declarations) = [] ↔
      other.declarations.flatMap (danglingReferences other.declarations) = [] := by
  have same : danglingReferences draft.declarations = danglingReferences other.declarations := by
    funext declaration
    simp only [danglingReferences, classification?_perm perm]
  simp only [List.flatMap_eq_nil_iff, same, perm.mem_iff]

theorem initialModel_reordered (properties : Properties) :
    (draft.initialModel properties).Reordered (other.initialModel properties) := by
  have same : classifyReferences draft.declarations = classifyReferences other.declarations := by
    funext declaration
    simp only [classifyReferences, classification?_perm perm]
  refine ⟨rfl, ?_⟩
  unfold Draft.initialModel
  rw [same]
  exact perm.map _

end Draft

section Model

variable {model other : Model} (same : model.Reordered other)
include same

theorem slotErrors_reordered (defaults : Defaults) :
    slotErrors defaults model = [] ↔ slotErrors defaults other = [] := by
  have nodes : ∀ node, node ∈ model.nodes ↔ node ∈ other.nodes := by
    intro node
    simp only [Model.nodes, List.mem_cons, List.mem_flatMap, same.properties,
      same.declarations.mem_iff]
  simp only [slotErrors_eq_nil, nodes]

theorem Processor.settledModel_reordered (processors : List Processor) :
    (settledModel processors model).Reordered (settledModel processors other) := by
  unfold settledModel
  split
  · exact ⟨same.properties, same.declarations.map _⟩
  · exact same

/-- Processors ask about single nodes and declarations, never about neighbours. -/
theorem Processor.accepts_reordered [Pattern.Engine] (processor : Processor) :
    processor.Accepts model ↔ processor.Accepts other := by
  cases processor with
  | coding =>
    have tag : Coding.tagField model = Coding.tagField other := by
      unfold Coding.tagField
      rw [Coding.defaults.topView_congr same.properties]
    simp only [Accepts, slotErrors_reordered same, tag, same.declarations.mem_iff]
  | docs =>
    have required : Docs.isRequired model = Docs.isRequired other := by
      unfold Docs.isRequired
      rw [Docs.defaults.topView_congr same.properties]
    simp only [Accepts, slotErrors_reordered same, required, same.declarations.mem_iff]

end Model

structure Report.Reordered (report other : Report) : Prop where
  fragments : report.fragments.Perm other.fragments
  errors : report.errors.Perm other.errors
  counts : report.counts = other.counts

section Report

variable {model other : Model} (same : model.Reordered other) (defaults : Defaults)
  (options : Options)
include same

theorem generate_reordered :
    (generate defaults options model).Reordered (generate defaults options other) where
  fragments := (same.declarations.map _).filterMap _
  errors := (same.declarations.map _).filterMap _
  counts := by
    simp only [generate, FragmentCounts.ofKinds,
      ((same.declarations.map _).filterMap _).count_eq]

private theorem ofFragments_reordered (names : (model.declarations.map (·.name)).Nodup) :
    DecoderTable.ofFragments (generate defaults options model).fragments =
      DecoderTable.ofFragments (generate defaults options other).fragments := by
  have fragments := (generate_reordered same defaults options).fragments
  exact OrderedMap.ofList_eq_of_perm (fragments.map _) (nodup_fragmentKeys defaults options names)

end Report

section Compiled

variable {draft other : Draft} (perm : draft.declarations.Perm other.declarations)
  {properties : Properties} {processors : List Processor}
include perm

theorem resolve_reordered :
    (∃ resolved, resolve draft = .ok resolved) ↔ ∃ resolved, resolve other = .ok resolved := by
  simp only [resolve_eq_ok, dangling_perm perm, exists_and_left, exists_eq]

variable [Pattern.Engine]

theorem compile_reordered {compiled : Compiled}
    (compiles : compile draft properties processors = .ok compiled) :
    ∃ compiled', compile other properties processors = .ok compiled' ∧
      compiled.model.Reordered compiled'.model ∧ compiled.defaults = compiled'.defaults := by
  have same := initialModel_reordered perm properties
  obtain ⟨none, accepted, rfl⟩ := compile_eq_settled.1 compiles
  refine ⟨_, compile_eq_settled.2 ⟨(dangling_perm perm).1 none, ?_, rfl⟩,
    Processor.settledModel_reordered same processors, rfl⟩
  intro processor member
  exact (Processor.accepts_reordered same processor).1 (accepted processor member)

theorem rejected_reordered {processor : Processor} :
    (∃ errors, compile draft properties processors = .error (.rejected processor errors)) ↔
      ∃ errors, compile other properties processors = .error (.rejected processor errors) := by
  have same := initialModel_reordered perm properties
  simp only [compile_eq_rejected, dangling_perm perm, Processor.accepts_reordered same]

end Compiled

/-- Declarations in another order are as well scoped, resolve as well, compile as well and are
rejected by the same processor. Once compiled, they give the same options, and with these the same
fragments and errors in another order; each name has the same fragment as before, and every input
decodes to the same. -/
theorem declaration_order_immaterial [Pattern.Engine]
    {declarations others : List (Declaration Unit)} (perm : declarations.Perm others)
    (properties : Properties) (processors : List Processor) :
    ((∃ draft, Draft.ofDeclarations declarations = .ok draft) ↔
      ∃ draft, Draft.ofDeclarations others = .ok draft) ∧
    ∀ draft other, Draft.ofDeclarations declarations = .ok draft →
      Draft.ofDeclarations others = .ok other →
      ((∃ resolved, resolve draft = .ok resolved) ↔
        ∃ resolved, resolve other = .ok resolved) ∧
      ((∃ compiled, compile draft properties processors = .ok compiled) ↔
        ∃ compiled, compile other properties processors = .ok compiled) ∧
      (∀ processor,
        (∃ errors, compile draft properties processors = .error (.rejected processor errors)) ↔
          ∃ errors, compile other properties processors = .error (.rejected processor errors)) ∧
      ∀ compiled compiled', compile draft properties processors = .ok compiled →
        compile other properties processors = .ok compiled' →
        Options.ofModel compiled.defaults compiled.model =
          Options.ofModel compiled'.defaults compiled'.model ∧
        ∀ options,
          (compiled.report options).Reordered (compiled'.report options) ∧
          (∀ name, (compiled.report options).fragments.find? (·.declaration = name) =
            (compiled'.report options).fragments.find? (·.declaration = name)) ∧
          ∀ name input,
            Decoding.decode (.ofFragments (compiled.report options).fragments) name input =
              Decoding.decode (.ofFragments (compiled'.report options).fragments) name input := by
  refine ⟨?_, fun draft other drafted drafted' => ?_⟩
  · rw [Draft.exists_ofDeclarations, Draft.exists_ofDeclarations, modelErrors_perm perm]
  obtain rfl := Draft.ofDeclarations_eq_ok.1 drafted
  obtain rfl := Draft.ofDeclarations_eq_ok.1 drafted'
  refine ⟨resolve_reordered perm, ⟨?_, ?_⟩, fun processor => rejected_reordered perm,
    fun compiled compiled' compiles compiles' => ?_⟩
  · rintro ⟨compiled, compiles⟩
    obtain ⟨compiled', compiles', _⟩ := compile_reordered perm compiles
    exact ⟨compiled', compiles'⟩
  · rintro ⟨compiled', compiles'⟩
    obtain ⟨compiled, compiles, _⟩ := compile_reordered perm.symm compiles'
    exact ⟨compiled, compiles⟩
  · have names := (compiled_wellScoped compiles).names
    obtain ⟨found, again, same, defaults⟩ := compile_reordered perm compiles
    obtain rfl : found = compiled' := Except.ok.inj (again.symm.trans compiles')
    unfold Compiled.report
    rw [← defaults]
    refine ⟨Options.ofModel_congr same.properties _, fun options => ?_⟩
    have reordered := generate_reordered same compiled.defaults options
    refine ⟨reordered, fun name => ?_, fun name input => ?_⟩
    · exact find?_perm reordered.fragments (names.sublist fragments_sublist) name
    · rw [ofFragments_reordered same _ _ names]

section Program

attribute [local instance] Pattern.regexEngine

theorem declaration_order_immaterial_tree :
    treeDraft.declarations.Perm treeDraft.declarations.reverse ∧
    ∃ other compiled compiled',
      Draft.ofDeclarations treeDraft.declarations.reverse = .ok other ∧
      compile treeDraft ∅ [.docs, .coding] = .ok compiled ∧
      compile other ∅ [.docs, .coding] = .ok compiled' ∧
      ∀ options,
        (compiled.report options).fragments.map (·.declaration) = ["Tree", "Label"] ∧
        (compiled'.report options).fragments.map (·.declaration) = ["Label", "Tree"] ∧
        ∀ name input,
          Decoding.decode (.ofFragments (compiled.report options).fragments) name input =
            Decoding.decode (.ofFragments (compiled'.report options).fragments) name input := by
  have perm := (List.reverse_perm treeDraft.declarations).symm
  obtain ⟨other, drafted⟩ : ∃ other,
      Draft.ofDeclarations treeDraft.declarations.reverse = .ok other := ⟨_, rfl⟩
  obtain ⟨compiled, compiles⟩ : ∃ compiled,
      compile treeDraft ∅ [.docs, .coding] = .ok compiled := ⟨_, rfl⟩
  obtain ⟨_, drafts⟩ := declaration_order_immaterial perm ∅ [.docs, .coding]
  obtain ⟨_, both, _, reports⟩ := drafts treeDraft other rfl drafted
  obtain ⟨compiled', compiles'⟩ := both.1 ⟨compiled, compiles⟩
  refine ⟨perm, other, compiled, compiled', drafted, compiles, compiles', fun options => ?_⟩
  obtain ⟨_, _, decodes⟩ := (reports compiled compiled' compiles compiles').2 options
  cases drafted
  cases compiles
  cases compiles'
  exact ⟨rfl, rfl, decodes⟩

end Program

end WireModel
