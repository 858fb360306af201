import WireModel.Pattern.Compiled
import WireModel.Proofs.WireKeys

/-! Processors as a set. A run accepts a model exactly if each of its processors accepts the model
that it starts from: no processor takes away what another one asks for. What a run leaves behind
and the defaults that it puts in force depend on which processors ran, and on nothing else. -/
namespace WireModel

namespace Docs

theorem Confined.supplies_iff {g : Info → Info} (confined : Confined g) {info : Info}
    {values : Properties} {specs : PropertySpecs} (noDoc : specs.get? docSlot = none) :
    (PropertyView.mk (g info).properties values).Supplies specs ↔
      (PropertyView.mk info.properties values).Supplies specs := by
  have lookup : ∀ slot spec, specs.get? slot = some spec →
      (PropertyView.mk (g info).properties values).lookup slot =
        (PropertyView.mk info.properties values).lookup slot := by
    intro slot spec known
    have notDoc : slot ≠ docSlot := by
      rintro rfl
      cases noDoc.symm.trans known
    unfold PropertyView.lookup
    rw [confined.slots info slot notDoc]
  unfold PropertyView.Supplies
  constructor
  · intro h slot spec known
    rw [← lookup slot spec known]
    exact h slot spec known
  · intro h slot spec known
    rw [lookup slot spec known]
    exact h slot spec known

theorem Confined.slotErrors_iff {g : Info → Info} (confined : Confined g) {defaults : Defaults}
    (noDoc : ∀ kind, (defaults.of kind).specs.get? docSlot = none) {model : Model} :
    slotErrors defaults (model.mapDeclarations (·.mapInfo g)) = [] ↔
      slotErrors defaults model = [] := by
  rw [slotErrors_eq_nil, slotErrors_eq_nil, Model.nodes_mapInfo, List.forall_mem_map]
  refine forall₂_congr fun node _ => ?_
  unfold Node.mapInfo
  split
  · exact confined.supplies_iff (noDoc node.kind)
  · exact Iff.rfl

private theorem undocumented_eq_nil {model : Model} :
    (if isRequired model then model.declarations.filter (!isDocumented ·) else []) = [] ↔
      (isRequired model → ∀ d ∈ model.declarations, isDocumented d) := by
  split
  · next required => simp [required]
  · next optional => simp [optional]

theorem check_eq_ok {model result : Model} :
    Docs.check model = .ok result ↔
      slotErrors defaults model = [] ∧
        (isRequired model → ∀ d ∈ model.declarations, isDocumented d) ∧
        result = model.mapDeclarations normalizeDeclaration := by
  unfold Docs.check
  rw [← undocumented_eq_nil]
  cases slotErrors defaults model with
  | cons => simp
  | nil =>
    generalize (if isRequired model then _ else _) = undocumented
    cases undocumented with
    | cons => simp
    | nil =>
      constructor
      · intro h
        exact ⟨rfl, rfl, (Except.ok.inj h).symm⟩
      · rintro ⟨_, _, rfl⟩
        rfl

end Docs

private theorem findSome?_eq_of_mem_iff {α β : Type} {f : α → Option β} {items others : List α}
    (same : ∀ item, item ∈ items ↔ item ∈ others)
    (single : ∀ item other value value', f item = some value → f other = some value' →
      item = other) :
    items.findSome? f = others.findSome? f := by
  cases found : items.findSome? f with
  | none =>
    rw [List.findSome?_eq_none_iff] at found
    symm
    rw [List.findSome?_eq_none_iff]
    intro item member
    exact found item ((same item).2 member)
  | some value =>
    obtain ⟨item, member, there⟩ := List.exists_of_findSome?_eq_some found
    rw [← there]
    symm
    refine findSome?_eq_of_agree ((same item).1 member) fun other _ => ?_
    cases here : f other with
    | none => exact .inl rfl
    | some value' =>
      obtain rfl := single item other value value' there here
      exact .inr here.symm

namespace Processor

def rewrite (model : Model) : Processor → Model
  | .coding => model
  | .docs => model.mapDeclarations Docs.normalizeDeclaration

/-- The model after processors that accept it: only whether documentation is among them counts. -/
def settledModel (processors : List Processor) (model : Model) : Model :=
  if .docs ∈ processors then model.mapDeclarations Docs.normalizeDeclaration else model

private theorem settledModel_cons (processor : Processor) (rest : List Processor) (model : Model) :
    settledModel rest (processor.rewrite model) = settledModel (processor :: rest) model := by
  cases processor with
  | coding => simp [settledModel, rewrite]
  | docs =>
    simp only [settledModel, rewrite, List.mem_cons, true_or, if_true]
    split
    · exact Docs.normalize_model_twice model
    · rfl

section Checks

variable [Pattern.Engine]

def Accepts (model : Model) : Processor → Prop
  | .coding =>
    slotErrors Coding.defaults model = [] ∧
      ∀ d ∈ model.declarations, Coding.declarationErrors (Coding.tagField model) d = []
  | .docs =>
    slotErrors Docs.defaults model = [] ∧
      (Docs.isRequired model → ∀ d ∈ model.declarations, Docs.isDocumented d)

theorem check_eq_ok {processor : Processor} {model result : Model} :
    processor.check model = .ok result ↔
      processor.Accepts model ∧ result = processor.rewrite model := by
  cases processor with
  | coding =>
    unfold check
    rw [mapError_eq_ok, Coding.check_eq_ok, List.flatMap_eq_nil_iff, ← and_assoc]
    rfl
  | docs =>
    unfold check
    rw [mapError_eq_ok, Docs.check_eq_ok, ← and_assoc]
    rfl

private theorem not_accepts_of_check {processor : Processor} {model : Model}
    {errors : List ProcessorError} (h : processor.check model = .error errors) :
    ¬processor.Accepts model := by
  intro accepted
  cases h.symm.trans (check_eq_ok.2 ⟨accepted, rfl⟩)

theorem coding_accepts_mapInfo {g : Info → Info} (confined : Docs.Confined g) {model : Model} :
    Processor.coding.Accepts (model.mapDeclarations (·.mapInfo g)) ↔
      Processor.coding.Accepts model := by
  have noDoc : ∀ kind, (Coding.defaults.of kind).specs.get? Docs.docSlot = none := by
    intro kind
    cases kind <;> rfl
  have rules : (∀ d ∈ (model.mapDeclarations (·.mapInfo g)).declarations,
        Coding.declarationErrors (Coding.tagField model) d = []) ↔
      ∀ d ∈ model.declarations, Coding.declarationErrors (Coding.tagField model) d = [] := by
    simp only [Model.mapDeclarations, List.forall_mem_map,
      Coding.declarationErrors_mapInfo confined]
  exact and_congr (confined.slotErrors_iff noDoc) rules

theorem docs_accepts_normalize {model : Model} (h : Processor.docs.Accepts model) :
    Processor.docs.Accepts (model.mapDeclarations Docs.normalizeDeclaration) := by
  obtain ⟨slots, documented⟩ := h
  refine ⟨Docs.slotErrors_normalize slots, fun required d member => ?_⟩
  obtain ⟨before, there, rfl⟩ := List.mem_map.1 member
  exact Docs.isDocumented_normalize (documented required before there)

/-- A processor that ran changes nothing of what any processor asks. -/
theorem accepts_rewrite {first second : Processor} {model : Model} (h : first.Accepts model) :
    second.Accepts (first.rewrite model) ↔ second.Accepts model := by
  cases first with
  | coding => exact Iff.rfl
  | docs =>
    cases second with
    | coding => exact coding_accepts_mapInfo Docs.confined_normalizeInfo
    | docs => exact iff_of_true (docs_accepts_normalize h) h

theorem threadFrom_eq_ok {processors : List Processor} {index : Nat} {model result : Model} :
    threadFrom check index processors model = .ok result ↔
      (∀ processor ∈ processors, processor.Accepts model) ∧
        result = settledModel processors model := by
  induction processors generalizing index model with
  | nil => simp [settledModel, eq_comm]
  | cons processor rest ih =>
    rw [List.forall_mem_cons, ← settledModel_cons]
    cases outcome : processor.check model with
    | ok next =>
      obtain ⟨accepted, rfl⟩ := check_eq_ok.1 outcome
      simp only [threadFrom_of_ok outcome, ih, accepts_rewrite accepted, accepted, true_and]
    | error errors => simp [threadFrom_of_error outcome, not_accepts_of_check outcome]

/-- A run stops at the first processor that does not accept the model that the run starts from. -/
theorem threadFrom_stops {processors : List Processor} (index : Nat) {model : Model}
    {processor : Processor} :
    (∃ halt, threadFrom check index processors model = .error halt ∧ halt.processor = processor) ↔
      ∃ before after, processors = before ++ processor :: after ∧
        (∀ earlier ∈ before, earlier.Accepts model) ∧ ¬processor.Accepts model := by
  induction processors generalizing index model with
  | nil => simp
  | cons first rest ih =>
    cases outcome : first.check model with
    | ok next =>
      obtain ⟨accepted, rfl⟩ := check_eq_ok.1 outcome
      simp only [threadFrom_of_ok outcome, ih, accepts_rewrite accepted]
      constructor
      · rintro ⟨before, after, rfl, earlier, refused⟩
        exact ⟨first :: before, after, rfl, List.forall_mem_cons.2 ⟨accepted, earlier⟩, refused⟩
      · rintro ⟨before, after, same, earlier, refused⟩
        cases before with
        | nil =>
          cases same
          exact absurd accepted refused
        | cons second before =>
          cases same
          exact ⟨before, after, rfl, (List.forall_mem_cons.1 earlier).2, refused⟩
    | error errors =>
      have refused := not_accepts_of_check outcome
      rw [threadFrom_of_error outcome]
      constructor
      · rintro ⟨halt, same, rfl⟩
        cases same
        exact ⟨[], rest, rfl, by simp, refused⟩
      · rintro ⟨before, after, same, earlier, _⟩
        cases before with
        | nil =>
          cases same
          exact ⟨_, rfl, rfl⟩
        | cons second before =>
          cases same
          exact absurd (List.forall_mem_cons.1 earlier).1 refused

end Checks

/-- No slot belongs to two processors, so that a slot's entry is that of its only owner. -/
theorem get?_mergedDefaults_congr {α : Type} (part : NodeSlots → OrderedMap α)
    (empty : part {} = ∅)
    (merges : ∀ slots other, part (slots.merge other) = (part slots).merge (part other))
    (owned : ∀ (processor : Processor) kind slot value,
      (part (processor.defaults.of kind)).get? slot = some value → slot ∈ processor.slots)
    {first second : List Processor} (same : ∀ processor, processor ∈ first ↔ processor ∈ second)
    (kind : NodeKind) (slot : String) :
    (part ((mergedDefaults first).of kind)).get? slot =
      (part ((mergedDefaults second).of kind)).get? slot := by
  unfold mergedDefaults
  rw [Defaults.get?_merged part empty merges, Defaults.get?_merged part empty merges,
    ← List.map_reverse, ← List.map_reverse, List.findSome?_map, List.findSome?_map]
  apply findSome?_eq_of_mem_iff
  · intro processor
    rw [List.mem_reverse, List.mem_reverse, same]
  · intro processor other value value' here there
    have mine := owned processor kind slot value here
    exact eq_of_mem_slots mine (owned other kind slot value' there)

theorem mergedDefaults_congr {first second : List Processor}
    (same : ∀ processor, processor ∈ first ↔ processor ∈ second) :
    mergedDefaults first = mergedDefaults second := by
  have values : ∀ kind, ((mergedDefaults first).of kind).values =
      ((mergedDefaults second).of kind).values := by
    intro kind
    apply OrderedMap.ext_get?
    exact get?_mergedDefaults_congr NodeSlots.values rfl (fun _ _ => rfl)
      (fun _ _ _ _ => mem_slots) same kind
  have specs : ∀ kind, ((mergedDefaults first).of kind).specs =
      ((mergedDefaults second).of kind).specs := by
    intro kind
    apply OrderedMap.ext_get?
    refine get?_mergedDefaults_congr NodeSlots.specs rfl (fun _ _ => rfl) ?_ same kind
    intro processor kind slot spec known
    rw [specs_eq] at known
    obtain ⟨value, set, _⟩ := Option.map_eq_some_iff.1 known
    exact mem_slots set
  have slots : (mergedDefaults first).of = (mergedDefaults second).of := by
    funext kind
    exact congrArg₂ NodeSlots.mk (specs kind) (values kind)
  exact congrArg Defaults.mk slots

theorem settledModel_congr {first second : List Processor}
    (same : ∀ processor, processor ∈ first ↔ processor ∈ second) (model : Model) :
    settledModel first model = settledModel second model := by
  unfold settledModel
  simp only [same]

end Processor

section Compiled

variable [Pattern.Engine] {draft : Draft} {properties : Properties} {first second : List Processor}

theorem compile_congr (same : ∀ processor, processor ∈ first ↔ processor ∈ second)
    {compiled : Compiled} (h : compile draft properties first = .ok compiled) :
    compile draft properties second = .ok { compiled with processors := second } := by
  obtain ⟨declarations, model, resolved, ran, rfl⟩ := compile_eq_ok.1 h
  refine compile_eq_ok.2 ⟨declarations, model, resolved, ?_, ?_⟩
  · obtain ⟨accepted, rfl⟩ := Processor.threadFrom_eq_ok.1 ran
    refine Processor.threadFrom_eq_ok.2 ⟨fun processor member => ?_, ?_⟩
    · exact accepted processor ((same processor).2 member)
    · exact Processor.settledModel_congr same _
  · rw [Processor.mergedDefaults_congr same]

/-- Neither the order of the processors nor how often they run matters: lists with the same members
compile the same drafts, to the same model under the same defaults. -/
theorem compile_eq_of_same_processors
    (same : ∀ processor, processor ∈ first ↔ processor ∈ second) :
    ((∃ compiled, compile draft properties first = .ok compiled) ↔
      ∃ compiled, compile draft properties second = .ok compiled) ∧
    ∀ compiled compiled', compile draft properties first = .ok compiled →
      compile draft properties second = .ok compiled' →
      compiled.model = compiled'.model ∧ compiled.defaults = compiled'.defaults := by
  have back : ∀ processor, processor ∈ second ↔ processor ∈ first := fun processor =>
    (same processor).symm
  refine ⟨⟨?_, ?_⟩, ?_⟩
  · rintro ⟨compiled, compiles⟩
    exact ⟨_, compile_congr same compiles⟩
  · rintro ⟨compiled, compiles⟩
    exact ⟨_, compile_congr back compiles⟩
  · intro compiled compiled' compiles compiles'
    cases compiles'.symm.trans (compile_congr same compiles)
    exact ⟨rfl, rfl⟩

end Compiled

section Program

attribute [local instance] Pattern.regexEngine

theorem compile_eq_of_same_processors_tree :
    ∃ compiled compiled',
      compile treeDraft (.ofList [(Docs.requiredSlot, .bool false)]) [.docs, .coding, .docs] =
        .ok compiled ∧
      compile treeDraft (.ofList [(Docs.requiredSlot, .bool false)]) [.coding, .docs] =
        .ok compiled' ∧
      compiled.model = compiled'.model ∧ compiled.defaults = compiled'.defaults := by
  have same : ∀ processor : Processor,
      processor ∈ [.docs, .coding, .docs] ↔ processor ∈ [.coding, .docs] := by
    intro processor
    cases processor <;> decide
  obtain ⟨compiled, compiles⟩ : ∃ compiled,
      compile treeDraft (.ofList [(Docs.requiredSlot, .bool false)]) [.docs, .coding, .docs] =
        .ok compiled := ⟨_, rfl⟩
  obtain ⟨accepted, equal⟩ := compile_eq_of_same_processors same
  obtain ⟨compiled', compiles'⟩ := accepted.1 ⟨compiled, compiles⟩
  exact ⟨compiled, compiled', compiles, compiles', equal compiled compiled' compiles compiles'⟩

end Program

end WireModel
