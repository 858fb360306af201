import WireModel.Compilation
import WireModel.Proofs.Slots

/-! Runs of processors. What a processor guarantees when it accepts a model still holds at the end
of the run, since the processors that follow write nothing but documentation. -/
namespace WireModel

section Thread

variable {π ε : Type} {check : π → Model → Except (List ε) Model} {processors : List π}
  {index : Nat} {model result : Model}

@[simp] theorem threadFrom_nil : threadFrom check index [] model = .ok model := rfl

theorem threadFrom_of_ok {first : π} {rest : List π} {next : Model}
    (accepted : check first model = .ok next) :
    threadFrom check index (first :: rest) model = threadFrom check (index + 1) rest next := by
  unfold threadFrom
  rw [threadFromM, accepted]
  rfl

theorem threadFrom_of_error {first : π} {rest : List π} {errors : List ε}
    (failed : check first model = .error errors) :
    threadFrom check index (first :: rest) model = .error ⟨index, first, errors⟩ := by
  unfold threadFrom
  rw [threadFromM, failed]
  rfl

/-- What every processor keeps, a run keeps. -/
theorem threadFrom_keeps {Q : Model → Prop}
    (keeps : ∀ processor ∈ processors, ∀ model next,
      check processor model = .ok next → Q model → Q next)
    (h : threadFrom check index processors model = .ok result) (start : Q model) : Q result := by
  induction processors generalizing index model with
  | nil =>
    cases h
    exact start
  | cons processor rest ih =>
    cases outcome : check processor model with
    | ok next =>
      rw [threadFrom_of_ok outcome] at h
      refine ih (fun other member => keeps other (List.mem_cons_of_mem _ member)) h ?_
      exact keeps processor List.mem_cons_self model next outcome start
    | error errors =>
      rw [threadFrom_of_error outcome] at h
      cases h

/-- What one processor gives and every processor keeps holds at the end of a run. -/
theorem threadFrom_gives {Q : Model → Prop} {giver : π} (member : giver ∈ processors)
    (gives : ∀ model next, check giver model = .ok next → Q next)
    (keeps : ∀ processor ∈ processors, ∀ model next,
      check processor model = .ok next → Q model → Q next)
    (h : threadFrom check index processors model = .ok result) : Q result := by
  induction processors generalizing index model with
  | nil => simp at member
  | cons processor rest ih =>
    have keepsRest := fun other member => keeps other (List.mem_cons_of_mem processor member)
    cases outcome : check processor model with
    | ok next =>
      rw [threadFrom_of_ok outcome] at h
      rcases List.mem_cons.1 member with rfl | member
      · exact threadFrom_keeps keepsRest h (gives model next outcome)
      · exact ih member keepsRest h
    | error errors =>
      rw [threadFrom_of_error outcome] at h
      cases h

end Thread

theorem Coding.check_eq_ok [Pattern.Engine] {model result : Model} :
    Coding.check model = .ok result ↔
      slotErrors defaults model = [] ∧
        model.declarations.flatMap (declarationErrors (tagField model)) = [] ∧ result = model := by
  unfold Coding.check
  cases slotErrors defaults model with
  | cons => simp
  | nil =>
    cases model.declarations.flatMap (declarationErrors (tagField model)) <;>
      simp [eq_comm]

theorem Docs.of_check_eq_ok {model result : Model} (h : Docs.check model = .ok result) :
    slotErrors defaults model = [] ∧ result = model.mapDeclarations normalizeDeclaration := by
  simp only [Docs.check] at h
  split at h
  · cases h
  · next noErrors =>
    generalize (if isRequired model then _ else _) = undocumented at h
    cases undocumented with
    | cons => cases h
    | nil =>
      cases h
      exact ⟨by simpa using noErrors, rfl⟩

variable [Pattern.Engine]

namespace Processor

theorem of_check_eq_ok {processor : Processor} {model result : Model}
    (h : processor.check model = .ok result) :
    slotErrors processor.defaults model = [] ∧
      (result = model ∨ result = model.mapDeclarations Docs.normalizeDeclaration) := by
  cases processor with
  | coding =>
    obtain ⟨slots, _, same⟩ := Coding.check_eq_ok.1 (mapError_eq_ok.1 h)
    exact ⟨slots, .inl same⟩
  | docs =>
    obtain ⟨slots, same⟩ := Docs.of_check_eq_ok (mapError_eq_ok.1 h)
    exact ⟨slots, .inr same⟩

theorem keeps {Q : Model → Prop}
    (normalize : ∀ model, Q model → Q (model.mapDeclarations Docs.normalizeDeclaration))
    {processor : Processor} {model result : Model} (h : processor.check model = .ok result)
    (start : Q model) : Q result := by
  obtain ⟨_, rfl | rfl⟩ := of_check_eq_ok h
  · exact start
  · exact normalize model start

end Processor

section Compiled

variable {draft : Draft} {properties : Properties} {processors : List Processor}
  {compiled : Compiled}

theorem compile_eq_ok :
    compile draft properties processors = .ok compiled ↔
      ∃ declarations model, resolve draft = .ok declarations ∧
        thread Processor.check processors { properties, declarations } = .ok model ∧
        compiled = ⟨model, Processor.mergedDefaults processors, processors⟩ := by
  constructor
  · intro h
    obtain ⟨declarations, resolved, h⟩ := bind_eq_ok.1 h
    obtain ⟨model, ran, h⟩ := bind_eq_ok.1 h
    cases h
    exact ⟨declarations, model, mapError_eq_ok.1 resolved, mapError_eq_ok.1 ran, rfl⟩
  · rintro ⟨declarations, model, resolved, ran, rfl⟩
    exact bind_eq_ok.2 ⟨declarations, mapError_eq_ok.2 resolved,
      bind_eq_ok.2 ⟨model, mapError_eq_ok.2 ran, rfl⟩⟩

theorem compiled_defaults (h : compile draft properties processors = .ok compiled) :
    compiled.defaults = Processor.mergedDefaults processors := by
  obtain ⟨_, _, _, _, rfl⟩ := compile_eq_ok.1 h
  rfl

/-- What one processor gives and normalization keeps holds of the compiled model. -/
theorem compiled_of_giver {Q : Model → Prop} {giver : Processor} (member : giver ∈ processors)
    (gives : ∀ model next, giver.check model = .ok next → Q next)
    (normalize : ∀ model, Q model → Q (model.mapDeclarations Docs.normalizeDeclaration))
    (h : compile draft properties processors = .ok compiled) : Q compiled.model := by
  obtain ⟨_, model, _, ran, rfl⟩ := compile_eq_ok.1 h
  exact threadFrom_gives member gives (fun _ _ _ _ => Processor.keeps normalize) ran

theorem compiled_of_resolve {Q : Model → Prop}
    (gives : ∀ declarations, resolve draft = .ok declarations → Q { properties, declarations })
    (normalize : ∀ model, Q model → Q (model.mapDeclarations Docs.normalizeDeclaration))
    (h : compile draft properties processors = .ok compiled) : Q compiled.model := by
  obtain ⟨declarations, model, resolved, ran, rfl⟩ := compile_eq_ok.1 h
  refine threadFrom_keeps (fun _ _ _ _ => Processor.keeps normalize) ran ?_
  exact gives declarations resolved

theorem slotErrors_compiled {processor : Processor} (member : processor ∈ processors)
    (h : compile draft properties processors = .ok compiled) :
    slotErrors processor.defaults compiled.model = [] := by
  refine compiled_of_giver (Q := fun model => slotErrors processor.defaults model = []) member
    (fun model next accepted => ?_) (fun _ => Docs.slotErrors_normalize) h
  obtain ⟨slots, rfl | rfl⟩ := Processor.of_check_eq_ok accepted
  · exact slots
  · exact Docs.slotErrors_normalize slots

end Compiled

end WireModel
