import WireModel.Proofs.CheckedSlots
import WireModel.Proofs.Resolution

/-! The first failure decides. A run of checks stops at the first check that fails, on the model
that those before it have left, and what follows is never asked. Compilation fails in resolution or
at one processor, and reports what that stage found and nothing else. -/
namespace WireModel

section Acting

variable {π ε σ : Type} {check : π → Model → StateM σ (Except (List ε) Model)}

/-- Items pass a check that acts on a state, each on the model and in the state that the one before
it left. -/
inductive PassesIn (check : π → Model → StateM σ (Except (List ε) Model)) :
    List π → Model × σ → Model × σ → Prop
  | nil {start} : PassesIn check [] start start
  | cons {first rest model state next between final}
      (accepted : (check first model).run state = (.ok next, between))
      (later : PassesIn check rest (next, between) final) :
      PassesIn check (first :: rest) (model, state) final

def FailsIn (check : π → Model → StateM σ (Except (List ε) Model)) (before : List π) (item : π)
    (start : Model × σ) (errors : List ε) (final : σ) : Prop :=
  ∃ reached state, PassesIn check before start (reached, state) ∧
    (check item reached).run state = (.error errors, final)

variable {first item : π} {before rest : List π} {index : Nat} {model next : Model}
  {state between final : σ} {errors : List ε}

@[simp]
theorem failsIn_nil : FailsIn check [] item (model, state) errors final ↔
    (check item model).run state = (.error errors, final) := by
  constructor
  · rintro ⟨reached, between, passed, failed⟩
    cases passed
    exact failed
  · intro failed
    exact ⟨model, state, .nil, failed⟩

@[simp]
theorem failsIn_cons : FailsIn check (first :: before) item (model, state) errors final ↔
    ∃ next between, (check first model).run state = (.ok next, between) ∧
      FailsIn check before item (next, between) errors final := by
  constructor
  · rintro ⟨reached, last, passed, failed⟩
    cases passed with
    | cons accepted later => exact ⟨_, _, accepted, reached, last, later, failed⟩
  · rintro ⟨next, between, accepted, reached, last, later, failed⟩
    exact ⟨reached, last, .cons accepted later, failed⟩

theorem run_threadFromM_of_ok (accepted : (check first model).run state = (.ok next, between)) :
    (threadFromM check index (first :: rest) model).run state =
      (threadFromM check (index + 1) rest next).run between := by
  rw [threadFromM, StateT.run_bind, accepted]
  rfl

theorem run_threadFromM_of_error (failed : (check first model).run state = (.error errors, final)) :
    (threadFromM check index (first :: rest) model).run state =
      (.error ⟨index, first, errors⟩, final) := by
  rw [threadFromM, StateT.run_bind, failed]
  rfl

theorem run_threadFromM_eq_ok {items : List π} {result : Model} :
    (threadFromM check index items model).run state = (.ok result, final) ↔
      PassesIn check items (model, state) (result, final) := by
  induction items generalizing index model state with
  | nil =>
    constructor
    · intro same
      cases same
      exact .nil
    · intro passed
      cases passed
      rfl
  | cons first rest ih =>
    rcases outcome : (check first model).run state with ⟨_ | next, between⟩
    · rw [run_threadFromM_of_error outcome]
      constructor
      · intro same
        cases same
      · intro passed
        cases passed with
        | cons accepted _ => cases outcome.symm.trans accepted
    · rw [run_threadFromM_of_ok outcome, ih]
      constructor
      · exact .cons outcome
      · intro passed
        cases passed with
        | cons accepted later =>
          cases outcome.symm.trans accepted
          exact later

/-- A list splits around its first item, or around one of the rest. -/
private theorem exists_split_cons {P : List π → Prop} :
    (∃ before after, first :: rest = before ++ item :: after ∧ P before) ↔
      first = item ∧ P [] ∨
        ∃ before after, rest = before ++ item :: after ∧ P (first :: before) := by
  constructor
  · rintro ⟨before, after, same, holds⟩
    cases before with
    | nil =>
      cases same
      exact .inl ⟨rfl, holds⟩
    | cons second before =>
      cases same
      exact .inr ⟨before, after, rfl, holds⟩
  · rintro (⟨rfl, holds⟩ | ⟨before, after, rfl, holds⟩)
    · exact ⟨[], rest, rfl, holds⟩
    · exact ⟨first :: before, after, rfl, holds⟩

/-- A run halts at the first item that fails, and in the state that this item leaves: what follows
is never asked. -/
theorem run_threadFromM_eq_error {items : List π} {halt : Halt π ε} :
    (threadFromM check index items model).run state = (.error halt, final) ↔
      ∃ before after, items = before ++ halt.processor :: after ∧
        halt.index = index + before.length ∧
        FailsIn check before halt.processor (model, state) halt.errors final := by
  induction items generalizing index model state with
  | nil =>
    constructor
    · intro same
      cases same
    · rintro ⟨before, after, same, _⟩
      cases before <;> cases same
  | cons first rest ih =>
    rw [exists_split_cons]
    rcases outcome : (check first model).run state with ⟨errors | next, between⟩
    · rw [run_threadFromM_of_error outcome]
      constructor
      · intro same
        cases same
        exact .inl ⟨rfl, rfl, failsIn_nil.2 outcome⟩
      · rintro (⟨rfl, counted, fails⟩ | ⟨before, after, _, _, fails⟩)
        · cases outcome.symm.trans (failsIn_nil.1 fails)
          obtain ⟨_, processor, errors⟩ := halt
          cases counted
          rfl
        · obtain ⟨_, _, accepted, _⟩ := failsIn_cons.1 fails
          cases outcome.symm.trans accepted
    · have shift (length : Nat) : index + 1 + length = index + (length + 1) := by omega
      rw [run_threadFromM_of_ok outcome, ih]
      simp only [shift]
      constructor
      · rintro ⟨before, after, same, counted, fails⟩
        exact .inr ⟨before, after, same, counted, failsIn_cons.2 ⟨next, between, outcome, fails⟩⟩
      · rintro (⟨rfl, _, fails⟩ | ⟨before, after, same, counted, fails⟩)
        · cases outcome.symm.trans (failsIn_nil.1 fails)
        · obtain ⟨_, _, accepted, fails⟩ := failsIn_cons.1 fails
          cases outcome.symm.trans accepted
          exact ⟨before, after, same, counted, fails⟩

end Acting

section Thread

variable {π ε : Type} {check : π → Model → Except (List ε) Model}

/-- Items pass a check one after another, each on the model that the one before it left. -/
inductive Passes (check : π → Model → Except (List ε) Model) : List π → Model → Model → Prop
  | nil {model} : Passes check [] model model
  | cons {first rest model next result} (accepted : check first model = .ok next)
      (later : Passes check rest next result) : Passes check (first :: rest) model result

def FailsAfter (check : π → Model → Except (List ε) Model) (before : List π) (item : π)
    (model : Model) (errors : List ε) : Prop :=
  ∃ reached, Passes check before model reached ∧ check item reached = .error errors

/-- A check as one that acts on no state. -/
abbrev still (check : π → Model → Except (List ε) Model) :
    π → Model → StateM Unit (Except (List ε) Model) :=
  fun item model => pure (check item model)

private theorem passesIn_still {items : List π} {model result : Model} :
    PassesIn (still check) items (model, ()) (result, ()) ↔ Passes check items model result := by
  constructor
  · intro passed
    induction items generalizing model with
    | nil =>
      cases passed
      exact .nil
    | cons first rest ih =>
      cases passed with
      | cons accepted later => exact .cons (congrArg Prod.fst accepted) (ih later)
  · intro passed
    induction passed with
    | nil => exact .nil
    | cons accepted _ ih => exact .cons (congrArg (·, ()) accepted) ih

private theorem failsIn_still {before : List π} {item : π} {model : Model} {errors : List ε} :
    FailsIn (still check) before item (model, ()) errors () ↔
      FailsAfter check before item model errors := by
  constructor
  · rintro ⟨reached, _, passed, failed⟩
    exact ⟨reached, passesIn_still.1 passed, congrArg Prod.fst failed⟩
  · rintro ⟨reached, passed, failed⟩
    exact ⟨reached, (), passesIn_still.2 passed, congrArg (·, ()) failed⟩

private theorem run_threadFromM_still (index : Nat) (items : List π) (model : Model) :
    (threadFromM (still check) index items model).run () =
      (threadFrom check index items model, ()) := by
  induction items generalizing index model with
  | nil => rfl
  | cons first rest ih =>
    cases outcome : check first model with
    | ok next =>
      have accepted : (still check first model).run () = (.ok next, ()) := congrArg (·, ()) outcome
      rw [run_threadFromM_of_ok accepted, threadFrom_of_ok outcome, ih]
    | error errors =>
      have failed : (still check first model).run () = (.error errors, ()) :=
        congrArg (·, ()) outcome
      rw [run_threadFromM_of_error failed, threadFrom_of_error outcome]

theorem threadFrom_eq_iff {items : List π} {index : Nat} {model : Model}
    {outcome : Except (Halt π ε) Model} :
    threadFrom check index items model = outcome ↔
      (threadFromM (still check) index items model).run () = (outcome, ()) := by
  rw [run_threadFromM_still]
  exact ⟨congrArg (·, ()), congrArg Prod.fst⟩

theorem threadFrom_eq_ok_iff_passes {items : List π} {index : Nat} {model result : Model} :
    threadFrom check index items model = .ok result ↔ Passes check items model result := by
  rw [threadFrom_eq_iff, run_threadFromM_eq_ok, passesIn_still]

theorem threadFrom_eq_error {items : List π} {index : Nat} {model : Model} {halt : Halt π ε} :
    threadFrom check index items model = .error halt ↔
      ∃ before after, items = before ++ halt.processor :: after ∧
        halt.index = index + before.length ∧
        FailsAfter check before halt.processor model halt.errors := by
  simp only [threadFrom_eq_iff, run_threadFromM_eq_error, failsIn_still]

end Thread

def SlotError.slot : SlotError → String
  | .missing _ slot _ _ | .wrongKind _ slot _ _ _ => slot

private theorem slot_of_mem_slotErrors {defaults : Defaults} {model : Model} {error : SlotError}
    (member : error ∈ slotErrors defaults model) :
    ∃ kind spec, (defaults.of kind).specs.get? error.slot = some spec := by
  obtain ⟨node, _, member⟩ := List.mem_flatMap.1 member
  obtain ⟨⟨slot, spec⟩, known, found⟩ := List.mem_filterMap.1 member
  refine ⟨node.kind, spec, ?_⟩
  have same : error.slot = slot := by
    unfold Node.slotError? at found
    split at found
    · cases found
      rfl
    · split at found
      · cases found
      · cases found
        rfl
  rw [same]
  exact OrderedMap.mem_entries.1 known

namespace ProcessorError

def reporter : ProcessorError → Processor
  | .coding _ => .coding
  | .docs _ => .docs

def slot? : ProcessorError → Option String
  | .coding (.slot error) | .docs (.slot error) => some error.slot
  | _ => none

/-- An error of a processor, about no slot of another processor. -/
structure IsOf (processor : Processor) (error : ProcessorError) : Prop where
  reporter : error.reporter = processor
  slot : ∀ slot, error.slot? = some slot → slot ∈ processor.slots

end ProcessorError

namespace Processor

theorem slot_mem_of_slotErrors {processor : Processor} {model : Model} {error : SlotError}
    (member : error ∈ slotErrors processor.defaults model) : error.slot ∈ processor.slots := by
  obtain ⟨kind, spec, known⟩ := slot_of_mem_slotErrors member
  rw [specs_eq] at known
  obtain ⟨value, set, _⟩ := Option.map_eq_some_iff.1 known
  exact mem_slots set

end Processor

namespace Coding

/-- Not about a slot, but about what the slots say. -/
def Error.IsRule : Error → Prop
  | .slot _ => False
  | _ => True

variable {ρ : Type} {error : Error}

private theorem isRule_of_mem_keyErrors {scope : String} {tag : Option String} {seen : List String}
    {fields : List (Field (TypeExpr ρ))} (member : error ∈ keyErrors scope tag seen fields) :
    error.IsRule := by
  induction fields generalizing seen with
  | nil => cases member
  | cons field rest ih =>
    simp only [keyErrors, List.mem_append, List.mem_ite_nil_right, List.mem_singleton] at member
    rcases member with (⟨_, rfl⟩ | ⟨_, rfl⟩) | member
    · trivial
    · trivial
    · exact ih member

private theorem isRule_of_mem_productErrors {scope : String} {type : TypeExpr ρ}
    (member : error ∈ productErrors scope type) : error.IsRule := by
  obtain ⟨node, _, member⟩ := List.mem_flatMap.1 member
  split at member
  · exact isRule_of_mem_keyErrors member
  · cases member

variable [Pattern.Engine]

private theorem isRule_of_mem_restrictionErrors {name : String} {position : Position}
    {restriction : Restriction} (member : error ∈ restrictionErrors name position restriction) :
    error.IsRule := by
  cases restriction with
  | int r =>
    simp only [restrictionErrors, intErrors, List.mem_append] at member
    rcases member with member | member
    · split at member
      · simp only [List.mem_ite_nil_right, List.mem_singleton] at member
        rw [member.2]
        trivial
      · cases member
    · split at member
      · simp only [List.mem_ite_nil_right, List.mem_singleton] at member
        rw [member.2]
        trivial
      · cases member
  | string r =>
    simp only [restrictionErrors, stringErrors, List.mem_append] at member
    rcases member with member | member
    · split at member
      · simp only [List.mem_ite_nil_right, List.mem_singleton] at member
        rw [member.2]
        trivial
      · cases member
    · split at member
      · split at member
        · cases member
        · rw [List.mem_singleton.1 member]
          trivial
      · cases member

private theorem isRule_of_mem_declarationErrors {tag : String} {declaration : Declaration ρ}
    (member : error ∈ declarationErrors tag declaration) : error.IsRule := by
  unfold declarationErrors at member
  split at member
  · exact isRule_of_mem_productErrors member
  · obtain ⟨constructor, _, member⟩ := List.mem_flatMap.1 member
    rcases List.mem_append.1 member with member | member
    · exact isRule_of_mem_keyErrors member
    · obtain ⟨field, _, member⟩ := List.mem_flatMap.1 member
      exact isRule_of_mem_productErrors member
  · cases member
  · exact isRule_of_mem_restrictionErrors member

theorem of_check_eq_error {model : Model} {errors : List Error}
    (failed : check model = .error errors) :
    errors ≠ [] ∧ ∀ error ∈ errors,
      error.IsRule ∨ ∃ cause ∈ slotErrors defaults model, error = .slot cause := by
  simp only [check] at failed
  split at failed
  · next wrong =>
    cases failed
    refine ⟨by simpa using wrong, fun error member => ?_⟩
    obtain ⟨cause, among, rfl⟩ := List.mem_map.1 member
    exact .inr ⟨cause, among, rfl⟩
  · split at failed
    · cases failed
    · next broken =>
      cases failed
      refine ⟨by simpa using broken, fun error member => ?_⟩
      obtain ⟨declaration, _, member⟩ := List.mem_flatMap.1 member
      exact .inl (isRule_of_mem_declarationErrors member)

end Coding

theorem Docs.of_check_eq_error {model : Model} {errors : List Docs.Error}
    (failed : Docs.check model = .error errors) :
    errors ≠ [] ∧ ∀ error ∈ errors,
      (∃ name position, error = .missingDoc name position) ∨
        ∃ cause ∈ slotErrors defaults model, error = .slot cause := by
  simp only [Docs.check] at failed
  split at failed
  · next wrong =>
    cases failed
    refine ⟨by simpa using wrong, fun error member => ?_⟩
    obtain ⟨cause, among, rfl⟩ := List.mem_map.1 member
    exact .inr ⟨cause, among, rfl⟩
  · generalize (if isRequired model then _ else _) = undocumented at failed
    split at failed
    · cases failed
    · next some =>
      cases failed
      refine ⟨by simpa using some, fun error member => ?_⟩
      obtain ⟨declaration, _, rfl⟩ := List.mem_map.1 member
      exact .inl ⟨_, _, rfl⟩

variable [Pattern.Engine]

/-- A processor that fails says why, and speaks for itself alone. -/
theorem Processor.of_check_eq_error {processor : Processor} {model : Model}
    {errors : List ProcessorError} (failed : processor.check model = .error errors) :
    errors ≠ [] ∧ ∀ error ∈ errors, error.IsOf processor := by
  cases processor with
  | coding =>
    obtain ⟨causes, refused, rfl⟩ := mapError_eq_error.1 failed
    obtain ⟨some, each⟩ := Coding.of_check_eq_error refused
    refine ⟨by simpa using some, fun error member => ?_⟩
    obtain ⟨cause, among, rfl⟩ := List.mem_map.1 member
    refine ⟨rfl, fun slot about => ?_⟩
    rcases each cause among with rule | ⟨wrong, found, rfl⟩
    · cases cause with
      | slot => exact rule.elim
      | _ => cases about
    · cases about
      exact slot_mem_of_slotErrors found
  | docs =>
    obtain ⟨causes, refused, rfl⟩ := mapError_eq_error.1 failed
    obtain ⟨some, each⟩ := Docs.of_check_eq_error refused
    refine ⟨by simpa using some, fun error member => ?_⟩
    obtain ⟨cause, among, rfl⟩ := List.mem_map.1 member
    refine ⟨rfl, fun slot about => ?_⟩
    rcases each cause among with ⟨_, _, rfl⟩ | ⟨wrong, found, rfl⟩
    · cases about
    · cases about
      exact slot_mem_of_slotErrors found

section Compile

variable {draft : Draft} {properties : Properties} {processors : List Processor}

theorem compile_eq_unresolved {errors : List ResolveError} :
    compile draft properties processors = .error (.unresolved errors) ↔
      resolve draft = .error errors := by
  unfold compile
  cases resolve draft with
  | error causes => simp [Except.mapError, bind, Except.bind]
  | ok declarations =>
    refine iff_of_false (fun failed => ?_) (by simp)
    obtain ⟨halt, _, same⟩ := mapError_eq_error.1 (return_eq_error.1 failed)
    cases same

variable {declarations : List (Declaration Classification)}
  (resolves : resolve draft = .ok declarations)
include resolves

theorem compile_eq_rejected_of_resolve {processor : Processor} {errors : List ProcessorError} :
    compile draft properties processors = .error (.rejected processor errors) ↔
      ∃ before after, processors = before ++ processor :: after ∧
        FailsAfter Processor.check before processor { properties, declarations } errors := by
  have ran : compile draft properties processors = .error (.rejected processor errors) ↔
      ∃ index, thread Processor.check processors { properties, declarations } =
        .error ⟨index, processor, errors⟩ := by
    unfold compile
    rw [resolves]
    refine return_eq_error.trans (mapError_eq_error.trans ?_)
    constructor
    · rintro ⟨⟨index, _, _⟩, stopped, same⟩
      cases same
      exact ⟨index, stopped⟩
    · rintro ⟨index, stopped⟩
      exact ⟨_, stopped, rfl⟩
  rw [ran]
  simp only [thread, threadFrom_eq_error]
  constructor
  · rintro ⟨_, before, after, split, _, fails⟩
    exact ⟨before, after, split, fails⟩
  · rintro ⟨before, after, split, fails⟩
    exact ⟨_, before, after, split, rfl, fails⟩

theorem compile_eq_ok_of_resolve {compiled : Compiled} :
    compile draft properties processors = .ok compiled ↔
      Passes Processor.check processors { properties, declarations } compiled.model ∧
        compiled.defaults = Processor.mergedDefaults processors ∧
        compiled.processors = processors := by
  rw [compile_eq_ok]
  simp only [thread, threadFrom_eq_ok_iff_passes]
  constructor
  · rintro ⟨_, _, again, passed, rfl⟩
    cases resolves.symm.trans again
    exact ⟨passed, rfl, rfl⟩
  · rintro ⟨passed, defaults, ran⟩
    refine ⟨declarations, compiled.model, resolves, passed, ?_⟩
    rw [← defaults, ← ran]

end Compile

/-- The first failure decides. A run of any check over any items halts exactly at an item that fails
on the model that the items before it have left, and says how many these are; nothing depends on the
items that follow. Where a check acts on a state, the run ends in the state that this item leaves,
so that those that follow have not acted. A draft that does not resolve is reported as resolution
reports it; of one that does, exactly the first processor that fails is reported, with its own
errors and with at least one, and where none fails, compilation gives the model that they all have
passed on. -/
theorem first_failure_decides :
    (∀ (π ε : Type) (check : π → Model → Except (List ε) Model) (items : List π) (model : Model),
      (∀ halt, thread check items model = .error halt ↔
        ∃ before after, items = before ++ halt.processor :: after ∧ halt.index = before.length ∧
          FailsAfter check before halt.processor model halt.errors) ∧
      ∀ result, thread check items model = .ok result ↔ Passes check items model result) ∧
    (∀ (π ε σ : Type) (check : π → Model → StateM σ (Except (List ε) Model)) (items : List π)
        (model : Model) (state final : σ),
      (∀ halt, (threadFromM check 0 items model).run state = (.error halt, final) ↔
        ∃ before after, items = before ++ halt.processor :: after ∧ halt.index = before.length ∧
          FailsIn check before halt.processor (model, state) halt.errors final) ∧
      ∀ result, (threadFromM check 0 items model).run state = (.ok result, final) ↔
        PassesIn check items (model, state) (result, final)) ∧
    ∀ (draft : Draft) (properties : Properties) (processors : List Processor),
      (∀ errors, compile draft properties processors = .error (.unresolved errors) ↔
        resolve draft = .error errors) ∧
      (∀ declarations, resolve draft = .ok declarations →
        (∀ processor errors,
          compile draft properties processors = .error (.rejected processor errors) ↔
            ∃ before after, processors = before ++ processor :: after ∧
              FailsAfter Processor.check before processor { properties, declarations } errors) ∧
        ∀ compiled, compile draft properties processors = .ok compiled ↔
          Passes Processor.check processors { properties, declarations } compiled.model ∧
            compiled.defaults = Processor.mergedDefaults processors ∧
            compiled.processors = processors) ∧
      (∀ errors, compile draft properties processors = .error (.unresolved errors) →
        errors ≠ []) ∧
      ∀ processor errors,
        compile draft properties processors = .error (.rejected processor errors) →
          errors ≠ [] ∧ ∀ error ∈ errors, error.IsOf processor := by
  refine ⟨fun π ε check items model => ⟨fun halt => ?_, fun result => ?_⟩,
    fun π ε σ check items model state final =>
      ⟨fun halt => ?_, fun result => run_threadFromM_eq_ok⟩,
    fun draft properties processors => ⟨fun errors => compile_eq_unresolved, ?_, ?_, ?_⟩⟩
  · unfold thread
    simp only [threadFrom_eq_error, Nat.zero_add]
  · exact threadFrom_eq_ok_iff_passes
  · simp only [run_threadFromM_eq_error, Nat.zero_add]
  · intro declarations resolves
    exact ⟨fun processor errors => compile_eq_rejected_of_resolve resolves,
      fun compiled => compile_eq_ok_of_resolve resolves⟩
  · intro errors failed
    exact (resolve_eq_error.1 (compile_eq_unresolved.1 failed)).2
  · intro processor errors failed
    cases resolves : resolve draft with
    | error causes => cases (compile_eq_unresolved.2 resolves).symm.trans failed
    | ok declarations =>
      obtain ⟨_, _, _, reached, _, failed⟩ := (compile_eq_rejected_of_resolve resolves).1 failed
      exact Processor.of_check_eq_error failed

end WireModel
