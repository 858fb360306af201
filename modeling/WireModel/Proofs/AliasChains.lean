import WireModel.Pattern.Compiled
import WireModel.Proofs.Answers
import WireModel.Proofs.GeneratedDecoders
import Mathlib.Data.Nat.Find

/-! Chains of aliases. A declaration leads to the next one at the same input exactly if it is an
alias for it, perhaps under optional layers. So the names entered at an input are always a part of
such a chain, and a model alone tells which names refer to themselves without consuming input. -/
namespace WireModel

/-- The declaration that a type refers to, under any number of optional layers. -/
def TypeExpr.reference? {ρ : Type} : TypeExpr ρ → Option String
  | .named _ name _ => some name
  | .optional _ element => element.reference?
  | _ => none

/-- The declaration that a decoder goes on to at the same input. -/
def Decoder.reference? : Decoder → Option String
  | .call target _ => some target
  | .nullable element => element.reference?
  | _ => none

def Body.reference? {ρ : Type} : Body ρ → Option String
  | .alias type => type.reference?
  | _ => none

namespace Model

def successor? (model : Model) (name : String) : Option String :=
  (model.find? name).bind (·.body.reference?)

def chain (model : Model) (name : String) : Nat → Option String
  | 0 => some name
  | steps + 1 => (model.chain name steps).bind model.successor?

def Cycles (model : Model) (name : String) : Prop :=
  ∃ later target, model.chain name later = some target ∧
    ∃ earlier < later, model.chain name earlier = some target

/-- Of the declarations that the chain of a name reaches twice, the one where this happens first. -/
def FirstRepeated (model : Model) (name target : String) : Prop :=
  ∃ later, model.chain name later = some target ∧
    (∃ earlier < later, model.chain name earlier = some target) ∧
    ∀ i j, i < j → j < later → model.chain name i ≠ model.chain name j

/-- The names that come before a number of steps of a chain, the last first. -/
def trail (model : Model) (name : String) : Nat → List String
  | 0 => []
  | steps + 1 => (model.chain name steps).toList ++ model.trail name steps

variable {model : Model} {name target : String}

private theorem exists_of_chain {earlier later : Nat} (before : earlier ≤ later)
    (reached : model.chain name later = some target) :
    ∃ current, model.chain name earlier = some current := by
  induction before generalizing target with
  | refl => exact ⟨target, reached⟩
  | step _ ih =>
    obtain ⟨current, there, _⟩ := Option.bind_eq_some_iff.1 reached
    exact ih there

private theorem mem_trail {steps : Nat} :
    target ∈ model.trail name steps ↔
      ∃ earlier < steps, model.chain name earlier = some target := by
  induction steps with
  | zero => simp [trail]
  | succ steps ih =>
    simp only [trail, List.mem_append, Option.mem_toList, ih, Nat.lt_succ_iff]
    constructor
    · rintro (now | ⟨earlier, before, reached⟩)
      · exact ⟨steps, Nat.le_refl steps, now⟩
      · exact ⟨earlier, Nat.le_of_lt before, reached⟩
    · rintro ⟨earlier, before, reached⟩
      rcases Nat.lt_or_eq_of_le before with before | rfl
      · exact .inr ⟨earlier, before, reached⟩
      · exact .inl reached

theorem Cycles.exists_firstRepeated (h : model.Cycles name) :
    ∃ target, model.FirstRepeated name target := by
  classical
  obtain ⟨target, reached, again⟩ := Nat.find_spec h
  refine ⟨target, Nat.find h, reached, again, fun i j before short same => ?_⟩
  obtain ⟨other, there⟩ := exists_of_chain (Nat.le_of_lt short) reached
  exact Nat.find_min h short ⟨other, there, i, before, same.trans there⟩

end Model

section Generated

variable {model : Model}

private theorem Site.reference?_of_forType {site : Site} {path : String}
    {type : TypeExpr Classification}
    {decoder : Decoder} (built : site.forType path type = .ok decoder) :
    decoder.reference? = type.reference? := by
  induction type using TypeExpr.induction generalizing path decoder with
  | unit | basic | named | emptyProduct =>
    cases built
    rfl
  | optional info element ih =>
    obtain ⟨inner, builtInner, rfl⟩ := return_eq_ok.1 built
    have goes := ih builtInner
    exact goes
  | function => cases built
  | product | list | set | dict =>
    obtain ⟨_, _, rfl⟩ := return_eq_ok.1 built
    rfl

private theorem Site.reference?_of_forBody {site : Site} {body : Body Classification}
    {decoder : Decoder}
    (built : site.forBody body = .ok decoder) : decoder.reference? = body.reference? := by
  rcases body with type | constructors | labels | restriction
  · exact Site.reference?_of_forType built
  · obtain ⟨_, _, rfl⟩ := return_eq_ok.1 built
    rfl
  · cases built
    rfl
  · cases built
    rfl

/-- A table whose decoders go on at the same input as the aliases of a model do. -/
structure DecoderTable.LeadsAs (table : DecoderTable) (model : Model) : Prop where
  next : ∀ name decoder, table.get? name = some decoder →
    decoder.reference? = model.successor? name
  total : ∀ name target, model.successor? name = some target →
    ∃ decoder, table.get? name = some decoder

private theorem leadsAs_of_complete {defaults : Defaults} {options : Options}
    (names : (model.declarations.map (·.name)).Nodup)
    (complete : (generate defaults options model).isComplete) :
    (DecoderTable.ofFragments (generate defaults options model).fragments).LeadsAs model := by
  have table := get?_ofFragments names complete
  constructor
  · intro name decoder found
    rw [table] at found
    obtain ⟨declaration, declared, built⟩ := Option.bind_eq_some_iff.1 found
    rw [Model.successor?, declared]
    exact Site.reference?_of_forBody (toOption_eq_some.1 built)
  · intro name target next
    obtain ⟨declaration, declared, _⟩ := Option.bind_eq_some_iff.1 next
    exact exists_get?_of_complete names complete declared

end Generated

namespace Decoding

variable {table : DecoderTable} {model : Model}

/-- What was entered at an input, with what comes next, is a part of a chain. -/
def Activation.InChain (model : Model) (activation : Activation) : Prop :=
  (activation.decoder.reference?.toList ++ activation.entered).IsChain fun later earlier =>
    model.successor? earlier = some later

private theorem Activation.inChain_of_fresh {path : Path} {decoder : Decoder} {input : Json} :
    Activation.InChain model ⟨[], path, decoder, input⟩ := by
  simp only [InChain, List.append_nil]
  cases decoder.reference? <;> simp

private theorem Calls.keeps_inChain (leads : table.LeadsAs model) {caller callee : Activation}
    (called : Calls true table caller callee) (h : caller.InChain model) :
    callee.InChain model := by
  -- Only a reference and an optional layer stay at the input; all else starts with nothing entered.
  cases called with
  | @enter entered _ target _ _ decoder _ found =>
    have next := leads.next target decoder found
    unfold Activation.InChain
    cases goes : decoder.reference? with
    | none => exact h
    | some later => exact .cons_cons (next.symm.trans goes) h
  | present => exact h
  | _ => exact Activation.inChain_of_fresh

private theorem exists_chain_of_isChain {later earlier : String} {entered : List String}
    (h : (later :: entered).IsChain fun later earlier => model.successor? earlier = some later)
    (member : earlier ∈ entered) :
    ∃ steps, model.chain earlier (steps + 1) = some later := by
  induction entered generalizing later with
  | nil => cases member
  | cons first rest ih =>
    obtain ⟨step, tail⟩ := List.isChain_cons_cons.1 h
    rcases List.mem_cons.1 member with rfl | member
    · exact ⟨0, step⟩
    · obtain ⟨steps, reached⟩ := ih tail member
      refine ⟨steps + 1, ?_⟩
      rw [Model.chain, reached]
      exact step

variable [Pattern.Engine]

/-- A cycle is reported only for a name that its own chain leads back to. -/
theorem cycles_of_decode (leads : table.LeadsAs model) {name target : String} {input : Json}
    {path : Path} (h : decode table name input = .error (.nonProductiveCycle path target)) :
    model.Cycles target := by
  have start : (Activation.ofName name input).InChain model := Activation.inChain_of_fresh
  obtain ⟨activation, inChain, rejects⟩ :=
    exists_rejects_of_decode start (fun _ _ => Calls.keeps_inChain leads) h
  obtain ⟨_, known, style, refers⟩ := rejects.of_cycle
  unfold Activation.InChain at inChain
  rw [refers] at inChain
  obtain ⟨steps, reached⟩ := exists_chain_of_isChain inChain known
  exact ⟨steps + 1, target, reached, 0, by simp, rfl⟩

/-- Optional layers hand on the failure of what they refer to, unless the input is null. -/
theorem run_error_of_reference {entered : List String} {path : Path} {decoder : Decoder}
    {input : Json} {target : String} {error : DecodeError} (notNull : input ≠ .null)
    (goes : decoder.reference? = some target)
    (failed : call table entered path target input = .error error) :
    run table entered path decoder input = .error error := by
  fun_induction Decoder.reference? decoder with
  | case1 name style =>
    cases goes
    rw [run, failed]
  | case2 element ih =>
    rw [run]
    · rw [ih goes]
      rfl
    · exact notNull
  | case3 => cases goes

/-- Along a chain up to its first repetition every call fails by that repetition. -/
theorem call_error_of_firstRepeated (leads : table.LeadsAs model) {name target : String}
    {input : Json} (notNull : input ≠ .null) {later : Nat}
    (reached : model.chain name later = some target) (again : target ∈ model.trail name later)
    (distinct : ∀ i j, i < j → j < later → model.chain name i ≠ model.chain name j)
    {steps : Nat} (before : steps ≤ later) {current : String}
    (there : model.chain name steps = some current) (path : Path) :
    call table (model.trail name steps) path current input =
      .error (.nonProductiveCycle path target) := by
  -- Back from the repetition: a name that is new is entered, and hands on the failure of the next.
  induction before using Nat.decreasingInduction generalizing current with
  | self =>
    cases reached.symm.trans there
    rw [call, dif_pos again]
  | of_succ steps short ih =>
    have new : current ∉ model.trail name steps := by
      intro known
      obtain ⟨earlier, before, same⟩ := Model.mem_trail.1 known
      exact distinct earlier steps before short (same.trans there.symm)
    obtain ⟨next, reachedNext⟩ := Model.exists_of_chain short reached
    have failed := ih reachedNext
    rw [Model.chain, there, Option.bind_some] at reachedNext
    rw [Model.trail, there] at failed
    obtain ⟨decoder, found⟩ := leads.total current next reachedNext
    have goes := (leads.next current decoder found).trans reachedNext
    rw [call, dif_neg new]
    split
    · next absent => cases found.symm.trans absent
    · next other there =>
      cases found.symm.trans there
      exact run_error_of_reference notNull goes failed

theorem decode_of_firstRepeated (leads : table.LeadsAs model) {name target : String}
    (first : model.FirstRepeated name target) {input : Json} (notNull : input ≠ .null) :
    decode table name input = .error (.nonProductiveCycle {} target) := by
  obtain ⟨later, reached, again, distinct⟩ := first
  exact call_error_of_firstRepeated leads notNull reached (Model.mem_trail.2 again) distinct
    (Nat.zero_le later) rfl {}

end Decoding

section Compiled

variable [Pattern.Engine] {draft : Draft} {properties : Properties} {processors : List Processor}
  {compiled : Compiled} {options : Options}

/-- Which names refer to themselves without consuming input is decided by the model alone. If no
chain of aliases cycles, decoding never says so; a chain that cycles has a first repetition, and
decoding its name fails there by that repetition for every input but null. -/
theorem cycles_decided_by_chains (compiles : compile draft properties processors = .ok compiled)
    (complete : (generate compiled.defaults options compiled.model).isComplete) :
    ((∀ name, ¬compiled.model.Cycles name) → ∀ name input path target,
      Decoding.decode (.ofFragments (generate compiled.defaults options compiled.model).fragments)
        name input ≠ .error (.nonProductiveCycle path target)) ∧
    (∀ name, compiled.model.Cycles name → ∃ target, compiled.model.FirstRepeated name target) ∧
    ∀ name target, compiled.model.FirstRepeated name target → ∀ input, input ≠ .null →
      Decoding.decode (.ofFragments (generate compiled.defaults options compiled.model).fragments)
        name input = .error (.nonProductiveCycle {} target) := by
  have leads := leadsAs_of_complete (compiled_wellScoped compiles).names complete
  refine ⟨fun acyclic name input path target failed => ?_, fun name => ?_, ?_⟩
  · exact acyclic target (Decoding.cycles_of_decode leads failed)
  · exact Model.Cycles.exists_firstRepeated
  · intro name target first input notNull
    exact Decoding.decode_of_firstRepeated leads first notNull

end Compiled

def loopDraft : Draft where
  declarations := [
    { name := "Door", body := .alias (.named {} "Loop" ()), info := decodedInfo },
    { name := "Loop"
      body := .alias (.optional {} (.optional {} (.named {} "Back" ())))
      info := decodedInfo },
    { name := "Back", body := .alias (.named {} "Loop" ()), info := decodedInfo }]
  wellScoped := by decide

def loopModel : Model where
  declarations := loopDraft.declarations.map (classifyReferences loopDraft.declarations)

section Program

attribute [local instance] Pattern.regexEngine

theorem cycles_decided_by_chains_loop :
    ∃ compiled options,
      compile loopDraft ∅ [.coding] = .ok compiled ∧
      (generate compiled.defaults options compiled.model).isComplete ∧
      ∀ input, input ≠ .null →
        Decoding.decode (.ofFragments (generate compiled.defaults options compiled.model).fragments)
          "Door" input = .error (.nonProductiveCycle {} "Loop") := by
  have compiles : compile loopDraft ∅ [.coding] =
      .ok ⟨loopModel, Processor.mergedDefaults [.coding], [.coding]⟩ := rfl
  refine ⟨_, ⟨.standalone, "tag", []⟩, compiles, rfl, ?_⟩
  refine (cycles_decided_by_chains compiles rfl).2.2 "Door" "Loop" ?_
  have distinct : ∀ j < 3, ∀ i < j, loopModel.chain "Door" i ≠ loopModel.chain "Door" j := by decide
  exact ⟨3, rfl, ⟨1, by decide, rfl⟩, fun i j before short => distinct j short i before⟩

end Program

end WireModel
