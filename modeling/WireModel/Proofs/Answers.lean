import WireModel.Proofs.Reading

/-! Where the answers of the interpreter come from. A value has a derivation, and a derivation gives
the value wherever its input stands. A rejection is that of one level, at an activation where every
invariant of calls holds. -/
namespace WireModel.Decoding

variable [Pattern.Engine] {table : DecoderTable}

/-- What calls keep holds where a rejection arises. -/
theorem exists_rejects {Inv : Activation → Prop}
    (keeps : ∀ caller callee, Calls true table caller callee → Inv caller → Inv callee)
    {activation : Activation} (start : Inv activation) {error : DecodeError}
    (h : outcome table activation = .error (.rejected error)) :
    ∃ reached, Inv reached ∧ Rejects true table reached error := by
  induction activation using (calls_wellFounded table).induction with
  | _ activation ih =>
    rw [outcome_eq_level] at h
    obtain ⟨callee, called, below⟩ | ⟨own, same, rejects⟩ := level_error h
    · exact ih callee called (keeps activation callee called start) below
    · cases same
      exact ⟨activation, start, rejects⟩

theorem exists_rejects_of_decode {Inv : Activation → Prop} {name : String} {input : Json}
    (start : Inv (.ofName name input))
    (keeps : ∀ caller callee, Calls true table caller callee → Inv caller → Inv callee)
    {error : DecodeError} (h : decode table name input = .error error) :
    ∃ reached, Inv reached ∧ Rejects true table reached error := by
  refine exists_rejects keeps start ?_
  rw [outcome_ofName, h, settled_error]

theorem level_reads_of_calls {guarded : Bool} {next : Activation → Attempt Value}
    {activation : Activation} {value : Value}
    (sound : ∀ callee value, Calls guarded table activation callee → next callee = .ok value →
      Reads table (.decoder callee.decoder) callee.input value)
    (h : level table next guarded activation = .ok value) :
    Reads table (.decoder activation.decoder) activation.input value := by
  classical
  -- Answers to anything but calls do not matter, so they may be taken away.
  let called : Activation → Attempt Value := fun callee =>
    if Calls guarded table activation callee then next callee else .error .exhausted
  have same : level table next guarded activation = level table called guarded activation :=
    level_congr fun callee asked => (if_pos asked).symm
  refine level_reads (fun callee value given => ?_) (same.symm.trans h)
  unfold called at given
  split at given
  · next asked => exact sound callee value asked given
  · cases given

theorem reads_of_outcome {activation : Activation} {value : Value}
    (h : outcome table activation = .ok value) :
    Reads table (.decoder activation.decoder) activation.input value := by
  induction activation using (calls_wellFounded table).induction generalizing value with
  | _ activation ih =>
    rw [outcome_eq_level] at h
    apply level_reads_of_calls _ h
    intro callee value asked given
    exact ih callee asked given

theorem reads_of_run {entered : List String} {path : Path} {decoder : Decoder} {input : Json}
    {value : Value} (h : run table entered path decoder input = .ok value) :
    Reads table (.decoder decoder) input value := by
  have answer : outcome table ⟨entered, path, decoder, input⟩ = .ok value := by
    rw [outcome, h, settled_ok]
  exact reads_of_outcome answer

private theorem bounded_follows_outcome (table : DecoderTable) (depth : Nat)
    (activation : Activation) :
    Follows (· = .exhausted) (bounded true table depth activation) (outcome table activation) := by
  induction depth generalizing activation with
  | zero => exact .inr ⟨.exhausted, rfl, rfl⟩
  | succ depth ih =>
    rw [outcome_eq_level]
    exact level_follows fun callee _ => ih callee

theorem run_of_reads {decoder : Decoder} {input : Json} {value : Value}
    (h : Reads table (.decoder decoder) input value) (path : Path) :
    run table [] path decoder input = .ok value := by
  obtain ⟨depth, gives⟩ := h.gives
  have unguarded := gives [] path
  have guarded := (unguarded_follows_guarded table depth ⟨[], path, decoder, input⟩
    (by simp)).ok unguarded
  have answer := (bounded_follows_outcome table depth _).ok guarded
  exact settled_injective answer

end WireModel.Decoding
