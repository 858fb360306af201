import WireModel.Proofs.Rejections
import WireModel.Proofs.Termination

/-! The guard against cycles is exact: it refuses an input precisely if decoding without it would
never end there. While a name is entered at an input, decoding that name there has not ended yet;
if it ends at all, then a decoding of least depth never meets the name again at that input. -/
namespace WireModel.Decoding

variable [Pattern.Engine] {table : DecoderTable}

private theorem level_guard {next : Activation → Attempt Value} {activation : Activation}
    (h : ∀ target style, activation.decoder ≠ .call target style) :
    level table next true activation = level table next false activation := by
  obtain ⟨entered, path, decoder, input⟩ := activation
  cases decoder with
  | call target style => exact absurd rfl (h target style)
  | _ => cases input <;> rfl

private theorem bounded_entered (depth : Nat) (entered entered' : List String) (path : Path)
    (decoder : Decoder) (input : Json) :
    bounded false table depth ⟨entered, path, decoder, input⟩ =
      bounded false table depth ⟨entered', path, decoder, input⟩ := by
  induction depth generalizing entered entered' decoder with
  | zero => rfl
  | succ depth ih =>
    rw [bounded, bounded]
    cases decoder with
    | call target style =>
      simp only [level, levelCall]
      cases table.get? target with
      | none => rfl
      | some decoder => exact ih (target :: entered) (target :: entered') decoder
    | nullable element =>
      cases input with
      | null => rfl
      | _ => simp only [level, ih entered entered' element]
    | _ => cases input <;> rfl

theorem bounded_style (guarded : Bool) (depth : Nat) (entered : List String) (path : Path)
    (target : String) (style style' : ReferenceStyle) (input : Json) :
    bounded guarded table depth ⟨entered, path, .call target style, input⟩ =
      bounded guarded table depth ⟨entered, path, .call target style', input⟩ := by
  cases depth <;> rfl

/-- A name is not decoded within a depth where an activation stands. -/
def Unfinished (table : DecoderTable) (depth : Nat) (activation : Activation) (name : String) :
    Prop :=
  bounded false table depth { activation with decoder := .call name .standalone } =
    .error .exhausted

theorem Unfinished.of_succ {depth : Nat} {activation : Activation} {name : String}
    (h : Unfinished table (depth + 1) activation name) :
    Unfinished table depth activation name := by
  by_contra ended
  exact ended ((bounded_mono (Nat.le_succ depth) rfl ended).symm.trans h)

private theorem Unfinished.move {depth : Nat} {activation other : Activation} {name : String}
    (h : Unfinished table depth activation name) (samePath : other.path = activation.path)
    (sameInput : other.input = activation.input) : Unfinished table depth other name := by
  unfold Unfinished at h ⊢
  rw [samePath, sameInput]
  exact (bounded_entered depth other.entered activation.entered _ _ _).trans h

theorem Calls.unfinished {guarded : Bool} {depth : Nat} {caller callee : Activation}
    (called : Calls guarded table caller callee)
    (h : ∀ target style, caller.decoder ≠ .call target style)
    (unfinished : ∀ name ∈ caller.entered, Unfinished table (depth + 1) caller name) :
    ∀ name ∈ callee.entered, Unfinished table depth callee name := by
  cases called with
  | enter => exact absurd rfl (h _ _)
  | present => exact fun name known => (unfinished name known).of_succ.move rfl rfl
  | _ => simp

/-- Where every name entered is unfinished, the guard takes nothing from a decoding that ends. -/
theorem unguarded_follows_guarded (table : DecoderTable) (depth : Nat) (activation : Activation)
    (unfinished : ∀ name ∈ activation.entered, Unfinished table depth activation name) :
    Follows (· = .exhausted) (bounded false table depth activation)
      (bounded true table depth activation) := by
  induction depth generalizing activation with
  | zero => exact .refl _
  | succ depth ih =>
    by_cases reference : ∃ target style, activation.decoder = .call target style
    case neg =>
      have plain : ∀ target style, activation.decoder ≠ .call target style := by
        simpa using reference
      rw [bounded, bounded, level_guard plain]
      exact level_follows fun callee called => ih callee (called.unfinished plain unfinished)
    obtain ⟨entered, path, decoder, input⟩ := activation
    obtain ⟨target, style, rfl⟩ := reference
    have exhausted_of : ∀ {depth}, Unfinished table depth
        ⟨entered, path, .call target style, input⟩ target →
        bounded false table depth ⟨entered, path, .call target style, input⟩ = .error .exhausted :=
      fun h => (bounded_style false _ entered path target style .standalone input).trans h
    by_cases known : target ∈ entered
    · exact .inr ⟨_, rfl, exhausted_of (unfinished target known)⟩
    by_cases least : Unfinished table depth ⟨entered, path, .call target style, input⟩ target
    · simp only [bounded, level, levelCall, known, and_false, if_false]
      cases table.get? target with
      | none => exact .refl _
      | some decoder =>
        refine ih _ fun name entered => ?_
        rcases List.mem_cons.1 entered with rfl | entered
        · exact least.move rfl rfl
        · exact (unfinished name entered).of_succ.move rfl rfl
    · -- The name ends within less depth already, and more depth changes nothing.
      have sooner := ih ⟨entered, path, .call target style, input⟩ fun name entered =>
        (unfinished name entered).of_succ
      have ended : bounded false table depth ⟨entered, path, .call target style, input⟩ ≠
          .error .exhausted := fun h =>
        least ((bounded_style false depth entered path target .standalone style input).trans h)
      obtain same | ⟨_, rfl, exhausted⟩ := sooner
      · left
        rw [bounded_mono (Nat.le_succ depth) rfl ended,
          bounded_mono (Nat.le_succ depth) same.symm ended]
      · exact absurd exhausted ended

/-- Up to cycles, the guard changes nothing. -/
theorem guarded_follows_unguarded (table : DecoderTable) (depth : Nat) (activation : Activation) :
    Follows (fun stop => stop = .exhausted ∨
        ∃ path target, stop = .rejected (.nonProductiveCycle path target))
      (bounded true table depth activation) (bounded false table depth activation) := by
  induction depth generalizing activation with
  | zero => exact .refl _
  | succ depth ih =>
    by_cases reference : ∃ target style, activation.decoder = .call target style
    case neg =>
      have plain : ∀ target style, activation.decoder ≠ .call target style := by
        simpa using reference
      rw [bounded, bounded, level_guard plain]
      exact level_follows fun callee _ => ih callee
    obtain ⟨entered, path, decoder, input⟩ := activation
    obtain ⟨target, style, rfl⟩ := reference
    simp only [bounded, level, levelCall]
    by_cases known : target ∈ entered
    · simp only [known, and_self, if_true]
      exact .stopped (.inr ⟨path, target, rfl⟩) _
    · simp only [known, and_false, if_false]
      cases table.get? target with
      | none => exact .refl _
      | some decoder => exact ih _

theorem decode_of_unguarded {depth : Nat} {name : String} {input : Json}
    (ended : decodeWithin false table depth name input ≠ .error .exhausted) :
    decodeWithin false table depth name input = settled (decode table name input) := by
  have deep := Nat.le_max_left depth (table.depthBound input)
  have unguarded := bounded_mono deep rfl ended
  obtain same | ⟨_, rfl, exhausted⟩ := unguarded_follows_guarded table
    (max depth (table.depthBound input)) (.ofName name input) (by simp [Activation.ofName])
  · rw [← decodeWithin_eq_decode table name input (Nat.le_max_right depth _)]
    exact unguarded.symm.trans same
  · exact absurd (unguarded.symm.trans exhausted) ended

theorem unguarded_of_decode {depth : Nat} {name : String} {input : Json}
    (enough : table.depthBound input ≤ depth)
    (noCycle : ∀ path target, decode table name input ≠ .error (.nonProductiveCycle path target)) :
    decodeWithin false table depth name input = settled (decode table name input) := by
  have guarded := decodeWithin_eq_decode table name input enough
  obtain same | ⟨stop, lost, stopped⟩ :=
    guarded_follows_unguarded table depth (.ofName name input)
  · exact same.symm.trans guarded
  · have answer := guarded.symm.trans stopped
    obtain rfl | ⟨path, target, rfl⟩ := lost
    · exact absurd answer (settled_ne_exhausted _)
    · exact absurd (settled_injective answer) (noCycle path target)

/-- The guard is exact. An answer other than a cycle is the answer of decoding without the guard,
for every depth from some one on; where the answer is a cycle, decoding without the guard ends at
no depth; and if it does end, its answer is that of the interpreter. -/
theorem cycle_guard_exact (table : DecoderTable) (name : String) (input : Json) :
    ((∀ path target, decode table name input ≠ .error (.nonProductiveCycle path target)) →
      ∃ enough, ∀ depth ≥ enough,
        decodeWithin false table depth name input = settled (decode table name input)) ∧
    (∀ path target, decode table name input = .error (.nonProductiveCycle path target) →
      ∀ depth, decodeWithin false table depth name input = .error .exhausted) ∧
    ∀ depth, decodeWithin false table depth name input ≠ .error .exhausted →
      decodeWithin false table depth name input = settled (decode table name input) := by
  refine ⟨fun noCycle => ⟨table.depthBound input, fun depth enough => ?_⟩, ?_, ?_⟩
  · exact unguarded_of_decode enough noCycle
  · intro path target cycle depth
    by_contra ended
    have answer := decode_of_unguarded ended
    rw [cycle, settled_error] at answer
    exact bounded_ne_cycle depth _ path target answer
  · exact fun depth ended => decode_of_unguarded ended

end WireModel.Decoding
