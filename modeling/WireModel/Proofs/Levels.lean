import WireModel.Decoding.Run
import Mathlib.Tactic.Common

/-! Decoding level by level. One level is what a decoder does at an input, with the decoding of
everything below left open. The interpreter is a fixed point of its level; a bound on the depth and
the absence of the check for cycles are then two arguments of one definition. -/
namespace WireModel.Decoding

/-- Why a bounded attempt gives no value: its bound was used up, or the input was rejected. -/
inductive Stop where
  | exhausted
  | rejected (error : DecodeError)

abbrev Attempt (α : Type) := Except Stop α

/-- An outcome, as an attempt that was not cut short. -/
def settled {α : Type} (outcome : Except DecodeError α) : Attempt α :=
  outcome.mapError .rejected

/-- A decoder at an input, with the names that were entered there. -/
structure Activation where
  entered : List String
  path : Path
  decoder : Decoder
  input : Json

def Activation.ofName (name : String) (input : Json) : Activation :=
  ⟨[], {}, .call name .standalone, input⟩

section Level

variable [Pattern.Engine] (table : DecoderTable) (next : Activation → Attempt Value)

def levelElements (path : Path) (element : Decoder) (index : Nat) :
    List Json → Attempt (List Value)
  | [] => .ok []
  | item :: rest => do
    let first ← next ⟨[], path.push (.index index), element, item⟩
    return first :: (← levelElements path element (index + 1) rest)

def levelEntries (path : Path) (keyDecoder : KeyDecoder) (value : Decoder) :
    List (String × Json) → Attempt (List (Value × Value))
  | [] => .ok []
  | (raw, item) :: rest => do
    let first ← settled (key table path raw keyDecoder)
    let second ← next ⟨[], path.push (.entry raw), value, item⟩
    return (first, second) :: (← levelEntries path keyDecoder value rest)

def levelField (path : Path) (members : List (String × Json)) (field : FieldDecoder Decoder) :
    Attempt Value :=
  match findEntry field.key members, field.presence with
  | none, .required => .error (.rejected (.missingField path field.key))
  | none, .optional => .ok .none
  | some value, .required => next ⟨[], path.push (.field field.key), field.decoder, value⟩
  | some .null, .optional => .ok .none
  | some value, .optional => do
    return .some (← next ⟨[], path.push (.field field.key), field.decoder, value⟩)

def levelFields (path : Path) (members : List (String × Json)) (done : List (String × Value)) :
    List (FieldDecoder Decoder) → Attempt (List (String × Value))
  | [] => .ok done
  | first :: rest => do
    let value ← levelField next path members first
    levelFields path members (insertEntry first.name value done) rest

/-- What a reference does: with the guard, a name that was entered at this input is refused. -/
def levelCall (guarded : Bool) (activation : Activation) (target : String) : Attempt Value :=
  if guarded ∧ target ∈ activation.entered then
    .error (.rejected (.nonProductiveCycle activation.path target))
  else
    match table.get? target with
    | none => .error (.rejected (.unknownDecoder target))
    | some decoder =>
      next { activation with entered := target :: activation.entered, decoder }

/-- One level of decoding; `next` decodes what is below. -/
def level (guarded : Bool) (activation : Activation) : Attempt Value :=
  let path := activation.path
  match activation.decoder, activation.input with
  | .unit, _ => .ok .unit
  | .primitive basic, input => settled (scalar path basic input)
  | .call target _, _ => levelCall table next guarded activation target
  | .list element, .array items => do return .list (← levelElements next path element 0 items)
  | .list _, input => .error (.rejected (expected path .array input))
  | .set element, .array items => do
    return .set (Value.distinct (← levelElements next path element 0 items))
  | .set _, input => .error (.rejected (expected path .array input))
  | .nullable _, .null => .ok .none
  | .nullable element, _ => do return .some (← next { activation with decoder := element })
  | .dict keyDecoder value, .object members => do
    return .dict (← levelEntries table next path keyDecoder value members)
  | .dict .., input => .error (.rejected (expected path .object input))
  | .object fieldDecoders, .object members => do
    return .record (← levelFields next path members [] fieldDecoders)
  | .object _, input => .error (.rejected (expected path .object input))
  | .tagged discriminant cases, .object members =>
    match findEntry discriminant members with
    | some (.string tag) =>
      match cases.find? (·.tag = tag) with
      | some case => do
        return .constructor case.constructor (← levelFields next path members [] case.fields)
      | none => .error (.rejected (.unknownTag path tag))
    | some other => .error (.rejected (expected (path.push (.field discriminant)) .tag other))
    | none => .error (.rejected (.missingField path discriminant))
  | .tagged .., input => .error (.rejected (expected path .object input))
  | .enumeration name labels, input => settled (enumeration path name labels input)
  | .refined name restriction, input => settled (refined path name restriction input)

end Level

section Settled

variable {α β : Type}

@[simp] theorem settled_ok (value : α) : settled (.ok value) = .ok value := rfl

@[simp] theorem settled_error (error : DecodeError) :
    settled (.error error : Except DecodeError α) = .error (.rejected error) := rfl

@[simp] theorem settled_pure (value : α) : settled (pure value) = pure value := rfl

@[simp]
theorem settled_bind (first : Except DecodeError α) (rest : α → Except DecodeError β) :
    settled (first >>= rest) = settled first >>= fun value => settled (rest value) := by
  cases first <;> rfl

theorem settled_injective : Function.Injective (settled : Except DecodeError α → Attempt α) := by
  intro left right h
  cases left <;> cases right <;> simp_all

theorem settled_ne_exhausted (outcome : Except DecodeError α) :
    settled outcome ≠ .error .exhausted := by
  cases outcome <;> simp

end Settled

variable [Pattern.Engine]

/-- Decoding with a bound on its depth, with or without the guard against cycles. -/
def bounded (guarded : Bool) (table : DecoderTable) : Nat → Activation → Attempt Value
  | 0, _ => .error .exhausted
  | depth + 1, activation => level table (bounded guarded table depth) guarded activation

def decodeWithin (guarded : Bool) (table : DecoderTable) (depth : Nat) (name : String)
    (input : Json) : Attempt Value :=
  bounded guarded table depth (.ofName name input)

def outcome (table : DecoderTable) (activation : Activation) : Attempt Value :=
  settled (run table activation.entered activation.path activation.decoder activation.input)

section FixedPoint

variable (table : DecoderTable)

private theorem settled_elements (path : Path) (element : Decoder) (index : Nat)
    (items : List Json) : settled (elements table path element index items) =
      levelElements (outcome table) path element index items := by
  induction items generalizing index with
  | nil => rw [elements, levelElements, settled_ok]
  | cons item rest ih =>
    rw [elements, levelElements, settled_bind]
    simp only [settled_bind, settled_pure, ih, outcome]

private theorem settled_entries (path : Path) (keyDecoder : KeyDecoder) (value : Decoder)
    (members : List (String × Json)) :
    settled (entries table path keyDecoder value members) =
      levelEntries table (outcome table) path keyDecoder value members := by
  induction members with
  | nil => rw [entries, levelEntries, settled_ok]
  | cons member rest ih =>
    obtain ⟨raw, item⟩ := member
    rw [entries, levelEntries, settled_bind]
    simp only [settled_bind, settled_pure, ih, outcome]

theorem settled_field (path : Path) (members : List (String × Json))
    (decoder : FieldDecoder Decoder) :
    settled (field table path members decoder) =
      levelField (outcome table) path members decoder := by
  obtain ⟨name, key, presence, decoder⟩ := decoder
  rw [field.eq_def]
  simp only [levelField]
  split
  · next missing => simp only [missing, settled_error]
  · next missing => simp only [missing, settled_ok]
  · next value found => simp only [found, outcome]
  · next found => simp only [found, settled_ok]
  · next value notNull found =>
    simp only [found, settled_bind, settled_pure]
    rfl

theorem settled_fields (path : Path) (members : List (String × Json))
    (done : List (String × Value)) (decoders : List (FieldDecoder Decoder)) :
    settled (fields table path members done decoders) =
      levelFields (outcome table) path members done decoders := by
  induction decoders generalizing done with
  | nil => rw [fields, levelFields, settled_ok]
  | cons first rest ih =>
    rw [fields, levelFields, settled_bind]
    simp only [settled_field, ih]

private theorem settled_call (entered : List String) (path : Path) (target : String)
    (style : ReferenceStyle) (input : Json) :
    settled (call table entered path target input) =
      levelCall table (outcome table) true ⟨entered, path, .call target style, input⟩ target := by
  rw [call, levelCall]
  by_cases known : target ∈ entered
  · simp [known]
  · simp only [known, dite_false, and_false, if_false]
    cases table.get? target <;> rfl

/-- The interpreter is a fixed point of its level. -/
theorem outcome_eq_level (activation : Activation) :
    outcome table activation = level table (outcome table) true activation := by
  obtain ⟨entered, path, decoder, input⟩ := activation
  simp only [outcome]
  rw [run.eq_def]
  cases decoder with
  | unit | primitive | enumeration | refined => rfl
  | call target style => exact settled_call table entered path target style input
  | list element =>
    cases input <;> simp only [settled_bind, settled_pure, settled_elements, settled_error, level]
  | set element =>
    cases input <;> simp only [settled_bind, settled_pure, settled_elements, settled_error, level]
  | nullable element =>
    cases input <;> simp only [settled_bind, settled_pure, settled_ok, level, outcome]
  | dict keyDecoder value =>
    cases input <;> simp only [settled_bind, settled_pure, settled_entries, settled_error, level]
  | object fieldDecoders =>
    cases input <;> simp only [settled_bind, settled_pure, settled_fields, settled_error, level]
  | tagged discriminant cases =>
    cases input with
    | object members =>
      simp only [level]
      cases findEntry discriminant members with
      | none => rfl
      | some found =>
        cases found with
        | string tag =>
          simp only
          cases cases.find? (·.tag = tag) with
          | none => rfl
          | some case => simp only [settled_bind, settled_pure, settled_fields]
        | _ => rfl
    | _ => rfl

theorem outcome_ofName (name : String) (input : Json) :
    outcome table (.ofName name input) = settled (decode table name input) := by
  rw [outcome, Activation.ofName, run, decode]

end FixedPoint

end WireModel.Decoding
