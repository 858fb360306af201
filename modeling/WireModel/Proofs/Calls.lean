import WireModel.Proofs.Levels

/-! Which activations one level of decoding asks for. Everything a level does is determined by the
answers to its calls, up to stops that spread: this one fact gives the laws of the bounded
interpreters. -/
namespace WireModel.Decoding

/-- The activations that decoding an activation may ask for. The names entered are kept at the same
input and forgotten at a part of it. -/
inductive Calls (guarded : Bool) (table : DecoderTable) : Activation → Activation → Prop where
  | enter {entered path target style input decoder}
      (new : guarded → target ∉ entered) (found : table.get? target = some decoder) :
      Calls guarded table ⟨entered, path, .call target style, input⟩
        ⟨target :: entered, path, decoder, input⟩
  | present {entered path element input} (notNull : input ≠ .null) :
      Calls guarded table ⟨entered, path, .nullable element, input⟩
        ⟨entered, path, element, input⟩
  | listItem {entered path element items index item} (there : items[index]? = some item) :
      Calls guarded table ⟨entered, path, .list element, .array items⟩
        ⟨[], path.push (.index index), element, item⟩
  | setItem {entered path element items index item} (there : items[index]? = some item) :
      Calls guarded table ⟨entered, path, .set element, .array items⟩
        ⟨[], path.push (.index index), element, item⟩
  | entry {entered path keyDecoder value members raw item} (member : (raw, item) ∈ members) :
      Calls guarded table ⟨entered, path, .dict keyDecoder value, .object members⟩
        ⟨[], path.push (.entry raw), value, item⟩
  | objectField {entered path fields members field value} (member : field ∈ fields)
      (found : findEntry field.key members = some value) :
      Calls guarded table ⟨entered, path, .object fields, .object members⟩
        ⟨[], path.push (.field field.key), field.decoder, value⟩
  | caseField {entered path discriminant cases members case field value} (among : case ∈ cases)
      (tag : findEntry discriminant members = some (.string case.tag))
      (member : field ∈ case.fields) (found : findEntry field.key members = some value) :
      Calls guarded table ⟨entered, path, .tagged discriminant cases, .object members⟩
        ⟨[], path.push (.field field.key), field.decoder, value⟩

/-- The first attempt says what the second says, unless it stopped for a reason in `lost`. -/
def Follows {α : Type} (lost : Stop → Prop) (first second : Attempt α) : Prop :=
  first = second ∨ ∃ stop, lost stop ∧ first = .error stop

namespace Follows

variable {α β : Type} {lost : Stop → Prop}

theorem refl (attempt : Attempt α) : Follows lost attempt attempt := .inl rfl

theorem stopped {stop : Stop} (h : lost stop) (second : Attempt α) :
    Follows lost (.error stop) second := .inr ⟨stop, h, rfl⟩

theorem bind {first second : Attempt α} {rest rest' : α → Attempt β}
    (head : Follows lost first second) (tail : ∀ value, Follows lost (rest value) (rest' value)) :
    Follows lost (first >>= rest) (second >>= rest') := by
  obtain rfl | ⟨stop, h, rfl⟩ := head
  · cases first with
    | ok value => exact tail value
    | error stop => exact refl _
  · exact stopped h _

theorem map {first second : Attempt α} (head : Follows lost first second) (f : α → β) :
    Follows lost (do return f (← first)) (do return f (← second)) :=
  head.bind fun _ => refl _

theorem eq {first second : Attempt α} (h : Follows (fun _ => False) first second) :
    first = second := by
  obtain h | ⟨_, h, _⟩ := h
  · exact h
  · exact h.elim

end Follows

section Level

variable {table : DecoderTable} {lost : Stop → Prop} {next next' : Activation → Attempt Value}

private theorem levelElements_follows {path : Path} {element : Decoder} {index : Nat}
    {items : List Json} (h : ∀ offset item, items[offset]? = some item → Follows lost
      (next ⟨[], path.push (.index (index + offset)), element, item⟩)
      (next' ⟨[], path.push (.index (index + offset)), element, item⟩)) :
    Follows lost (levelElements next path element index items)
      (levelElements next' path element index items) := by
  induction items generalizing index with
  | nil => exact .refl _
  | cons item rest ih =>
    refine .bind (h 0 item rfl) fun first => (ih fun offset item there => ?_).map _
    have later := h (offset + 1) item there
    rwa [← Nat.add_assoc, Nat.add_right_comm] at later

theorem levelField_follows {path : Path} {members : List (String × Json)}
    {field : FieldDecoder Decoder}
    (h : ∀ value, findEntry field.key members = some value → Follows lost
      (next ⟨[], path.push (.field field.key), field.decoder, value⟩)
      (next' ⟨[], path.push (.field field.key), field.decoder, value⟩)) :
    Follows lost (levelField next path members field) (levelField next' path members field) := by
  unfold levelField
  split
  · exact .refl _
  · exact .refl _
  · next value found _ => exact h value found
  · exact .refl _
  · next value _ found _ => exact (h value found).map _

theorem levelFields_follows {path : Path} {members : List (String × Json)}
    {done : List (String × Value)} {fields : List (FieldDecoder Decoder)}
    (h : ∀ field ∈ fields, ∀ value, findEntry field.key members = some value → Follows lost
      (next ⟨[], path.push (.field field.key), field.decoder, value⟩)
      (next' ⟨[], path.push (.field field.key), field.decoder, value⟩)) :
    Follows lost (levelFields next path members done fields)
      (levelFields next' path members done fields) := by
  induction fields generalizing done with
  | nil => exact .refl _
  | cons first rest ih =>
    refine .bind (levelField_follows (h first (by simp))) fun value => ?_
    exact ih fun field member => h field (by simp [member])

private theorem levelCall_follows {guarded : Bool} {activation : Activation} {target : String}
    (h : ∀ decoder, (guarded → target ∉ activation.entered) → table.get? target = some decoder →
      Follows lost (next { activation with entered := target :: activation.entered, decoder })
        (next' { activation with entered := target :: activation.entered, decoder })) :
    Follows lost (levelCall table next guarded activation target)
      (levelCall table next' guarded activation target) := by
  unfold levelCall
  split
  · exact .refl _
  · next new =>
    cases found : table.get? target with
    | none => exact .refl _
    | some decoder => exact h decoder (fun on known => new ⟨on, known⟩) found

variable [Pattern.Engine]

private theorem levelEntries_follows {path : Path} {keyDecoder : KeyDecoder} {value : Decoder}
    {members : List (String × Json)}
    (h : ∀ raw item, (raw, item) ∈ members → Follows lost
      (next ⟨[], path.push (.entry raw), value, item⟩)
      (next' ⟨[], path.push (.entry raw), value, item⟩)) :
    Follows lost (levelEntries table next path keyDecoder value members)
      (levelEntries table next' path keyDecoder value members) := by
  induction members with
  | nil => exact .refl _
  | cons member rest ih =>
    obtain ⟨raw, item⟩ := member
    refine .bind (.refl _) fun first => .bind (h raw item (by simp)) fun second => ?_
    exact (ih fun raw item member => h raw item (by simp [member])).map _

/-- A level that asks for its calls only follows another if the answers to the calls do. -/
theorem level_follows {guarded : Bool} {activation : Activation}
    (h : ∀ callee, Calls guarded table activation callee →
      Follows lost (next callee) (next' callee)) :
    Follows lost (level table next guarded activation) (level table next' guarded activation) := by
  obtain ⟨entered, path, decoder, input⟩ := activation
  cases decoder with
  | unit | primitive | enumeration | refined => exact .refl _
  | call target style =>
    exact levelCall_follows fun decoder new found => h _ (.enter new found)
  | list element =>
    cases input with
    | array items =>
      refine (levelElements_follows fun index item there => ?_).map _
      rw [Nat.zero_add]
      exact h _ (.listItem there)
    | _ => exact .refl _
  | set element =>
    cases input with
    | array items =>
      refine (levelElements_follows fun index item there => ?_).map _
      rw [Nat.zero_add]
      exact h _ (.setItem there)
    | _ => exact .refl _
  | nullable element =>
    cases input with
    | null => exact .refl _
    | _ => exact (h _ (.present (by simp))).map _
  | dict keyDecoder value =>
    cases input with
    | object members =>
      exact (levelEntries_follows fun raw item member => h _ (.entry member)).map _
    | _ => exact .refl _
  | object fields =>
    cases input with
    | object members =>
      exact (levelFields_follows fun field member value found =>
        h _ (.objectField member found)).map _
    | _ => exact .refl _
  | tagged discriminant cases =>
    cases input with
    | object members =>
      simp only [level]
      split
      · next tag foundTag =>
        split
        · next case foundCase =>
          have among := List.mem_of_find?_eq_some foundCase
          have sameTag : case.tag = tag := by simpa using List.find?_some foundCase
          exact (levelFields_follows fun field member value found =>
            h _ (.caseField among (sameTag ▸ foundTag) member found)).map _
        · exact .refl _
      · exact .refl _
      · exact .refl _
    | _ => exact .refl _

theorem level_congr {guarded : Bool} {activation : Activation}
    (h : ∀ callee, Calls guarded table activation callee → next callee = next' callee) :
    level table next guarded activation = level table next' guarded activation :=
  (level_follows fun callee called => .inl (h callee called)).eq

end Level

section Bounded

variable [Pattern.Engine] (guarded : Bool) (table : DecoderTable)

/-- More depth changes nothing but the lack of depth. -/
theorem bounded_follows_succ (depth : Nat) (activation : Activation) :
    Follows (· = .exhausted) (bounded guarded table depth activation)
      (bounded guarded table (depth + 1) activation) := by
  induction depth generalizing activation with
  | zero => exact .inr ⟨.exhausted, rfl, rfl⟩
  | succ depth ih => exact level_follows fun callee _ => ih callee

theorem bounded_follows {depth depth' : Nat} (h : depth ≤ depth') (activation : Activation) :
    Follows (· = .exhausted) (bounded guarded table depth activation)
      (bounded guarded table depth' activation) := by
  induction h with
  | refl => exact .refl _
  | @step deeper _ ih =>
    obtain same | ⟨_, rfl, exhausted⟩ := ih
    · rw [same]
      exact bounded_follows_succ guarded table deeper activation
    · exact .inr ⟨_, rfl, exhausted⟩

variable {guarded table}

theorem bounded_mono {depth depth' : Nat} (h : depth ≤ depth') {activation : Activation}
    {attempt : Attempt Value} (ended : bounded guarded table depth activation = attempt)
    (notExhausted : attempt ≠ .error .exhausted) :
    bounded guarded table depth' activation = attempt := by
  obtain same | ⟨_, rfl, exhausted⟩ := bounded_follows guarded table h activation
  · rw [← same, ended]
  · exact absurd (ended.symm.trans exhausted) notExhausted

end Bounded

end WireModel.Decoding
