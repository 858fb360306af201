import WireModel.Proofs.Calls
import WireModel.Proofs.Outcomes

/-! Where a rejection comes from: a level rejects an input itself, or hands on the rejection of one
of its calls. -/
namespace WireModel.Decoding

inductive Rejects [Pattern.Engine] (guarded : Bool) (table : DecoderTable) :
    Activation → DecodeError → Prop where
  | cycle {entered path target style input} (on : guarded) (known : target ∈ entered) :
      Rejects guarded table ⟨entered, path, .call target style, input⟩
        (.nonProductiveCycle path target)
  | undeclared {entered path target style input} (absent : table.get? target = none) :
      Rejects guarded table ⟨entered, path, .call target style, input⟩ (.unknownDecoder target)
  | scalar {entered path basic input error} (wrong : scalar path basic input = .error error) :
      Rejects guarded table ⟨entered, path, .primitive basic, input⟩ error
  | label {entered path name labels input error}
      (wrong : enumeration path name labels input = .error error) :
      Rejects guarded table ⟨entered, path, .enumeration name labels, input⟩ error
  | refinement {entered path name restriction input error}
      (wrong : refined path name restriction input = .error error) :
      Rejects guarded table ⟨entered, path, .refined name restriction, input⟩ error
  | listInput {entered path element input} (wrong : ∀ items, input ≠ .array items) :
      Rejects guarded table ⟨entered, path, .list element, input⟩ (expected path .array input)
  | setInput {entered path element input} (wrong : ∀ items, input ≠ .array items) :
      Rejects guarded table ⟨entered, path, .set element, input⟩ (expected path .array input)
  | dictInput {entered path keyDecoder value input} (wrong : ∀ members, input ≠ .object members) :
      Rejects guarded table ⟨entered, path, .dict keyDecoder value, input⟩
        (expected path .object input)
  | dictKey {entered path keyDecoder value members raw item error} (member : (raw, item) ∈ members)
      (wrong : key table path raw keyDecoder = .error error) :
      Rejects guarded table ⟨entered, path, .dict keyDecoder value, .object members⟩ error
  | objectInput {entered path fields input} (wrong : ∀ members, input ≠ .object members) :
      Rejects guarded table ⟨entered, path, .object fields, input⟩ (expected path .object input)
  | objectField {entered path fields members field} (member : field ∈ fields)
      (needed : field.presence = .required) (absent : findEntry field.key members = none) :
      Rejects guarded table ⟨entered, path, .object fields, .object members⟩
        (.missingField path field.key)
  | taggedInput {entered path discriminant cases input}
      (wrong : ∀ members, input ≠ .object members) :
      Rejects guarded table ⟨entered, path, .tagged discriminant cases, input⟩
        (expected path .object input)
  | noTag {entered path discriminant cases members}
      (absent : findEntry discriminant members = none) :
      Rejects guarded table ⟨entered, path, .tagged discriminant cases, .object members⟩
        (.missingField path discriminant)
  | wrongTag {entered path discriminant cases members found}
      (there : findEntry discriminant members = some found) (wrong : ∀ tag, found ≠ .string tag) :
      Rejects guarded table ⟨entered, path, .tagged discriminant cases, .object members⟩
        (expected (path.push (.field discriminant)) .tag found)
  | otherTag {entered path discriminant cases members tag}
      (there : findEntry discriminant members = some (.string tag))
      (unknown : ∀ case ∈ cases, case.tag ≠ tag) :
      Rejects guarded table ⟨entered, path, .tagged discriminant cases, .object members⟩
        (.unknownTag path tag)
  | caseField {entered path discriminant cases members case field} (among : case ∈ cases)
      (tag : findEntry discriminant members = some (.string case.tag))
      (member : field ∈ case.fields)
      (needed : field.presence = .required) (absent : findEntry field.key members = none) :
      Rejects guarded table ⟨entered, path, .tagged discriminant cases, .object members⟩
        (.missingField path field.key)

variable {guarded : Bool} {table : DecoderTable} {next : Activation → Attempt Value} {stop : Stop}

theorem settled_eq_error {α : Type} {outcome : Except DecodeError α}
    (h : settled outcome = .error stop) :
    ∃ error, stop = .rejected error ∧ outcome = .error error := by
  cases outcome with
  | ok => simp at h
  | error error =>
    simp only [settled_error, Except.error.injEq] at h
    exact ⟨error, h.symm, rfl⟩

private theorem levelElements_error {path : Path} {element : Decoder} {index : Nat}
    {items : List Json} (h : levelElements next path element index items = .error stop) :
    ∃ offset item, items[offset]? = some item ∧
      next ⟨[], path.push (.index (index + offset)), element, item⟩ = .error stop := by
  induction items generalizing index with
  | nil => simp [levelElements] at h
  | cons item rest ih =>
    rw [levelElements, bind_eq_error] at h
    obtain h | ⟨first, _, h⟩ := h
    · exact ⟨0, item, rfl, h⟩
    · obtain ⟨offset, later, there, h⟩ := ih (return_eq_error.1 h)
      exact ⟨offset + 1, later, there, by rwa [← Nat.add_assoc, Nat.add_right_comm]⟩

private theorem levelField_error {path : Path} {members : List (String × Json)}
    {field : FieldDecoder Decoder} (h : levelField next path members field = .error stop) :
    (∃ value, findEntry field.key members = some value ∧
      next ⟨[], path.push (.field field.key), field.decoder, value⟩ = .error stop) ∨
    (field.presence = .required ∧ findEntry field.key members = none ∧
      stop = .rejected (.missingField path field.key)) := by
  unfold levelField at h
  split at h
  · next absent needed =>
    cases h
    exact .inr ⟨needed, absent, rfl⟩
  · cases h
  · next value found _ => exact .inl ⟨value, found, h⟩
  · cases h
  · next value _ found _ => exact .inl ⟨value, found, return_eq_error.1 h⟩

private theorem levelFields_error {path : Path} {members : List (String × Json)}
    {done : List (String × Value)} {fields : List (FieldDecoder Decoder)}
    (h : levelFields next path members done fields = .error stop) :
    ∃ field ∈ fields,
      (∃ value, findEntry field.key members = some value ∧
        next ⟨[], path.push (.field field.key), field.decoder, value⟩ = .error stop) ∨
      (field.presence = .required ∧ findEntry field.key members = none ∧
        stop = .rejected (.missingField path field.key)) := by
  induction fields generalizing done with
  | nil => simp [levelFields] at h
  | cons first rest ih =>
    rw [levelFields, bind_eq_error] at h
    obtain h | ⟨value, _, h⟩ := h
    · exact ⟨first, by simp, levelField_error h⟩
    · obtain ⟨field, member, h⟩ := ih h
      exact ⟨field, by simp [member], h⟩

theorem scalar_error {path : Path} {basic : Basic} {input : Json} {error : DecodeError}
    (h : scalar path basic input = .error error) :
    ∃ wanted, error = expected path wanted input := by
  unfold scalar at h
  split at h <;> cases h <;> exact ⟨_, rfl⟩

theorem enumeration_error {path : Path} {name : String} {labels : List String} {input : Json}
    {error : DecodeError} (h : enumeration path name labels input = .error error) :
    error = expected path .string input ∨
      ∃ label, input = .string label ∧ label ∉ labels ∧ error = .unknownLabel path name label := by
  unfold enumeration at h
  split at h
  · next label =>
    split at h
    · cases h
    · next unknown =>
      cases h
      exact .inr ⟨label, rfl, by simpa using unknown, rfl⟩
  · cases h
    exact .inl rfl

variable [Pattern.Engine]

private theorem levelEntries_error {path : Path} {keyDecoder : KeyDecoder} {value : Decoder}
    {members : List (String × Json)}
    (h : levelEntries table next path keyDecoder value members = .error stop) :
    ∃ raw item, (raw, item) ∈ members ∧
      (next ⟨[], path.push (.entry raw), value, item⟩ = .error stop ∨
        ∃ error, stop = .rejected error ∧ key table path raw keyDecoder = .error error) := by
  induction members with
  | nil => simp [levelEntries] at h
  | cons member rest ih =>
    obtain ⟨raw, item⟩ := member
    rw [levelEntries, bind_eq_error] at h
    obtain h | ⟨first, _, h⟩ := h
    · exact ⟨raw, item, by simp, .inr (settled_eq_error h)⟩
    rw [bind_eq_error] at h
    obtain h | ⟨second, _, h⟩ := h
    · exact ⟨raw, item, by simp, .inl h⟩
    · obtain ⟨raw, item, member, h⟩ := ih (return_eq_error.1 h)
      exact ⟨raw, item, by simp [member], h⟩

/-- An error of a level is its own or that of a call. -/
theorem level_error {activation : Activation}
    (h : level table next guarded activation = .error stop) :
    (∃ callee, Calls guarded table activation callee ∧ next callee = .error stop) ∨
      ∃ error, stop = .rejected error ∧ Rejects guarded table activation error := by
  obtain ⟨entered, path, decoder, input⟩ := activation
  cases decoder with
  | unit => cases h
  | primitive basic =>
    obtain ⟨error, rfl, wrong⟩ := settled_eq_error h
    exact .inr ⟨error, rfl, .scalar wrong⟩
  | enumeration name labels =>
    obtain ⟨error, rfl, wrong⟩ := settled_eq_error h
    exact .inr ⟨error, rfl, .label wrong⟩
  | refined name restriction =>
    obtain ⟨error, rfl, wrong⟩ := settled_eq_error h
    exact .inr ⟨error, rfl, .refinement wrong⟩
  | call target style =>
    simp only [level, levelCall] at h
    split at h
    · next refused =>
      cases h
      exact .inr ⟨_, rfl, .cycle refused.1 refused.2⟩
    · next new =>
      split at h
      · next absent =>
        cases h
        exact .inr ⟨_, rfl, .undeclared absent⟩
      · next decoder found => exact .inl ⟨_, .enter (fun on known => new ⟨on, known⟩) found, h⟩
  | list element =>
    cases input with
    | array items =>
      obtain ⟨index, item, there, h⟩ := levelElements_error (return_eq_error.1 h)
      rw [Nat.zero_add] at h
      exact .inl ⟨_, .listItem there, h⟩
    | _ =>
      cases h
      exact .inr ⟨_, rfl, .listInput (by simp)⟩
  | set element =>
    cases input with
    | array items =>
      obtain ⟨index, item, there, h⟩ := levelElements_error (return_eq_error.1 h)
      rw [Nat.zero_add] at h
      exact .inl ⟨_, .setItem there, h⟩
    | _ =>
      cases h
      exact .inr ⟨_, rfl, .setInput (by simp)⟩
  | nullable element =>
    cases input with
    | null => cases h
    | _ => exact .inl ⟨_, .present (by simp), return_eq_error.1 h⟩
  | dict keyDecoder value =>
    cases input with
    | object members =>
      obtain ⟨raw, item, member, h | ⟨error, rfl, wrong⟩⟩ :=
        levelEntries_error (return_eq_error.1 h)
      · exact .inl ⟨_, .entry member, h⟩
      · exact .inr ⟨error, rfl, .dictKey member wrong⟩
    | _ =>
      cases h
      exact .inr ⟨_, rfl, .dictInput (by simp)⟩
  | object fields =>
    cases input with
    | object members =>
      obtain ⟨field, member, ⟨value, found, h⟩ | ⟨needed, absent, rfl⟩⟩ :=
        levelFields_error (return_eq_error.1 h)
      · exact .inl ⟨_, .objectField member found, h⟩
      · exact .inr ⟨_, rfl, .objectField member needed absent⟩
    | _ =>
      cases h
      exact .inr ⟨_, rfl, .objectInput (by simp)⟩
  | tagged discriminant cases =>
    cases input with
    | object members =>
      simp only [level] at h
      split at h
      · next tag foundTag =>
        split at h
        · next case foundCase =>
          have among := List.mem_of_find?_eq_some foundCase
          have sameTag : case.tag = tag := by simpa using List.find?_some foundCase
          rw [← sameTag] at foundTag
          obtain ⟨field, member, ⟨value, found, h⟩ | ⟨needed, absent, rfl⟩⟩ :=
            levelFields_error (return_eq_error.1 h)
          · exact .inl ⟨_, .caseField among foundTag member found, h⟩
          · exact .inr ⟨_, rfl, .caseField among foundTag member needed absent⟩
        · next unknown =>
          cases h
          exact .inr ⟨_, rfl, .otherTag foundTag (by simpa using unknown)⟩
      · next found wrong there =>
        cases h
        exact .inr ⟨_, rfl, .wrongTag there (fun tag same => wrong tag same)⟩
      · next absent =>
        cases h
        exact .inr ⟨_, rfl, .noTag absent⟩
    | _ =>
      cases h
      exact .inr ⟨_, rfl, .taggedInput (by simp)⟩

theorem refined_error {path : Path} {name : String} {restriction : Restriction} {input : Json}
    {error : DecodeError} (h : refined path name restriction input = .error error) :
    (∃ wanted, error = expected path wanted input) ∨
      ∃ text violation, error = .refinement path name text violation := by
  unfold refined at h
  split at h
  · split at h <;> cases h
    exact .inr ⟨_, _, rfl⟩
  · split at h <;> cases h
    exact .inr ⟨_, _, rfl⟩
  · cases h
    exact .inl ⟨_, rfl⟩
  · cases h
    exact .inl ⟨_, rfl⟩

theorem key_error {path : Path} {raw : String} {keyDecoder : KeyDecoder} {error : DecodeError}
    (h : key table path raw keyDecoder = .error error) :
    (∃ target, table.get? target = none ∧ error = .unknownDecoder target) ∨
      ∃ fault, error = .invalidKey path raw fault := by
  cases keyDecoder with
  | text => cases h
  | enumeration target =>
    simp only [key] at h
    split at h
    · next absent =>
      cases h
      exact .inl ⟨target, absent, rfl⟩
    · split at h <;> cases h
      exact .inr ⟨_, rfl⟩
    · cases h
      exact .inr ⟨_, rfl⟩
  | refined target basic =>
    simp only [key] at h
    split at h
    · cases h
      exact .inr ⟨_, rfl⟩
    · split at h
      · next absent =>
        cases h
        exact .inl ⟨target, absent, rfl⟩
      · split at h <;> cases h
        exact .inr ⟨_, rfl⟩
      · cases h
        exact .inr ⟨_, rfl⟩

/-- Only the guard speaks of cycles, and of names that were entered. -/
theorem Rejects.of_cycle {activation : Activation} {path : Path} {target : String}
    (h : Rejects guarded table activation (.nonProductiveCycle path target)) :
    guarded ∧ target ∈ activation.entered ∧ ∃ style, activation.decoder = .call target style := by
  generalize same : DecodeError.nonProductiveCycle path target = error at h
  cases h with
  | @cycle _ _ _ style _ on known =>
    cases same
    exact ⟨on, known, style, rfl⟩
  | scalar wrong =>
    obtain ⟨wanted, rfl⟩ := scalar_error wrong
    cases same
  | label wrong =>
    obtain rfl | ⟨_, _, _, rfl⟩ := enumeration_error wrong <;> cases same
  | refinement wrong =>
    obtain ⟨_, rfl⟩ | ⟨_, _, rfl⟩ := refined_error wrong <;> cases same
  | dictKey _ wrong =>
    obtain ⟨_, _, rfl⟩ | ⟨_, rfl⟩ := key_error wrong <;> cases same
  | _ => cases same

theorem Rejects.ne_cycle {activation : Activation} {error : DecodeError}
    (h : Rejects false table activation error) (path : Path) (target : String) :
    error ≠ .nonProductiveCycle path target := by
  rintro rfl
  cases h.of_cycle.1

theorem bounded_ne_cycle (depth : Nat) (activation : Activation) (path : Path) (target : String) :
    bounded false table depth activation ≠
      .error (.rejected (.nonProductiveCycle path target)) := by
  induction depth generalizing activation with
  | zero => nofun
  | succ depth ih =>
    intro h
    obtain ⟨callee, _, h⟩ | ⟨error, same, rejects⟩ := level_error h
    · exact ih callee h
    · cases same
      exact rejects.ne_cycle path target rfl

end WireModel.Decoding
