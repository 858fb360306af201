import WireModel.Proofs.CycleGuard
import WireModel.Proofs.Scalars

/-! Decoders as relations between inputs and values. The rules say what a decoder reads without
paths, bounds or a guard against cycles; the interpreter gives a value exactly if there is a
derivation. -/
namespace WireModel

def recordOf (names : List String) (values : List Value) : List (String × Value) :=
  (OrderedMap.ofList (names.zip values)).entries

namespace Decoding

inductive KeyReads [Pattern.Engine] (table : DecoderTable) : KeyDecoder → String → Value → Prop
  | text {raw : String} : KeyReads table .text raw (.string raw)
  | label {target name : String} {labels : List String} {raw : String}
      (found : table.get? target = some (.enumeration name labels)) (known : raw ∈ labels) :
      KeyReads table (.enumeration target) raw (.label raw)
  | integer {target name : String} {r : IntRestriction} {value : Int64}
      (found : table.get? target = some (.refined name (.int r))) (admitted : r.Admits value) :
      KeyReads table (.refined target .int) (Text.integerText value) (.int value)
  | string {target name : String} {basic : Basic} {r : StringRestriction} {raw : String}
      (notInteger : basic ≠ .int) (found : table.get? target = some (.refined name (.string r)))
      (admitted : r.Admits raw) :
      KeyReads table (.refined target basic) raw (.string raw)

/-- What reads: a decoder, or one field or several from the object that holds them. -/
inductive Reader where
  | decoder (decoder : Decoder)
  | field (field : FieldDecoder Decoder)
  | fields (fields : List (FieldDecoder Decoder))

/-- What an input is read as. Lists of results have the length of what they are read from, and agree
with it place by place. -/
inductive Reads [Pattern.Engine] (table : DecoderTable) : Reader → Json → Value → Prop
  | unit {input} : Reads table (.decoder .unit) input .unit
  | primitive {basic input value} (scalar : basic.Writes input value) :
      Reads table (.decoder (.primitive basic)) input value
  | enumeration {name labels label} (known : label ∈ labels) :
      Reads table (.decoder (.enumeration name labels)) (.string label) (.label label)
  | refined {name restriction input value} (admitted : restriction.Writes input value) :
      Reads table (.decoder (.refined name restriction)) input value
  | call {target style decoder input value} (found : table.get? target = some decoder)
      (body : Reads table (.decoder decoder) input value) :
      Reads table (.decoder (.call target style)) input value
  | list {element items values} (length : items.length = values.length)
      (each : ∀ item value, (item, value) ∈ items.zip values →
        Reads table (.decoder element) item value) :
      Reads table (.decoder (.list element)) (.array items) (.list values)
  | set {element items values} (length : items.length = values.length)
      (each : ∀ item value, (item, value) ∈ items.zip values →
        Reads table (.decoder element) item value) :
      Reads table (.decoder (.set element)) (.array items) (.set (Value.distinct values))
  | null {element} : Reads table (.decoder (.nullable element)) .null .none
  | present {element input value} (notNull : input ≠ .null)
      (inside : Reads table (.decoder element) input value) :
      Reads table (.decoder (.nullable element)) input (.some value)
  | dict {keyDecoder valueDecoder members entries} (length : members.length = entries.length)
      (keys : ∀ raw item key value, ((raw, item), (key, value)) ∈ members.zip entries →
        KeyReads table keyDecoder raw key)
      (each : ∀ raw item key value, ((raw, item), (key, value)) ∈ members.zip entries →
        Reads table (.decoder valueDecoder) item value) :
      Reads table (.decoder (.dict keyDecoder valueDecoder)) (.object members) (.dict entries)
  | object {fields members entries}
      (inside : Reads table (.fields fields) (.object members) (.record entries)) :
      Reads table (.decoder (.object fields)) (.object members) (.record entries)
  | tagged {discriminant cases members tag case entries}
      (foundTag : findEntry discriminant members = some (.string tag))
      (foundCase : cases.find? (·.tag = tag) = some case)
      (inside : Reads table (.fields case.fields) (.object members) (.record entries)) :
      Reads table (.decoder (.tagged discriminant cases)) (.object members)
        (.constructor case.constructor entries)
  | fields {fields members values} (length : fields.length = values.length)
      (each : ∀ field value, (field, value) ∈ fields.zip values →
        Reads table (.field field) (.object members) value) :
      Reads table (.fields fields) (.object members)
        (.record (recordOf (fields.map (·.name)) values))
  | required {field members item value} (needed : field.presence = .required)
      (found : findEntry field.key members = some item)
      (inside : Reads table (.decoder field.decoder) item value) :
      Reads table (.field field) (.object members) value
  | omitted {field members} (optional : field.presence = .optional)
      (absent : findEntry field.key members = none ∨ findEntry field.key members = some .null) :
      Reads table (.field field) (.object members) .none
  | supplied {field members item value} (optional : field.presence = .optional)
      (found : findEntry field.key members = some item) (notNull : item ≠ .null)
      (inside : Reads table (.decoder field.decoder) item value) :
      Reads table (.field field) (.object members) (.some value)

variable {table : DecoderTable}

theorem keyScalar_eq_ok {basic : Basic} {raw : String} {value : Value} :
    keyScalar basic raw = .ok value ↔
      (basic = .int ∧ ∃ n, raw = Text.integerText n ∧ value = .int n) ∨
        (basic ≠ .int ∧ value = .string raw) := by
  cases basic with
  | int =>
    simp only [keyScalar, true_and, ne_eq, not_true, false_and, or_false]
    constructor
    · intro h
      split at h
      · cases h
      · next n _ =>
        split at h
        · next canonical =>
          cases h
          exact ⟨n, canonical.symm, rfl⟩
        · cases h
    · rintro ⟨n, rfl, rfl⟩
      simp
  | _ => simp [keyScalar, eq_comm]

theorem keyViolation?_eq_none [Pattern.Engine] {restriction : Restriction} {value : Value} :
    keyViolation? restriction value = none ↔
      (∃ r n, restriction = .int r ∧ value = .int n ∧ r.Admits n) ∨
        ∃ r text, restriction = .string r ∧ value = .string text ∧ r.Admits text := by
  unfold keyViolation?
  split
  · simp
  · simp
  · next notInt notString =>
    simp only [reduceCtorEq, false_iff, not_or]
    constructor
    · rintro ⟨r, n, rfl, rfl, _⟩
      exact notInt r n rfl rfl
    · rintro ⟨r, text, rfl, rfl, _⟩
      exact notString r text rfl rfl

theorem key_eq_ok [Pattern.Engine] {path : Path} {raw : String} {keyDecoder : KeyDecoder}
    {value : Value} :
    key table path raw keyDecoder = .ok value ↔ KeyReads table keyDecoder raw value := by
  constructor
  · intro h
    cases keyDecoder with
    | text =>
      cases h
      exact .text
    | enumeration target =>
      simp only [key] at h
      split at h
      · cases h
      · next name labels found =>
        split at h
        · next known =>
          cases h
          exact .label found (by simpa using known)
        · cases h
      · cases h
    | refined target basic =>
      simp only [key] at h
      split at h
      · cases h
      next scalar read =>
      split at h
      · cases h
      · next name restriction found =>
        split at h
        · next kept =>
          cases h
          obtain ⟨r, n, rfl, rfl, admitted⟩ | ⟨r, text, rfl, rfl, admitted⟩ :=
            keyViolation?_eq_none.1 kept
          · obtain ⟨rfl, m, rfl, same⟩ | ⟨_, other⟩ := keyScalar_eq_ok.1 read
            · cases same
              exact .integer found admitted
            · cases other
          · obtain ⟨_, _, _, other⟩ | ⟨notInteger, same⟩ := keyScalar_eq_ok.1 read
            · cases other
            · cases same
              exact .string notInteger found admitted
        · cases h
      · cases h
  · intro h
    cases h with
    | text => rfl
    | label found known => simp [key, found, known]
    | @integer target name r n found admitted =>
      have read : keyScalar .int (Text.integerText n) = .ok (.int n) :=
        keyScalar_eq_ok.2 (.inl ⟨rfl, n, rfl, rfl⟩)
      have kept := keyViolation?_eq_none.2 (.inl ⟨r, n, rfl, rfl, admitted⟩)
      simp only [key, read, found, kept]
    | @string target name basic r _ notInteger found admitted =>
      have read : keyScalar basic raw = .ok (.string raw) :=
        keyScalar_eq_ok.2 (.inr ⟨notInteger, rfl⟩)
      have kept := keyViolation?_eq_none.2 (.inr ⟨r, raw, rfl, rfl, admitted⟩)
      simp only [key, read, found, kept]

section Sound

variable [Pattern.Engine] {next : Activation → Attempt Value}
  (sound : ∀ activation value, next activation = .ok value →
    Reads table (.decoder activation.decoder) activation.input value)

include sound

private theorem levelElements_reads {path : Path} {element : Decoder} {index : Nat}
    {items : List Json}
    {values : List Value} (h : levelElements next path element index items = .ok values) :
    List.Forall₂ (Reads table (.decoder element)) items values := by
  induction items generalizing index values with
  | nil =>
    cases h
    exact .nil
  | cons item rest ih =>
    obtain ⟨first, head, h⟩ := bind_eq_ok.1 h
    obtain ⟨later, tail, rfl⟩ := return_eq_ok.1 h
    exact .cons (sound _ _ head) (ih tail)

private theorem levelEntries_reads {path : Path} {keyDecoder : KeyDecoder} {decoder : Decoder}
    {members : List (String × Json)} {entries : List (Value × Value)}
    (h : levelEntries table next path keyDecoder decoder members = .ok entries) :
    List.Forall₂ (fun member entry => KeyReads table keyDecoder member.1 entry.1 ∧
      Reads table (.decoder decoder) member.2 entry.2) members entries := by
  induction members generalizing entries with
  | nil =>
    cases h
    exact .nil
  | cons member rest ih =>
    obtain ⟨key, read, h⟩ := bind_eq_ok.1 h
    obtain ⟨value, head, h⟩ := bind_eq_ok.1 h
    obtain ⟨later, tail, rfl⟩ := return_eq_ok.1 h
    exact .cons ⟨key_eq_ok.1 (settled_injective read), sound _ _ head⟩ (ih tail)

private theorem levelField_reads {path : Path} {members : List (String × Json)}
    {field : FieldDecoder Decoder} {value : Value}
    (h : levelField next path members field = .ok value) :
    Reads table (.field field) (.object members) value := by
  unfold levelField at h
  split at h
  · cases h
  · next absent optional =>
    cases h
    exact .omitted optional (.inl absent)
  · next found needed => exact .required needed found (sound _ _ h)
  · next null optional =>
    cases h
    exact .omitted optional (.inr null)
  · next notNull found optional =>
    obtain ⟨inner, read, rfl⟩ := return_eq_ok.1 h
    exact .supplied optional found notNull (sound _ _ read)

private theorem levelFields_reads {path : Path} {members : List (String × Json)}
    (done : OrderedMap Value)
    {fields : List (FieldDecoder Decoder)} {entries : List (String × Value)}
    (h : levelFields next path members done.entries fields = .ok entries) :
    ∃ values,
      List.Forall₂ (fun field => Reads table (.field field) (.object members)) fields values ∧
      entries = (done.insertAll ((fields.map (·.name)).zip values)).entries := by
  induction fields generalizing done with
  | nil =>
    cases h
    exact ⟨[], .nil, rfl⟩
  | cons first rest ih =>
    obtain ⟨value, head, h⟩ := bind_eq_ok.1 h
    obtain ⟨values, tail, rfl⟩ := ih (done.insert first.name value) h
    exact ⟨value :: values, .cons (levelField_reads sound head) tail, rfl⟩

private theorem levelFields_reads_record {path : Path} {members : List (String × Json)}
    {fields : List (FieldDecoder Decoder)} {entries : List (String × Value)}
    (h : levelFields next path members [] fields = .ok entries) :
    Reads table (.fields fields) (.object members) (.record entries) := by
  obtain ⟨values, each, rfl⟩ := levelFields_reads sound ∅ h
  obtain ⟨length, each⟩ := List.forall₂_iff_zip.1 each
  exact .fields length fun _ _ => each

/-- A level whose calls read what they give reads what it gives. -/
theorem level_reads {guarded : Bool} {activation : Activation} {value : Value}
    (h : level table next guarded activation = .ok value) :
    Reads table (.decoder activation.decoder) activation.input value := by
  obtain ⟨entered, path, decoder, input⟩ := activation
  cases decoder with
  | unit =>
    cases h
    exact .unit
  | primitive basic => exact .primitive (scalar_eq_ok.1 (settled_injective h))
  | refined name restriction => exact .refined (refined_eq_ok.1 (settled_injective h))
  | enumeration name labels =>
    obtain ⟨label, known, rfl, rfl⟩ := enumeration_eq_ok.1 (settled_injective h)
    exact .enumeration known
  | call target style =>
    simp only [level, levelCall] at h
    split at h
    · cases h
    · split at h
      · cases h
      · next decoder found => exact .call found (sound _ _ h)
  | list element =>
    cases input with
    | array items =>
      obtain ⟨values, below, rfl⟩ := return_eq_ok.1 h
      obtain ⟨length, each⟩ := List.forall₂_iff_zip.1 (levelElements_reads sound below)
      exact .list length fun _ _ => each
    | _ => cases h
  | set element =>
    cases input with
    | array items =>
      obtain ⟨values, below, rfl⟩ := return_eq_ok.1 h
      obtain ⟨length, each⟩ := List.forall₂_iff_zip.1 (levelElements_reads sound below)
      exact .set length fun _ _ => each
    | _ => cases h
  | nullable element =>
    cases input with
    | null =>
      cases h
      exact .null
    | _ =>
      obtain ⟨inner, below, rfl⟩ := return_eq_ok.1 h
      exact .present (by simp) (sound _ _ below)
  | dict keyDecoder decoder =>
    cases input with
    | object members =>
      obtain ⟨entries, below, rfl⟩ := return_eq_ok.1 h
      obtain ⟨length, each⟩ := List.forall₂_iff_zip.1 (levelEntries_reads sound below)
      exact .dict length (fun _ _ _ _ pair => (each pair).1) fun _ _ _ _ pair => (each pair).2
    | _ => cases h
  | object fields =>
    cases input with
    | object members =>
      obtain ⟨entries, below, rfl⟩ := return_eq_ok.1 h
      exact .object (levelFields_reads_record sound below)
    | _ => cases h
  | tagged discriminant cases =>
    cases input with
    | object members =>
      simp only [level] at h
      split at h
      · next tag foundTag =>
        split at h
        · next case foundCase =>
          obtain ⟨entries, below, rfl⟩ := return_eq_ok.1 h
          exact .tagged foundTag foundCase (levelFields_reads_record sound below)
        · cases h
      · cases h
      · cases h
    | _ => cases h

end Sound

theorem bounded_reads [Pattern.Engine] {guarded : Bool} {depth : Nat} {activation : Activation}
    {value : Value} (h : bounded guarded table depth activation = .ok value) :
    Reads table (.decoder activation.decoder) activation.input value := by
  induction depth generalizing activation value with
  | zero => cases h
  | succ depth ih => exact level_reads (fun _ _ => ih) h

section Complete

variable {next : Activation → Attempt Value}

private theorem levelElements_of_each {path : Path} {element : Decoder} {index : Nat}
    {items : List Json} {values : List Value}
    (each : List.Forall₂ (fun item value => ∀ path, next ⟨[], path, element, item⟩ = .ok value)
      items values) :
    levelElements next path element index items = .ok values := by
  induction each generalizing index with
  | nil => rfl
  | cons head _ ih => exact bind_eq_ok.2 ⟨_, head _, return_eq_ok.2 ⟨_, ih, rfl⟩⟩

private theorem levelEntries_of_each [Pattern.Engine] {path : Path} {keyDecoder : KeyDecoder}
    {decoder : Decoder} {members : List (String × Json)} {entries : List (Value × Value)}
    (each : List.Forall₂ (fun member entry => KeyReads table keyDecoder member.1 entry.1 ∧
      ∀ path, next ⟨[], path, decoder, member.2⟩ = .ok entry.2) members entries) :
    levelEntries table next path keyDecoder decoder members = .ok entries := by
  induction each with
  | nil => rfl
  | cons head _ ih =>
    obtain ⟨key, value⟩ := head
    exact bind_eq_ok.2 ⟨_, congrArg settled (key_eq_ok.2 key),
      bind_eq_ok.2 ⟨_, value _, return_eq_ok.2 ⟨_, ih, rfl⟩⟩⟩

theorem levelFields_of_each {path : Path} {members : List (String × Json)}
    {fields : List (FieldDecoder Decoder)} {values : List Value}
    (each : List.Forall₂ (fun field value => levelField next path members field = .ok value)
      fields values) (done : OrderedMap Value) :
    levelFields next path members done.entries fields =
      .ok (done.insertAll ((fields.map (·.name)).zip values)).entries := by
  induction each generalizing done with
  | nil => rfl
  | @cons field value _ _ head _ ih =>
    exact bind_eq_ok.2 ⟨_, head, ih (done.insert field.name value)⟩

end Complete

/-- A value that a reader gives within a depth, wherever it stands. -/
def Reader.Gives [Pattern.Engine] (table : DecoderTable) (depth : Nat) (input : Json)
    (value : Value) : Reader → Prop
  | .decoder one =>
    ∀ entered path, bounded false table depth ⟨entered, path, one, input⟩ = .ok value
  | .field one =>
    ∀ path members, input = .object members →
      levelField (bounded false table depth) path members one = .ok value
  | .fields several =>
    ∀ path members entries, input = .object members → value = .record entries →
      levelFields (bounded false table depth) path members [] several = .ok entries

theorem Follows.ok {α : Type} {first second : Attempt α} {value : α}
    (h : Follows (· = .exhausted) first second) (given : first = .ok value) :
    second = .ok value := by
  obtain same | ⟨_, _, stopped⟩ := h
  · exact same.symm.trans given
  · cases given.symm.trans stopped

variable [Pattern.Engine]

theorem Reader.Gives.mono {depth depth' : Nat} {reader : Reader} {input : Json} {value : Value}
    (h : depth ≤ depth') (gives : reader.Gives table depth input value) :
    reader.Gives table depth' input value := by
  have follows := bounded_follows false table h
  cases reader with
  | decoder decoder => exact fun entered path => (follows _).ok (gives entered path)
  | field field =>
    exact fun path members same =>
      (levelField_follows fun _ _ => follows _).ok (gives path members same)
  | fields fields =>
    exact fun path members entries same record =>
      (levelFields_follows fun _ _ _ _ => follows _).ok (gives path members entries same record)

theorem Reader.Gives.common {α : Type} {items : List α} (reader : α → Reader) (input : α → Json)
    (value : α → Value)
    (each : ∀ item ∈ items, ∃ depth, (reader item).Gives table depth (input item) (value item)) :
    ∃ depth, ∀ item ∈ items, (reader item).Gives table depth (input item) (value item) := by
  induction items with
  | nil => exact ⟨0, by simp⟩
  | cons first rest ih =>
    obtain ⟨depth, head⟩ := each first List.mem_cons_self
    obtain ⟨depth', tail⟩ := ih fun item member => each item (List.mem_cons_of_mem _ member)
    refine ⟨max depth depth', fun item member => ?_⟩
    rcases List.mem_cons.1 member with rfl | member
    · exact head.mono (Nat.le_max_left depth depth')
    · exact (tail item member).mono (Nat.le_max_right depth depth')

theorem Reads.gives {reader : Reader} {input : Json} {value : Value}
    (h : Reads table reader input value) : ∃ depth, reader.Gives table depth input value := by
  -- Derivations below one rule may need different depths; more depth keeps what they give.
  induction h with
  | unit => exact ⟨1, fun _ _ => rfl⟩
  | primitive scalar => exact ⟨1, fun _ _ => congrArg settled (scalar_eq_ok.2 scalar)⟩
  | enumeration known =>
    exact ⟨1, fun _ _ => congrArg settled (enumeration_eq_ok.2 ⟨_, known, rfl, rfl⟩)⟩
  | refined admitted => exact ⟨1, fun _ _ => congrArg settled (refined_eq_ok.2 admitted)⟩
  | call found _ ih =>
    obtain ⟨depth, gives⟩ := ih
    refine ⟨depth + 1, fun entered path => ?_⟩
    simp only [bounded, level, levelCall, Bool.false_eq_true, false_and, if_false, found]
    exact gives _ path
  | @list element items values length _ ih | @set element items values length _ ih =>
    obtain ⟨depth, gives⟩ := Reader.Gives.common (fun _ => .decoder element) Prod.fst Prod.snd
      fun pair member => ih pair.1 pair.2 member
    refine ⟨depth + 1, fun entered path => return_eq_ok.2 ⟨values, ?_, rfl⟩⟩
    exact levelElements_of_each (List.forall₂_iff_zip.2 ⟨length, fun pair => gives _ pair []⟩)
  | null => exact ⟨1, fun _ _ => rfl⟩
  | @present element input value notNull _ ih =>
    obtain ⟨depth, gives⟩ := ih
    refine ⟨depth + 1, fun entered path => ?_⟩
    cases input with
    | null => exact absurd rfl notNull
    | _ => exact return_eq_ok.2 ⟨value, gives entered path, rfl⟩
  | @dict keyDecoder decoder members entries length keys _ ih =>
    obtain ⟨depth, gives⟩ := Reader.Gives.common (fun _ => .decoder decoder)
      (fun pair : (String × Json) × Value × Value => pair.1.2) (fun pair => pair.2.2)
      fun pair member => ih _ _ _ _ member
    refine ⟨depth + 1, fun entered path => return_eq_ok.2 ⟨entries, ?_, rfl⟩⟩
    exact levelEntries_of_each (List.forall₂_iff_zip.2
      ⟨length, fun pair => ⟨keys _ _ _ _ pair, gives _ pair []⟩⟩)
  | object _ ih =>
    obtain ⟨depth, gives⟩ := ih
    exact ⟨depth + 1, fun entered path => return_eq_ok.2 ⟨_, gives path _ _ rfl rfl, rfl⟩⟩
  | tagged foundTag foundCase _ ih =>
    obtain ⟨depth, gives⟩ := ih
    refine ⟨depth + 1, fun entered path => ?_⟩
    simp only [bounded, level, foundTag, foundCase]
    exact return_eq_ok.2 ⟨_, gives path _ _ rfl rfl, rfl⟩
  | @fields fields members values length _ ih =>
    obtain ⟨depth, gives⟩ := Reader.Gives.common (fun pair => .field pair.1)
      (fun _ => .object members) Prod.snd fun pair member => ih pair.1 pair.2 member
    refine ⟨depth, fun path _ entries same record => ?_⟩
    cases same
    cases record
    exact levelFields_of_each
      (List.forall₂_iff_zip.2 ⟨length, fun pair => gives _ pair path _ rfl⟩) ∅
  | required needed found _ ih =>
    obtain ⟨depth, gives⟩ := ih
    refine ⟨depth, fun path _ same => ?_⟩
    cases same
    simp only [levelField, found, needed]
    exact gives [] _
  | omitted optional absent =>
    refine ⟨0, fun path _ same => ?_⟩
    cases same
    obtain absent | null := absent
    · simp only [levelField, absent, optional]
    · simp only [levelField, null, optional]
  | @supplied field members item value optional found notNull _ ih =>
    obtain ⟨depth, gives⟩ := ih
    refine ⟨depth, fun path _ same => ?_⟩
    cases same
    simp only [levelField, found, optional]
    cases item with
    | null => exact absurd rfl notNull
    | _ => exact return_eq_ok.2 ⟨value, gives [] _, rfl⟩

/-- The interpreter gives a value exactly if the rules do. -/
theorem decode_eq_ok {name : String} {input : Json} {value : Value} :
    decode table name input = .ok value ↔
      Reads table (.decoder (.call name .standalone)) input value := by
  constructor
  · intro h
    have deep := decodeWithin_eq_decode table name input (Nat.le_refl (table.depthBound input))
    rw [h] at deep
    exact bounded_reads deep
  · intro h
    obtain ⟨depth, gives⟩ := h.gives
    have within : decodeWithin false table depth name input = .ok value := gives [] {}
    have ended : decodeWithin false table depth name input ≠ .error .exhausted := by simp [within]
    exact settled_injective ((decode_of_unguarded ended).symm.trans within)

end Decoding

end WireModel
