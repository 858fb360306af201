import WireModel.Pattern.Compiled
import WireModel.Proofs.Handing

/-! Members that are not read do not matter. Two runs are compared, on inputs that differ in one
member of one object; wherever decoding hands that object to a decoder, the decoder must not read
the member, or must take its absence for null. Then both runs give the same value or the same
error. -/
namespace WireModel

theorem bind_congr_of_ok {ε α β : Type} {first first' : Except ε α} {rest rest' : α → Except ε β}
    (head : first = first') (tail : ∀ value, first = .ok value → rest value = rest' value) :
    first >>= rest = first' >>= rest' := by
  subst head
  cases first with
  | ok value => exact tail value rfl
  | error error => rfl

namespace Decoding

variable [Pattern.Engine] {table : DecoderTable}

section Parts

variable {path : Path}

/-- An item matters only if all items before it are decoded. -/
theorem elements_congr {element : Decoder} {index : Nat} {before after : List Json}
    {item item' : Json}
    (same : ∀ values, elements table path element index before = .ok values →
      run table [] (path.push (.index (index + before.length))) element item' =
        run table [] (path.push (.index (index + before.length))) element item) :
    elements table path element index (before ++ item' :: after) =
      elements table path element index (before ++ item :: after) := by
  induction before generalizing index with
  | nil =>
    have here := same [] (by rw [elements])
    rw [List.length_nil, Nat.add_zero] at here
    rw [List.nil_append, List.nil_append, elements, elements, here]
  | cons first rest ih =>
    rw [List.cons_append, List.cons_append, elements, elements]
    refine bind_congr_of_ok rfl fun value accepted => ?_
    rw [ih fun values earlier => ?_]
    have later := same (value :: values) (by rw [elements, accepted, earlier]; rfl)
    rwa [List.length_cons, Nat.add_comm rest.length, ← Nat.add_assoc] at later

theorem entries_congr {keyDecoder : KeyDecoder} {value : Decoder}
    {before after : List (String × Json)} {raw : String} {item item' : Json}
    (same : ∀ values first, entries table path keyDecoder value before = .ok values →
      key table path raw keyDecoder = .ok first →
      run table [] (path.push (.entry raw)) value item' =
        run table [] (path.push (.entry raw)) value item) :
    entries table path keyDecoder value (before ++ (raw, item') :: after) =
      entries table path keyDecoder value (before ++ (raw, item) :: after) := by
  induction before with
  | nil =>
    rw [List.nil_append, List.nil_append, entries, entries]
    refine bind_congr_of_ok rfl fun first accepted => ?_
    rw [same [] first (by rw [entries]) accepted]
  | cons member rest ih =>
    obtain ⟨other, part⟩ := member
    rw [List.cons_append, List.cons_append, entries, entries]
    refine bind_congr_of_ok rfl fun first accepted => bind_congr_of_ok rfl fun second ran => ?_
    rw [ih fun values last earlier => same ((first, second) :: values) last ?_]
    rw [entries]
    exact bind_eq_ok.2 ⟨first, accepted,
      bind_eq_ok.2 ⟨second, ran, return_eq_ok.2 ⟨values, earlier, rfl⟩⟩⟩

theorem fields_congr {members members' : List (String × Json)} {done : List (String × Value)}
    {decoders : List (FieldDecoder Decoder)}
    (same : ∀ before one after values, decoders = before ++ one :: after →
      fields table path members done before = .ok values →
      field table path members' one = field table path members one) :
    fields table path members' done decoders = fields table path members done decoders := by
  induction decoders generalizing done with
  | nil => rw [fields, fields]
  | cons first rest ih =>
    have head := same [] first rest done rfl (by rw [fields])
    rw [fields, fields]
    refine bind_congr_of_ok head fun value accepted => ?_
    refine ih fun before one after values split earlier => ?_
    rw [head] at accepted
    refine same (first :: before) one after values (by rw [split, List.cons_append]) ?_
    rw [fields, accepted]
    exact earlier

section Field

variable {members members' : List (String × Json)} {one : FieldDecoder Decoder}

theorem field_of_same (same : findEntry one.key members' = findEntry one.key members) :
    field table path members' one = field table path members one := by
  apply settled_injective
  rw [settled_field, settled_field, levelField, levelField, same]

theorem field_of_missing (optional : one.presence = .optional)
    (missing : findEntry one.key members = none ∨ findEntry one.key members = some .null) :
    field table path members one = .ok .none := by
  apply settled_injective
  rw [settled_field, levelField, optional]
  rcases missing with absent | null
  · rw [absent]
    rfl
  · rw [null]
    rfl

theorem field_of_run {value value' : Json} (found : findEntry one.key members = some value)
    (found' : findEntry one.key members' = some value') (notNull : value ≠ .null)
    (notNull' : value' ≠ .null)
    (same : run table [] (path.push (.field one.key)) one.decoder value' =
      run table [] (path.push (.field one.key)) one.decoder value) :
    field table path members' one = field table path members one := by
  apply settled_injective
  rw [settled_field, settled_field, levelField, levelField, found, found']
  cases one.presence with
  | required => exact congrArg settled same
  | optional =>
    have outcomes : outcome table ⟨[], path.push (.field one.key), one.decoder, value'⟩ =
        outcome table ⟨[], path.push (.field one.key), one.decoder, value⟩ := congrArg settled same
    simp only [outcomes]

end Field

end Parts

end Decoding

/-- One object has a member that the other lacks, and the rest is the same. -/
inductive MemberEdit (key : String) (value : Json) :
    List (String × Json) → List (String × Json) → Prop
  | add {members} (new : findEntry key members = none) :
      MemberEdit key value members (insertEntry key value members)
  | remove {members} (there : findEntry key members = some value) :
      MemberEdit key value members (members.filter (·.1 ≠ key))

private theorem findEntry_filter_ne {α : Type} (key other : String) (entries : List (String × α)) :
    findEntry other (entries.filter (·.1 ≠ key)) =
      if other = key then none else findEntry other entries := by
  induction entries with
  | nil => simp [findEntry]
  | cons head rest ih =>
    obtain ⟨first, value⟩ := head
    rw [List.filter_cons]
    by_cases removed : first = key
    · subst removed
      simp only [ne_eq, not_true_eq_false, decide_false, Bool.false_eq_true, if_false]
      rw [ih, findEntry]
      split <;> simp_all
    · simp only [ne_eq, removed, not_false_eq_true, decide_true, if_true, findEntry, ih]
      split <;> simp_all

namespace MemberEdit

variable {key other : String} {value : Json} {members members' : List (String × Json)}

private theorem findEntry_of_ne (edit : MemberEdit key value members members')
    (differs : other ≠ key) : findEntry other members' = findEntry other members := by
  cases edit with
  | add => rw [findEntry_insertEntry, if_neg differs]
  | remove => rw [findEntry_filter_ne, if_neg differs]

theorem missing_of_null (edit : MemberEdit key .null members members') :
    (findEntry key members = none ∨ findEntry key members = some .null) ∧
      (findEntry key members' = none ∨ findEntry key members' = some .null) := by
  cases edit with
  | add new =>
    refine ⟨.inl new, .inr ?_⟩
    rw [findEntry_insertEntry, if_pos rfl]
  | remove there =>
    refine ⟨.inr there, .inl ?_⟩
    rw [findEntry_filter_ne, if_pos rfl]

end MemberEdit

/-- No field reads the member of a key, or the member is null and each field that reads it may be
without one. -/
def Overlooked (key : String) (value : Json) (fields : List (FieldDecoder Decoder)) : Prop :=
  (∀ field ∈ fields, field.key ≠ key) ∨
    value = .null ∧ ∀ field ∈ fields, field.key = key → field.presence = .optional

/-- A decoder that is handed the object does not care for one of its members. Decoders that do not
look inside an object care for none, maps for all. -/
def Decoder.Overlooks (key : String) (value : Json) (members : List (String × Json)) :
    Decoder → Prop
  | .object fields => Overlooked key value fields
  | .tagged discriminant cases =>
    key ≠ discriminant ∧ ∀ tag case, findEntry discriminant members = some (.string tag) →
      cases.find? (·.tag = tag) = some case → Overlooked key value case.fields
  | .dict _ _ => False
  | _ => True

theorem Decoder.overlooks_of_not_takes {decoder : Decoder} (passes : ¬decoder.TakesObject)
    {key : String} {value : Json} {members : List (String × Json)} :
    decoder.Overlooks key value members := by
  cases decoder with
  | dict | object | tagged => exact absurd trivial passes
  | _ => trivial

namespace Json

/-- Both are arrays, or both are objects. -/
inductive SameShell : Json → Json → Prop
  | arrays (items items') : SameShell (.array items) (.array items')
  | objects (members members') : SameShell (.object members) (.object members')

namespace SameShell

variable {input input' : Json}

theorem symm (shell : input.SameShell input') : input'.SameShell input := by
  cases shell with
  | arrays => exact .arrays _ _
  | objects => exact .objects _ _

theorem kind_eq (shell : input.SameShell input') : input'.kind = input.kind := by
  cases shell <;> rfl

theorem ne_null (shell : input.SameShell input') : input ≠ .null := by
  rintro rfl
  cases shell

private theorem ne_string (shell : input.SameShell input') (text : String) :
    input ≠ .string text := by
  rintro rfl
  cases shell

end SameShell

theorem Context.sameShell_fill (context : Context) (members members' : List (String × Json)) :
    (context.fill (.object members)).SameShell (context.fill (.object members')) := by
  obtain ⟨_ | ⟨⟨_, _⟩ | ⟨_, _, _⟩, _⟩⟩ := context
  · exact .objects _ _
  · exact .arrays _ _
  · exact .objects _ _

end Json

/-- A decoder looks at more of an input than its kind. -/
def Decoder.LooksInto (kind : Json.Kind) : Decoder → Prop
  | .call _ _ | .nullable _ => True
  | .list _ | .set _ => kind = .array
  | .dict _ _ | .object _ | .tagged _ _ => kind = .object
  | _ => False

namespace Decoding

variable {table : DecoderTable} {path : Path} {entered : List String} {decoder : Decoder}

theorem run_nullable [Pattern.Engine] {element : Decoder} {input : Json} (notNull : input ≠ .null) :
    run table entered path (.nullable element) input = do
      return .some (← run table entered path element input) := by
  cases input with
  | null => exact absurd rfl notNull
  | _ => rw [run]; simp

theorem run_of_no_text [Pattern.Engine] {discriminant : String} {cases : List (Case Decoder)}
    {members : List (String × Json)} {tag : Json}
    (found : findEntry discriminant members = some tag) (noText : ∀ text, tag ≠ .string text) :
    run table entered path (.tagged discriminant cases) (.object members) =
      .error (expected (path.push (.field discriminant)) .tag tag) := by
  rw [run]
  simp only [found]

/-- Where only the kind of an input is looked at, arrays give the same, and objects do. -/
theorem run_of_unseen [Pattern.Engine] {input input' : Json} (shell : input.SameShell input')
    (unseen : ¬decoder.LooksInto input.kind) :
    run table entered path decoder input' = run table entered path decoder input := by
  cases shell
  all_goals
    cases decoder with
    | call | nullable => exact absurd trivial unseen
    | primitive basic =>
      rw [run, run]
      cases basic <;> rfl
    | refined name restriction =>
      rw [run, run]
      cases restriction <;> rfl
    | list | set | dict | object | tagged =>
      first
        | exact absurd rfl unseen
        | simp only [run, expected, Json.kind]
    | _ => simp only [run, expected, enumeration, Json.kind]

section Edited

variable [Pattern.Engine] {key : String} {value : Json} {members members' : List (String × Json)}
  (edit : MemberEdit key value members members')
include edit

private theorem fields_of_overlooked {decoders : List (FieldDecoder Decoder)}
    (overlooked : Overlooked key value decoders) :
    fields table path members' [] decoders = fields table path members [] decoders := by
  refine fields_congr fun before one after values split _ => ?_
  have among : one ∈ decoders := by simp [split]
  by_cases reads : one.key = key
  · obtain unread | ⟨rfl, optional⟩ := overlooked
    · exact absurd reads (unread one among)
    · obtain ⟨missing, missing'⟩ := edit.missing_of_null
      rw [← reads] at missing missing'
      rw [field_of_missing (optional one among reads) missing,
        field_of_missing (optional one among reads) missing']
  · exact field_of_same (edit.findEntry_of_ne reads)

theorem run_of_overlooks (overlooks : decoder.Overlooks key value members)
    (notCall : ∀ target style, decoder ≠ .call target style)
    (notNullable : ∀ element, decoder ≠ .nullable element) :
    run table entered path decoder (.object members') =
      run table entered path decoder (.object members) := by
  cases decoder with
  | call target style => exact absurd rfl (notCall target style)
  | nullable element => exact absurd rfl (notNullable element)
  | dict => exact overlooks.elim
  | object decoders => rw [run, run, fields_of_overlooked edit overlooks]
  | tagged discriminant cases =>
    obtain ⟨notTag, selected⟩ := overlooks
    rw [run, run]
    simp only [edit.findEntry_of_ne (Ne.symm notTag)]
    split
    · next tag foundTag =>
      split
      · next case foundCase =>
        rw [fields_of_overlooked edit (selected tag case foundTag foundCase)]
      · rfl
    · rfl
    · rfl
  | _ => exact run_of_unseen (.objects members members') (by simp [Decoder.LooksInto, Json.kind])

end Edited

section Inside

/-- Where the value of a member changes, a look-up gives the same or finds that member. -/
theorem findEntry_member (before after : List (String × Json)) (name : String) (part part' : Json)
    (key : String) :
    findEntry key (before ++ (name, part') :: after) =
        findEntry key (before ++ (name, part) :: after) ∨
      key = name ∧ findEntry key (before ++ (name, part) :: after) = some part ∧
        findEntry key (before ++ (name, part') :: after) = some part' := by
  induction before with
  | nil =>
    by_cases same : key = name
    · exact .inr ⟨same, by simp [findEntry, same], by simp [findEntry, same]⟩
    · exact .inl (by simp [findEntry, same])
  | cons head rest ih =>
    obtain ⟨other, value⟩ := head
    simp only [List.cons_append, findEntry]
    split
    · exact .inl rfl
    · exact ih

variable {before after : List (String × Json)} {name : String} {part part' : Json}

variable [Pattern.Engine]

private theorem fields_of_member {decoders : List (FieldDecoder Decoder)} (notNull : part ≠ .null)
    (notNull' : part' ≠ .null)
    (same : ∀ front one back values, decoders = front ++ one :: back →
      fields table path (before ++ (name, part) :: after) [] front = .ok values →
      findEntry one.key (before ++ (name, part) :: after) = some part → one.key = name →
      run table [] (path.push (.field one.key)) one.decoder part' =
        run table [] (path.push (.field one.key)) one.decoder part) :
    fields table path (before ++ (name, part') :: after) [] decoders =
      fields table path (before ++ (name, part) :: after) [] decoders := by
  refine fields_congr fun front one back values split earlier => ?_
  obtain unchanged | ⟨reads, found, found'⟩ :=
    findEntry_member before after name part part' one.key
  · exact field_of_same unchanged
  · exact field_of_run found found' notNull notNull'
      (same front one back values split earlier found reads)

end Inside

end Decoding

namespace Decoding

section Run

variable [Pattern.Engine] {table : DecoderTable} {key : String} {value : Json}
  {members members' : List (String × Json)} {entered : List String} {path : Path}
  {decoder : Decoder}

/-- What a decoder asks for gives the same after the edit. -/
def AskedAlike (table : DecoderTable) (members members' : List (String × Json))
    (context : Json.Context) (caller : Activation) : Prop :=
  ∀ (inner : Json.Context) (callee : Activation), Asks table caller callee →
    callee.input = inner.fill (.object members) →
    callee.path.location ++ inner.location = caller.path.location ++ context.location →
    run table callee.entered callee.path callee.decoder (inner.fill (.object members')) =
      run table callee.entered callee.path callee.decoder callee.input

private theorem run_of_asked_item {before after : List Json} {rest : List Json.Frame}
    (alike : AskedAlike table members members' ⟨.item before after :: rest⟩
      ⟨entered, path, decoder, Json.Context.fill ⟨.item before after :: rest⟩ (.object members)⟩)
    (notCall : ∀ target style, decoder ≠ .call target style)
    (notNullable : ∀ element, decoder ≠ .nullable element) :
    run table entered path decoder
        (Json.Context.fill ⟨.item before after :: rest⟩ (.object members')) =
      run table entered path decoder
        (Json.Context.fill ⟨.item before after :: rest⟩ (.object members)) := by
  have there : (path.push (.index before.length)).location ++ Json.Context.location ⟨rest⟩ =
      path.location ++ Json.Context.location ⟨.item before after :: rest⟩ := by
    simp [Json.Context.location, Json.Frame.locator, Step.locator]
  simp only [Json.Context.fill_cons, Json.Frame.fill] at alike ⊢
  cases decoder with
  | call target style => exact absurd rfl (notCall target style)
  | nullable element => exact absurd rfl (notNullable element)
  | list element =>
    rw [run, run, elements_congr fun values earlier => ?_]
    rw [Nat.zero_add]
    exact alike ⟨rest⟩ _ (.listItem earlier) rfl there
  | set element =>
    rw [run, run, elements_congr fun values earlier => ?_]
    rw [Nat.zero_add]
    exact alike ⟨rest⟩ _ (.setItem earlier) rfl there
  | _ => exact run_of_unseen (.arrays _ _) (by simp [Decoder.LooksInto, Json.kind])

private theorem run_of_asked_member {before after : List (String × Json)} {name : String}
    {rest : List Json.Frame}
    (alike : AskedAlike table members members' ⟨.member before name after :: rest⟩
      ⟨entered, path, decoder,
        Json.Context.fill ⟨.member before name after :: rest⟩ (.object members)⟩)
    (notCall : ∀ target style, decoder ≠ .call target style)
    (notNullable : ∀ element, decoder ≠ .nullable element) :
    run table entered path decoder
        (Json.Context.fill ⟨.member before name after :: rest⟩ (.object members')) =
      run table entered path decoder
        (Json.Context.fill ⟨.member before name after :: rest⟩ (.object members)) := by
  have there : ∀ step : Step, step.locator = .member name →
      (path.push step).location ++ Json.Context.location ⟨rest⟩ =
        path.location ++ Json.Context.location ⟨.member before name after :: rest⟩ := by
    intro step reads
    simp [Json.Context.location, Json.Frame.locator, reads]
  have shell := Json.Context.sameShell_fill ⟨rest⟩ members members'
  have notNull := shell.ne_null
  have notNull' := shell.symm.ne_null
  simp only [Json.Context.fill_cons, Json.Frame.fill] at alike ⊢
  cases decoder with
  | call target style => exact absurd rfl (notCall target style)
  | nullable element => exact absurd rfl (notNullable element)
  | dict keyDecoder decoder =>
    rw [run, run, entries_congr fun values first earlier accepted => ?_]
    exact alike ⟨rest⟩ _ (.entry earlier accepted) rfl (there _ rfl)
  | object decoders =>
    rw [run, run, fields_of_member notNull notNull'
      fun front one back values split earlier found reads => ?_]
    subst split
    exact alike ⟨rest⟩ _ (.objectField earlier found fun _ => notNull) rfl
      (there _ (congrArg _ reads))
  | tagged discriminant cases =>
    obtain unchanged | ⟨_, found, found'⟩ := findEntry_member before after name
      (Json.Context.fill ⟨rest⟩ (.object members)) (Json.Context.fill ⟨rest⟩ (.object members'))
      discriminant
    · rw [run, run]
      simp only [unchanged]
      split
      · next tag foundTag =>
        split
        · next case foundCase =>
          rw [fields_of_member notNull notNull'
            fun front one back values split earlier found reads => ?_]
          exact alike ⟨rest⟩ _ (.caseField foundTag foundCase split earlier found fun _ => notNull)
            rfl (there _ (congrArg _ reads))
        · rfl
      · rfl
      · rfl
    · -- The object stands where a tag should be, and is no text before or after the edit.
      rw [run_of_no_text found shell.ne_string, run_of_no_text found' shell.symm.ne_string,
        expected, expected, shell.kind_eq]
  | _ => exact run_of_unseen (.objects _ _) (by simp [Decoder.LooksInto, Json.kind])

/-- One step: where what is asked for gives the same, and the decoder that is handed the edited
object overlooks the edit, the decoder gives the same. -/
theorem run_of_asked (edit : MemberEdit key value members members') (context : Json.Context)
    (alike : AskedAlike table members members' context
      ⟨entered, path, decoder, context.fill (.object members)⟩)
    (overlooks : context.location = [] → decoder.Overlooks key value members) :
    run table entered path decoder (context.fill (.object members')) =
      run table entered path decoder (context.fill (.object members)) := by
  by_cases reference : ∃ target style, decoder = .call target style
  · obtain ⟨target, style, rfl⟩ := reference
    rw [run, run, call, call]
    by_cases known : target ∈ entered
    · simp only [known, dite_true]
    · simp only [known, dite_false]
      cases found : table.get? target with
      | none => rfl
      | some body => exact alike context _ (.enter known found) rfl rfl
  by_cases layer : ∃ element, decoder = .nullable element
  · obtain ⟨element, rfl⟩ := layer
    have shell := context.sameShell_fill members members'
    rw [run_nullable shell.symm.ne_null, run_nullable shell.ne_null,
      alike context _ (.present shell.ne_null) rfl rfl]
  have notCall : ∀ target style, decoder ≠ .call target style := by simpa using reference
  have notNullable : ∀ element, decoder ≠ .nullable element := by simpa using layer
  obtain ⟨_ | ⟨⟨before, after⟩ | ⟨before, name, after⟩, rest⟩⟩ := context
  · exact run_of_overlooks edit (overlooks rfl) notCall notNullable
  · exact run_of_asked_item alike notCall notNullable
  · exact run_of_asked_member alike notCall notNullable

/-- A whole run: where every decoder that is handed the edited object overlooks the edit, the run
gives the same. -/
theorem run_of_overlooked (edit : MemberEdit key value members members') (context : Json.Context)
    (activation : Activation) (there : activation.input = context.fill (.object members))
    (overlooked : ∀ handed, Relation.ReflTransGen (Asks table) activation handed →
      handed.path.location = activation.path.location ++ context.location →
      handed.decoder.Overlooks key value members) :
    run table activation.entered activation.path activation.decoder
        (context.fill (.object members')) =
      run table activation.entered activation.path activation.decoder activation.input := by
  -- Down the calls: what remains of the way to the edited object is the context of the callee.
  induction activation using (calls_wellFounded table).induction generalizing context with
  | _ activation ih =>
    obtain ⟨entered, path, decoder, input⟩ := activation
    simp only at there
    subst there
    refine run_of_asked edit context (fun inner callee asks there location => ?_) fun here => ?_
    · refine ih callee asks.calls inner there fun handed chain place => ?_
      exact overlooked handed (.head asks chain) (place.trans location)
    · exact overlooked _ .refl (by simp [here])

theorem decode_of_overlooked (edit : MemberEdit key value members members') (name : String)
    (context : Json.Context)
    (overlooked : ∀ decoder, Hands table name (context.fill (.object members)) context.location
      decoder → decoder.Overlooks key value members) :
    decode table name (context.fill (.object members')) =
      decode table name (context.fill (.object members)) := by
  have same := run_of_overlooked edit context (.ofName name (context.fill (.object members))) rfl
    fun handed chain place => overlooked handed.decoder ⟨handed, chain, place, rfl⟩
  simpa only [Activation.ofName, run, decode] using same

end Run

/-- Members that are not read where decoding takes their object do not change what decoding gives,
be it a value or an error, and nor do nulls for fields that may be absent. An object may be handed
to several decoders if fields share a key; where none do, at most one looks into it. -/
theorem unread_members_immaterial [Pattern.Engine] (table : DecoderTable) (name : String)
    (context : Json.Context) {key : String} {value : Json} {members members' : List (String × Json)}
    (edit : MemberEdit key value members members') :
    ((∀ decoder, Hands table name (context.fill (.object members)) context.location decoder →
        decoder.Overlooks key value members) →
      decode table name (context.fill (.object members')) =
        decode table name (context.fill (.object members))) ∧
    ((∀ decoder, table.Holds decoder → decoder.KeysApart) →
      (context.fill (.object members)).Canonical →
      ∀ decoder, Hands table name (context.fill (.object members)) context.location decoder →
        decoder.TakesObject → decoder.Overlooks key value members →
        decode table name (context.fill (.object members')) =
          decode table name (context.fill (.object members))) := by
  refine ⟨decode_of_overlooked edit name context, ?_⟩
  intro apart canonical decoder handed takes overlooks
  refine decode_of_overlooked edit name context fun other handed' => ?_
  by_cases takes' : other.TakesObject
  · rw [← handed.unique apart canonical handed' takes takes']
    exact overlooks
  · exact Decoder.overlooks_of_not_takes takes'

section Program

attribute [local instance] Pattern.regexEngine

theorem unread_members_immaterial_shapes :
    ∃ (table : DecoderTable) (context : Json.Context) (members : List (String × Json)),
      context.location = [.member "all", .index 1] ∧
      findEntry "label" members = none ∧
      decode table "Shapes" (context.fill (.object (insertEntry "label" .null members))) =
        decode table "Shapes" (context.fill (.object members)) ∧
      decode table "Shapes" (context.fill (.object members)) =
        .error (.expected ⟨[.entry "all", .index 1, .field "radius"]⟩ .integer .bool) := by
  let fields : List (FieldDecoder Decoder) :=
    [⟨"label", "label", .optional, .primitive .string⟩,
      ⟨"radius", "radius", .required, .primitive .int⟩]
  let shape : Decoder := .tagged "kind" [⟨"circle", "Circle", fields⟩]
  let table : DecoderTable :=
    (∅ : DecoderTable).insert "Shapes" (.dict .text (.list (.nullable shape)))
  let context : Json.Context := ⟨[.member [] "all" [], .item [.null] []]⟩
  let members : List (String × Json) := [("kind", .string "circle"), ("radius", .bool true)]
  have edit : MemberEdit "label" .null members (insertEntry "label" .null members) :=
    .add (by decide)
  have apart : ∀ decoder, table.Holds decoder → decoder.KeysApart := by
    rintro decoder ⟨name, body, found, contains⟩
    rw [OrderedMap.get?_insert] at found
    split at found <;> cases found
    rcases Relation.ReflTransGen.cases_head contains with rfl | ⟨_, ⟨⟩, contains⟩
    · trivial
    rcases Relation.ReflTransGen.cases_head contains with rfl | ⟨_, ⟨⟩, contains⟩
    · trivial
    rcases Relation.ReflTransGen.cases_head contains with rfl | ⟨_, ⟨⟩, contains⟩
    · trivial
    rcases Relation.ReflTransGen.cases_head contains with rfl | ⟨_, holds, contains⟩
    · simp [Decoder.KeysApart, shape, fields]
    · simp only [shape] at holds
      cases holds with
      | tagged among member =>
        obtain rfl := List.mem_singleton.1 among
        obtain rfl | rfl : _ = _ ∨ _ = _ := by simpa [fields] using member
        all_goals
          rcases Relation.ReflTransGen.cases_head contains with rfl | ⟨_, ⟨⟩, _⟩
          trivial
  have handed : Hands table "Shapes" (context.fill (.object members)) context.location shape := by
    have first : entries table {} .text (.list (.nullable shape)) [] = .ok [] := by rw [entries]
    have accepted : key table {} "all" .text = .ok (.string "all") := rfl
    have nulls : elements table ⟨[.entry "all"]⟩ (.nullable shape) 0 [.null] = .ok [.none] := by
      simp only [elements, run]
      rfl
    refine ⟨⟨[], ⟨[.entry "all", .index 1]⟩, shape, .object members⟩, ?_, rfl, rfl⟩
    exact .head (.enter List.not_mem_nil rfl)
      (.head (.entry first accepted) (.head (.listItem nulls) (.single (.present (by simp)))))
  have overlooks : shape.Overlooks "label" .null members := by
    refine ⟨by decide, fun tag case foundTag foundCase => ?_⟩
    cases foundTag
    cases foundCase
    exact .inr ⟨rfl, by simp [fields]⟩
  obtain ⟨_, unique⟩ := unread_members_immaterial table "Shapes" context edit
  refine ⟨table, context, members, rfl, by decide, ?_, ?_⟩
  · have sorted : Increasing members := List.pairwise_pair.2 (by decide)
    refine unique apart ?_ shape handed trivial overlooks
    exact ⟨List.pairwise_singleton _ _, ⟨trivial, ⟨sorted, trivial, trivial, trivial⟩, trivial⟩,
      trivial⟩
  · have deep := decodeWithin_eq_decode table "Shapes" (context.fill (.object members))
      (Nat.le_refl _)
    exact settled_injective (deep.symm.trans rfl)

end Program

end Decoding

end WireModel
