import WireModel.Proofs.Reordering

/-! Reading properties back. A map is restored from its members in any order, and specs and
properties at any depth are restored whether their content stands before or after the name of its
kind. -/
namespace WireModel

open Json Transport

@[simp]
theorem distinct_texts (values : List String) : (texts values).Distinct := by
  simp [texts]

namespace OrderedMap

variable {α : Type}

@[simp]
theorem ofList_entries (map : OrderedMap α) : ofList map.entries = map := by
  refine ext_get? fun key => ?_
  rw [ofList, get?_insertAll_of_nodup _ map.increasing.nodup, get?_empty, Option.or_none, get?]

theorem exists_entries {read : Json → Option α} {members : List (String × Json)}
    (each : ∀ key json, (key, json) ∈ members → ∃ value, read json = some value) :
    ∃ entries, members.mapM (fun (key, value) => (read value).map (key, ·)) = some entries ∧
      entries.map Prod.fst = members.map Prod.fst ∧
      ∀ key, findEntry key entries = (findEntry key members).bind read := by
  induction members with
  | nil => exact ⟨[], rfl, rfl, fun key => rfl⟩
  | cons head rest ih =>
    obtain ⟨name, json⟩ := head
    obtain ⟨value, first⟩ := each name json List.mem_cons_self
    obtain ⟨entries, later, keys, look⟩ :=
      ih fun key json member => each key json (List.mem_cons_of_mem _ member)
    refine ⟨(name, value) :: entries, ?_, congrArg (name :: ·) keys, fun key => ?_⟩
    · rw [List.mapM_cons, later]
      simp only [first]
      rfl
    · rw [findEntry, findEntry, look]
      split
      · exact first.symm
      · rfl

section Restores

variable {read : Json → Option α} {write : α → Json}
  (each : ∀ value, Restores read (write value) value)
include each

private theorem bind_of_related {field : Option α} {other : Option Json}
    (related : Option.Rel Reordered (field.map write) other) : other.bind read = field := by
  cases field with
  | none =>
    cases related
    rfl
  | some value =>
    cases related with
    | some reordered => exact each value _ reordered

private theorem exists_read_of_related {field : Option α} {json : Json}
    (related : Option.Rel Reordered (field.map write) (some json)) :
    ∃ value, read json = some value := by
  cases field with
  | none => cases related
  | some value => exact ⟨value, bind_of_related each related⟩

theorem restores (map : OrderedMap α) :
    Restores (OrderedMap.ofJson? read) (map.toJson write) map := by
  intro json reordered
  obtain ⟨others, rfl, same⟩ := reordered.of_object
  have related := same.related
  simp only [findEntry_map] at related
  have readable : ∀ key json, (key, json) ∈ others → ∃ value, read json = some value := by
    intro key json member
    have field := related key
    rw [(findEntry_eq_some same.distinct).2 member] at field
    exact exists_read_of_related each field
  obtain ⟨entries, all, keys, look⟩ := exists_entries readable
  rw [OrderedMap.ofJson?, all]
  refine congrArg some (ext_get? fun key => ?_)
  rw [ofList, get?_insertAll_of_nodup _ (keys ▸ same.distinct), get?_empty, Option.or_none, look]
  exact bind_of_related each (related key)

end Restores

end OrderedMap

theorem LabelSet.restores (labels : LabelSet) : Restores LabelSet.ofJson? labels.toJson labels := by
  intro json reordered
  rw [LabelSet.ofJson?, restores_texts _ json reordered, Option.map_some, ofLabels]
  have entries : labels.keys.map (·, ()) = labels.entries := by
    unfold OrderedMap.keys
    rw [List.map_map]
    exact List.map_id _
  rw [entries, OrderedMap.ofList_entries]

/-- A choice is restored if what its tag and its content stand for is, on whichever side of the
tag the content comes. -/
theorem restores_of_tagged {α : Type} {read : Json → Option α} {ofTagged : Tagged → Option α}
    {mode : Mode} {tagKey contentKey tag : String} {members : List (String × Json)} {value : α}
    (reads : ∀ json, read json = (tagged? mode tagKey contentKey json).bind ofTagged)
    (found : findEntry tagKey members = some (.string tag))
    (each : ∀ content contentMode, Option.Rel Reordered (findEntry contentKey members) content →
      ofTagged ⟨.string tag, content, contentMode⟩ = some value) :
    Restores read (.object members) value := by
  intro json reordered
  obtain ⟨content, contentMode, form, inside⟩ :=
    tagged?_of_reordered mode tagKey contentKey found reordered
  rw [reads, form]
  exact each content contentMode inside

namespace PropertySpec

/-- The spec that a choice stands for. -/
private def ofTagged? (mode : Mode) (tagged : Tagged) : Option PropertySpec := do
  let name ← name? mode tagged.tag
  match tagged.content with
  | none => ofName? name
  | some content =>
    match name with
    | "enum" => (LabelSet.ofJson? content).map .enum
    | "optional" => (ofJson? tagged.mode content).map .optional
    | name => if isNothing .direct content then ofName? name else none

private theorem ofJson?_eq (mode : Mode) (json : Json) :
    ofJson? mode json = (tagged? mode "spec" "of" json).bind (ofTagged? mode) := by
  rw [ofJson?]
  split
  · next none =>
    rw [none]
    rfl
  · next tagged found =>
    rw [found]
    obtain ⟨tag, content, contentMode⟩ := tagged
    cases content <;> rfl

theorem restores (spec : PropertySpec) (mode : Mode) :
    Restores (ofJson? mode) spec.toJson spec := by
  induction spec generalizing mode with
  | string | qname | bool =>
    refine restores_of_tagged (ofJson?_eq mode) rfl ?_
    rintro _ contentMode ⟨⟩
    rfl
  | enum labels =>
    refine restores_of_tagged (ofJson?_eq mode) rfl ?_
    rintro _ contentMode ⟨inside⟩
    exact congrArg (Option.map enum) (labels.restores _ inside)
  | optional inner ih =>
    refine restores_of_tagged (ofJson?_eq mode) rfl ?_
    rintro _ contentMode ⟨inside⟩
    exact congrArg (Option.map optional) (ih contentMode _ inside)

@[simp]
theorem distinct_toJson (spec : PropertySpec) : spec.toJson.Distinct := by
  induction spec with
  | string => simp [toJson]
  | enum labels => simp [toJson, LabelSet.toJson]
  | qname => simp [toJson]
  | bool => simp [toJson]
  | optional inner ih => simp [toJson, ih]

end PropertySpec

namespace Property

private def ofEnumFields? : Option (List (Option Json)) → Option Property
  | some [some labels, some value] => do return .enum (← LabelSet.ofJson? labels) (← text? value)
  | _ => none

private def ofOptionalFields? (mode : Mode) : Option (List (Option Json)) → Option Property
  | some [some spec, none] | some [some spec, some .null] =>
    (PropertySpec.ofJson? mode spec).map .absent
  | some [some spec, some value] => do
    return .present (← PropertySpec.ofJson? mode spec) (← ofJson? mode value)
  | _ => none

private def ofTagged? (mode : Mode) (tagged : Tagged) : Option Property := do
  let name ← name? mode tagged.tag
  match tagged.content with
  | none => none
  | some content =>
    match name with
    | "string" => (text? content).map .string
    | "bool" => (bool? content).map .bool
    | "q_name" => (texts? content).map .qname
    | "enum" => ofEnumFields? (objectFields? ["labels", "value"] content)
    | "optional" => ofOptionalFields? tagged.mode (objectFields? ["spec", "value"] content)
    | _ => none

private theorem ofJson?_eq (mode : Mode) (json : Json) :
    ofJson? mode json = (tagged? mode "property" "value" json).bind (ofTagged? mode) := by
  rw [ofJson?]
  split
  · next none =>
    rw [none]
    rfl
  · next tagged found =>
    rw [found]
    obtain ⟨tag, content, contentMode⟩ := tagged
    cases content with
    | none => rfl
    | some content =>
      refine congrArg (Option.bind (name? mode tag)) (funext fun name => ?_)
      dsimp only
      split
      case h_5 => split <;> simp_all [ofOptionalFields?]
      case h_6 => simp_all
      all_goals rfl

/-- A value that is there is never taken for an absent one. -/
theorem reordered_toJson_ne_null {property : Property} {json : Json}
    (reordered : property.toJson.Reordered json) : json ≠ .null := by
  rintro rfl
  cases property <;> cases reordered

theorem restores (property : Property) (mode : Mode) :
    Restores (ofJson? mode) property.toJson property := by
  induction property generalizing mode with
  | string value =>
    refine restores_of_tagged (ofJson?_eq mode) rfl ?_
    rintro _ contentMode ⟨inside⟩
    exact congrArg (Option.map string) (restores_text _ _ inside)
  | bool value =>
    refine restores_of_tagged (ofJson?_eq mode) rfl ?_
    rintro _ contentMode ⟨inside⟩
    exact congrArg (Option.map bool) (restores_bool _ _ inside)
  | qname segments =>
    refine restores_of_tagged (ofJson?_eq mode) rfl ?_
    rintro _ contentMode ⟨inside⟩
    exact congrArg (Option.map qname) (restores_texts _ _ inside)
  | enum labels value =>
    refine restores_of_tagged (ofJson?_eq mode) rfl ?_
    rintro _ contentMode ⟨inside⟩
    obtain ⟨_, _, fields, sameLabels, sameValue⟩ :=
      pairFields_of_reordered "labels" "value" rfl rfl inside
    refine (congrArg ofEnumFields? (fields .direct)).trans ?_
    rw [ofEnumFields?, labels.restores _ sameLabels, restores_text _ _ sameValue]
    rfl
  | absent spec =>
    refine restores_of_tagged (ofJson?_eq mode) rfl ?_
    rintro _ contentMode ⟨inside⟩
    obtain ⟨_, _, fields, sameSpec, ⟨⟩⟩ := pairFields_of_reordered "spec" "value" rfl rfl inside
    refine (congrArg (ofOptionalFields? contentMode) (fields .direct)).trans ?_
    rw [ofOptionalFields?, spec.restores contentMode _ sameSpec]
    rfl
  | present spec value ih =>
    refine restores_of_tagged (ofJson?_eq mode) rfl ?_
    rintro _ contentMode ⟨inside⟩
    obtain ⟨_, _, fields, sameSpec, sameValue⟩ :=
      pairFields_of_reordered "spec" "value" rfl rfl inside
    refine (congrArg (ofOptionalFields? contentMode) (fields .direct)).trans ?_
    rw [ofOptionalFields?, spec.restores contentMode _ sameSpec, ih contentMode _ sameValue]
    · rfl
    · rintro rfl
      exact reordered_toJson_ne_null sameValue rfl

@[simp]
theorem distinct_toJson (property : Property) : property.toJson.Distinct := by
  induction property with
  | string value => simp [toJson]
  | enum labels value => simp [toJson, LabelSet.toJson]
  | qname segments => simp [toJson]
  | bool value => simp [toJson]
  | absent spec => simp [toJson]
  | present spec value ih => simp [toJson, ih]

end Property

theorem Properties.restores (properties : Properties) (mode : Mode) :
    Restores (Properties.ofJson? mode) properties.toJson properties :=
  OrderedMap.restores (fun property => property.restores mode) properties

@[simp]
theorem Properties.distinct_toJson (properties : Properties) : properties.toJson.Distinct := by
  refine .object ?_ fun member among => ?_
  · rw [List.map_map]
    exact properties.increasing.nodup
  · obtain ⟨entry, _, rfl⟩ := List.mem_map.1 among
    exact entry.2.distinct_toJson

end WireModel
