import WireModel.Proofs.RestoredProperties
import WireModel.Proofs.Types

/-! Reading declarations back. Every part of a declaration is restored from its JSON form with the
members of objects in any order, and no written form repeats a key. So a declaration survives being
written and read, as it stands and through a store that sorts members. -/
namespace WireModel

open Json Transport

@[simp]
theorem distinct_wholeNumber (value : Nat) : (wholeNumber value).Distinct := .number

theorem Position.restores (position : Position) :
    Restores Position.ofJson? position.toJson position := by
  intro json reordered
  obtain ⟨others, rfl, same⟩ := reordered.of_object
  have file : optional text? (findEntry "file" others) = some position.file :=
    optional_of_same same "file" (by simp [findEntry]) rfl restores_text
  have line : defaulting uint32? 0 (findEntry "line" others) = some position.line :=
    defaulting_of_same same "line" (by simp [findEntry]) (restores_uint32 _)
  have column : defaulting uint32? 0 (findEntry "column" others) = some position.column :=
    defaulting_of_same same "column" (by simp [findEntry]) (restores_uint32 _)
  rw [Position.ofJson?, recordFields?_of_nodup same.distinct]
  simp only [List.map, file, line, column]
  rfl

@[simp]
theorem Position.distinct_toJson (position : Position) : position.toJson.Distinct := by
  obtain ⟨file, line, column⟩ := position
  cases file <;> simp [toJson, memberIf]

theorem Info.ofFields?_of_same (info : Info) {members others : List (String × Json)}
    (same : SameFields members others)
    (properties : findEntry "properties" members = some info.properties.toJson)
    (position : findEntry "position" members = some info.position.toJson) (mode : Mode) :
    Info.ofFields? mode (findEntry "properties" others) (findEntry "position" others) =
      some info := by
  unfold Info.ofFields?
  rw [defaulting_of_same same "properties" properties (info.properties.restores mode),
    defaulting_of_same same "position" position info.position.restores]
  rfl

theorem Basic.restores (basic : Basic) (mode : Mode) :
    Restores (Basic.ofJson? mode) basic.toJson basic := by
  intro json reordered
  rw [Basic.ofJson?, restores_name mode _ json reordered]
  cases basic <;> rfl

@[simp]
theorem Basic.distinct_toJson (basic : Basic) : basic.toJson.Distinct := .string

/-- What references carry is restored, and its written form repeats no key. -/
class ReferenceForm.Lawful (ρ : Type) [ReferenceForm ρ] : Prop where
  restores : ∀ (reference : ρ) (mode : Mode),
    Restores (ReferenceForm.ofJson? mode) (ReferenceForm.toJson reference) reference
  distinct : ∀ reference : ρ, (ReferenceForm.toJson reference).Distinct

instance : ReferenceForm.Lawful Unit where
  restores := by
    rintro _ mode _ ⟨⟩
    cases mode <;> rfl
  distinct _ := .null

instance : ReferenceForm.Lawful Classification where
  restores := by
    intro reference mode json reordered
    cases reference with
    | enumeration =>
      cases reordered
      rfl
    | plain =>
      cases reordered
      rfl
    | refinement basic =>
      obtain ⟨content, found, inside⟩ := choice?_of_reordered reordered
      show (choice? json >>= _) = _
      rw [found]
      show (Basic.ofJson? mode content).map _ = _
      rw [basic.restores mode _ inside, Option.map_some]
  distinct reference := by
    cases reference <;> simp [ReferenceForm.toJson]

section Reference

variable {ρ : Type} [ReferenceForm ρ]

namespace TypeExpr

private def namedOfFields? (mode : Mode) :
    Option (List (Option Json)) → Option (Info → TypeExpr ρ)
  | some [some name, some reference] => do
    let name ← text? name
    let reference ← ReferenceForm.ofJson? mode reference
    return (.named · name reference)
  | _ => none

private def functionOfFields? (mode : Mode) :
    Option (List (Option Json)) → Option (Info → TypeExpr ρ)
  | some [some argument, some result] => do
    let argument ← ofJson? mode argument
    let result ← ofJson? mode result
    return (.function · argument result)
  | _ => none

/-- The type, but for its properties and position, that a choice stands for. -/
private def kindOfChoice? (mode : Mode) : String × Option Json → Option (Info → TypeExpr ρ)
  | ("unit", content) => if isNothing mode content then some .unit else none
  | ("empty_product", content) => if isNothing mode content then some .emptyProduct else none
  | ("basic", some content) => do
    let scalar ← Basic.ofJson? mode content
    return (.basic · scalar)
  | ("named", some content) =>
    namedOfFields? mode (choiceFields? mode ["name", "reference"] content)
  | ("product", some (.array items)) => do
    let fields ← fieldsOfJson? mode items
    return (.product · fields)
  | ("container", some content) => containerOfJson? mode content
  | ("function", some content) =>
    functionOfFields? mode (choiceFields? mode ["argument", "result"] content)
  | _ => none

private def containerOfChoice? (mode : Mode) : String × Option Json → Option (Info → TypeExpr ρ)
  | ("list", some content) => do
    let element ← ofJson? mode content
    return (.list · element)
  | ("set", some content) => do
    let element ← ofJson? mode content
    return (.set · element)
  | ("optional", some content) => do
    let element ← ofJson? mode content
    return (.optional · element)
  | ("dict", some (.array [key, value])) => do
    let key ← ofJson? mode key
    let value ← ofJson? mode value
    return (.dict · key value)
  | _ => none

private theorem kindOfJson?_eq (mode : Mode) (json : Json) :
    (kindOfJson? mode json : Option (Info → TypeExpr ρ)) =
      (choice? json).bind (kindOfChoice? mode) := by
  rw [kindOfJson?]
  split
  case h_7 content found =>
    rw [found]
    show _ = functionOfFields? mode _
    split
    · next fields =>
      rw [fields]
      rfl
    · next other =>
      rw [functionOfFields?]
      exact other
  case h_8 =>
    cases found : choice? json with
    | none => rfl
    | some choice => rw [Option.bind_some, kindOfChoice?] <;> simp_all
  all_goals
    next found =>
    rw [found]
    rfl

private theorem containerOfJson?_eq (mode : Mode) (json : Json) :
    (containerOfJson? mode json : Option (Info → TypeExpr ρ)) =
      (choice? json).bind (containerOfChoice? mode) := by
  rw [containerOfJson?]
  split
  case h_5 =>
    cases found : choice? json with
    | none => rfl
    | some choice => rw [Option.bind_some, containerOfChoice?] <;> simp_all
  all_goals
    next found =>
    rw [found]
    rfl

section Restores

variable {mode : Mode}

theorem restores_node {kind : Json} (build : Info → TypeExpr ρ)
    (restores : Restores (kindOfJson? mode) kind build) (info : Info) :
    Restores (ofJson? mode) (toJson.node info kind) (build info) := by
  intro json reordered
  obtain ⟨others, rfl, same⟩ := reordered.of_object
  obtain ⟨kind', found, sameKind⟩ := same.get "kind" rfl
  have fields := recordFields?_of_nodup same.distinct ["kind", "properties", "position"]
  simp only [List.map, found] at fields
  have sameInfo := Info.ofFields?_of_same info same rfl rfl mode
  rw [ofJson?]
  split
  · next form =>
    cases form.symm.trans fields
    rw [restores kind' sameKind, sameInfo]
    rfl
  · next other => cases other _ _ _ fields

private theorem restores_choice {name : String} {content : Json} (build : Info → TypeExpr ρ)
    (restores : ∀ other, content.Reordered other →
      kindOfChoice? mode (name, some other) = some build) (info : Info) :
    Restores (ofJson? mode) (toJson.node info (.object [(name, content)])) (build info) := by
  refine restores_node build (fun json reordered => ?_) info
  obtain ⟨other, found, inside⟩ := choice?_of_reordered reordered
  rw [kindOfJson?_eq, found]
  exact restores other inside

private theorem restores_container {name : String} {content : Json} (build : Info → TypeExpr ρ)
    (restores : ∀ other, content.Reordered other →
      containerOfChoice? mode (name, some other) = some build) (info : Info) :
    Restores (ofJson? mode) (toJson.container info name content) (build info) := by
  refine restores_choice build (fun inner reordered => ?_) info
  obtain ⟨other, found, inside⟩ := choice?_of_reordered reordered
  rw [kindOfChoice?, containerOfJson?_eq, found]
  exact restores other inside

private theorem restores_field {field : Field (TypeExpr ρ)}
    (restores : Restores (ofJson? mode) field.type.toJson field.type) :
    Restores (fieldOfJson? mode)
      (.object (("name", .string field.name) :: ("type", field.type.toJson) :: field.info.members))
      field := by
  intro json reordered
  obtain ⟨others, rfl, same⟩ := reordered.of_object
  obtain ⟨_, foundName, ⟨⟩⟩ := same.get "name" rfl
  obtain ⟨type', foundType, sameType⟩ := same.get "type" rfl
  have fields := recordFields?_of_nodup same.distinct ["name", "type", "properties", "position"]
  simp only [List.map, foundName, foundType] at fields
  have sameInfo := Info.ofFields?_of_same field.info same rfl rfl mode
  rw [fieldOfJson?]
  split
  · next form =>
    cases form.symm.trans fields
    rw [restores type' sameType, sameInfo]
    rfl
  · next other => cases other _ _ _ _ fields

theorem fieldsOfJson?_of_restores {fields : List (Field (TypeExpr ρ))} {items : List Json}
    (each : ∀ field ∈ fields, Restores (ofJson? mode) field.type.toJson field.type)
    (reordered : List.Forall₂ Reordered (fieldsToJson fields) items) :
    fieldsOfJson? mode items = some fields := by
  induction fields generalizing items with
  | nil =>
    cases reordered
    rw [fieldsOfJson?]
  | cons field rest ih =>
    rw [fieldsToJson] at reordered
    obtain ⟨item, later, head, tail, rfl⟩ := List.forall₂_cons_left_iff.1 reordered
    rw [fieldsOfJson?, restores_field (each field List.mem_cons_self) item head,
      ih (fun field member => each field (List.mem_cons_of_mem _ member)) tail]
    rfl

theorem distinct_node {kind : Json} (distinct : kind.Distinct) (info : Info) :
    (toJson.node info kind).Distinct := by
  simp [toJson.node, Info.members, distinct]

theorem distinct_fieldsToJson {fields : List (Field (TypeExpr ρ))}
    (each : ∀ field ∈ fields, field.type.toJson.Distinct) :
    ∀ item ∈ fieldsToJson fields, item.Distinct := by
  induction fields with
  | nil => simp [fieldsToJson]
  | cons field rest ih =>
    obtain ⟨first, later⟩ := List.forall_mem_cons.1 each
    rw [fieldsToJson]
    refine List.forall_mem_cons.2 ⟨?_, ih later⟩
    simp [Info.members, first]

variable [ReferenceForm.Lawful ρ]

theorem restores (type : TypeExpr ρ) : Restores (ofJson? mode) type.toJson type := by
  induction type using TypeExpr.induction with
  | unit info =>
    rw [toJson]
    refine restores_node .unit (fun json reordered => ?_) info
    cases reordered
    rw [kindOfJson?_eq]
    rfl
  | emptyProduct info =>
    rw [toJson]
    refine restores_node .emptyProduct (fun json reordered => ?_) info
    cases reordered
    rw [kindOfJson?_eq]
    rfl
  | basic info scalar =>
    rw [toJson]
    refine restores_choice (.basic · scalar) (fun other inside => ?_) info
    rw [kindOfChoice?, scalar.restores mode _ inside]
    rfl
  | named info name reference =>
    rw [toJson]
    refine restores_choice (.named · name reference) (fun other inside => ?_) info
    obtain ⟨_, _, fields, sameName, sameReference⟩ :=
      pairFields_of_reordered "name" "reference" rfl rfl inside
    rw [kindOfChoice?, fields mode, namedOfFields?, restores_text _ _ sameName,
      ReferenceForm.Lawful.restores reference mode _ sameReference]
    rfl
  | product info fields each =>
    rw [toJson]
    refine restores_choice (.product · fields) (fun other inside => ?_) info
    obtain ⟨items, rfl, sameItems⟩ := inside.of_array
    rw [kindOfChoice?, fieldsOfJson?_of_restores each sameItems]
    rfl
  | list info element ih =>
    rw [toJson]
    refine restores_container (.list · element) (fun other inside => ?_) info
    rw [containerOfChoice?, ih other inside]
    rfl
  | set info element ih =>
    rw [toJson]
    refine restores_container (.set · element) (fun other inside => ?_) info
    rw [containerOfChoice?, ih other inside]
    rfl
  | optional info element ih =>
    rw [toJson]
    refine restores_container (.optional · element) (fun other inside => ?_) info
    rw [containerOfChoice?, ih other inside]
    rfl
  | dict info key value ihKey ihValue =>
    rw [toJson]
    refine restores_container (.dict · key value) (fun other inside => ?_) info
    obtain ⟨items, rfl, sameItems⟩ := inside.of_array
    obtain ⟨key', _, sameKey, sameRest, rfl⟩ := List.forall₂_cons_left_iff.1 sameItems
    obtain ⟨value', _, sameValue, ⟨⟩, rfl⟩ := List.forall₂_cons_left_iff.1 sameRest
    rw [containerOfChoice?, ihKey key' sameKey, ihValue value' sameValue]
    rfl
  | function info argument result ihArgument ihResult =>
    rw [toJson]
    refine restores_choice (.function · argument result) (fun other inside => ?_) info
    obtain ⟨argument', result', fields, sameArgument, sameResult⟩ :=
      pairFields_of_reordered "argument" "result" rfl rfl inside
    rw [kindOfChoice?, fields mode, functionOfFields?, ihArgument argument' sameArgument,
      ihResult result' sameResult]
    rfl

theorem distinct_toJson (type : TypeExpr ρ) : type.toJson.Distinct := by
  induction type using TypeExpr.induction with
  | unit info =>
    rw [toJson]
    exact distinct_node (by simp) info
  | basic info scalar =>
    rw [toJson]
    exact distinct_node (by simp) info
  | named info name reference =>
    rw [toJson]
    exact distinct_node (by simp [ReferenceForm.Lawful.distinct]) info
  | product info fields each =>
    rw [toJson]
    exact distinct_node (by simpa using distinct_fieldsToJson each) info
  | emptyProduct info =>
    rw [toJson]
    exact distinct_node (by simp) info
  | list info element ih =>
    rw [toJson]
    exact distinct_node (by simp [ih]) info
  | set info element ih =>
    rw [toJson]
    exact distinct_node (by simp [ih]) info
  | dict info key value ihKey ihValue =>
    rw [toJson]
    exact distinct_node (by simp [ihKey, ihValue]) info
  | optional info element ih =>
    rw [toJson]
    exact distinct_node (by simp [ih]) info
  | function info argument result ihArgument ihResult =>
    rw [toJson]
    exact distinct_node (by simp [ihArgument, ihResult]) info

end Restores

end TypeExpr

theorem IntRestriction.restores (restriction : IntRestriction) :
    Restores IntRestriction.ofJson? restriction.toJson restriction := by
  intro json reordered
  obtain ⟨others, rfl, same⟩ := reordered.of_object
  have min : optional int64? (findEntry "min" others) = some restriction.min :=
    optional_of_same same "min" (by simp) rfl restores_int64
  have max : optional int64? (findEntry "max" others) = some restriction.max :=
    optional_of_same same "max" (by simp) rfl restores_int64
  have width : optional uint32? (findEntry "width" others) = some restriction.width :=
    optional_of_same same "width" (by simp) rfl restores_uint32
  rw [IntRestriction.ofJson?, recordFields?_of_nodup same.distinct]
  simp only [List.map, min, max, width]
  rfl

theorem StringRestriction.restores (restriction : StringRestriction) :
    Restores StringRestriction.ofJson? restriction.toJson restriction := by
  intro json reordered
  obtain ⟨others, rfl, same⟩ := reordered.of_object
  have min : optional uint64? (findEntry "min_length" others) = some restriction.minLength :=
    optional_of_same same "min_length" (by simp) rfl restores_uint64
  have max : optional uint64? (findEntry "max_length" others) = some restriction.maxLength :=
    optional_of_same same "max_length" (by simp) rfl restores_uint64
  have regex : optional text? (findEntry "regex" others) = some restriction.regex :=
    optional_of_same same "regex" (by simp) rfl restores_text
  rw [StringRestriction.ofJson?, recordFields?_of_nodup same.distinct]
  simp only [List.map, min, max, regex]
  rfl

theorem Restriction.restores (restriction : Restriction) :
    Restores Restriction.ofJson? restriction.toJson restriction := by
  intro json reordered
  cases restriction with
  | int restriction =>
    obtain ⟨content, found, inside⟩ := choice?_of_reordered reordered
    rw [Restriction.ofJson?, found]
    show (IntRestriction.ofJson? content).map _ = _
    rw [restriction.restores _ inside, Option.map_some]
  | string restriction =>
    obtain ⟨content, found, inside⟩ := choice?_of_reordered reordered
    rw [Restriction.ofJson?, found]
    show (StringRestriction.ofJson? content).map _ = _
    rw [restriction.restores _ inside, Option.map_some]

@[simp]
theorem Restriction.distinct_toJson (restriction : Restriction) : restriction.toJson.Distinct := by
  cases restriction with
  | int restriction =>
    obtain ⟨min, max, width⟩ := restriction
    cases min <;> cases max <;> cases width <;> simp [toJson, IntRestriction.toJson, memberIf]
  | string restriction =>
    obtain ⟨min, max, regex⟩ := restriction
    cases min <;> cases max <;> cases regex <;> simp [toJson, StringRestriction.toJson, memberIf]

/-- A declaration is read back from its written form, in which no key repeats: from the form itself,
from the form with its members sorted, and from the form with its members in any order. -/
structure Declaration.RoundTrips (declaration : Declaration ρ) : Prop where
  distinct : declaration.toJson.Distinct
  written : Declaration.ofJson? declaration.toJson = some declaration
  sorted : Declaration.ofJson? declaration.toJson.canonical = some declaration
  reordered : ∀ json, declaration.toJson.Reordered json →
    Declaration.ofJson? json = some declaration

section Lawful

variable [ReferenceForm.Lawful ρ]

theorem Constructor.restores (constructor : Constructor ρ) (mode : Mode) :
    Restores (Constructor.ofJson? mode) constructor.toJson constructor := by
  intro json reordered
  obtain ⟨others, rfl, same⟩ := reordered.of_object
  obtain ⟨_, name, ⟨⟩⟩ := same.get "name" rfl
  have fields : defaulting (Constructor.ofJson?.readFields mode) [] (findEntry "fields" others) =
      some constructor.fields := by
    refine defaulting_of_same same "fields" rfl fun json reordered => ?_
    obtain ⟨items, rfl, each⟩ := reordered.of_array
    exact TypeExpr.fieldsOfJson?_of_restores (fun field _ => field.type.restores) each
  have position : defaulting Position.ofJson? {} (findEntry "position" others) =
      some constructor.position :=
    defaulting_of_same same "position" rfl constructor.position.restores
  rw [Constructor.ofJson?, recordFields?_of_nodup same.distinct]
  simp only [List.map, name, fields, position]
  rfl

theorem Constructor.distinct_toJson (constructor : Constructor ρ) :
    constructor.toJson.Distinct := by
  have fields : ∀ item ∈ TypeExpr.fieldsToJson constructor.fields, item.Distinct :=
    TypeExpr.distinct_fieldsToJson fun field _ => field.type.distinct_toJson
  simpa [toJson] using fields

@[simp]
theorem DeclarationKind.ofJson?_text (kind : DeclarationKind) :
    DeclarationKind.ofJson? (.string kind.text) = some kind := by
  cases kind <;> rfl

theorem Body.restores (body : Body ρ) (mode : Mode) :
    Restores (Body.ofJson? mode body.kind) body.toJson body := by
  intro json reordered
  cases body with
  | «alias» type =>
    show (TypeExpr.ofJson? mode json).map Body.alias = _
    rw [type.restores json reordered, Option.map_some]
  | sum constructors =>
    obtain ⟨items, rfl, each⟩ := reordered.of_array
    show (items.mapM (Constructor.ofJson? mode)).map Body.sum = _
    rw [mapM_of_restores (fun constructor _ => constructor.restores mode) each, Option.map_some]
  | enum labels =>
    show (texts? json).map Body.enum = _
    rw [restores_texts labels json reordered, Option.map_some]
  | restricted restriction =>
    show (Restriction.ofJson? json).map Body.restricted = _
    rw [restriction.restores json reordered, Option.map_some]

theorem Body.distinct_toJson (body : Body ρ) : body.toJson.Distinct := by
  cases body with
  | «alias» type => exact type.distinct_toJson
  | sum constructors => simp [toJson, Constructor.distinct_toJson]
  | enum labels => simp [toJson]
  | restricted restriction => simp [toJson]

theorem Declaration.restores (declaration : Declaration ρ) :
    Restores Declaration.ofJson? declaration.toJson declaration := by
  intro json reordered
  obtain ⟨others, rfl, same⟩ := reordered.of_object
  obtain ⟨_, name, ⟨⟩⟩ := same.get "name" rfl
  obtain ⟨_, kind, ⟨⟩⟩ := same.get "kind" rfl
  -- The member with the body is named by the kind, and it is none of the other four.
  obtain ⟨body, foundBody, sameBody⟩ : ∃ body,
      findEntry declaration.body.kind.member others = some body ∧
        declaration.body.toJson.Reordered body :=
    same.get _ (by cases declaration.body.kind <;> rfl)
  have info := Info.ofFields?_of_same declaration.info same
    (by cases declaration.body.kind <;> rfl) (by cases declaration.body.kind <;> rfl) .buffered
  rw [Declaration.ofJson?, objectFields?_of_nodup same.distinct]
  simp only [List.map, name, kind, DeclarationKind.ofJson?_text, Option.bind_eq_bind,
    Option.bind_some]
  rw [objectFields?_of_nodup same.distinct]
  simp only [List.map, foundBody, declaration.body.restores .buffered body sameBody, info]
  rfl

theorem Declaration.distinct_toJson (declaration : Declaration ρ) :
    declaration.toJson.Distinct := by
  refine .object ?_ ?_
  · cases declaration.body.kind <;> simp [DeclarationKind.member]
  · simp [declaration.body.distinct_toJson]

theorem Declaration.roundTrips (declaration : Declaration ρ) : declaration.RoundTrips := by
  have distinct := declaration.distinct_toJson
  exact {
    distinct
    written := declaration.restores _ distinct.reordered
    sorted := declaration.restores _ distinct.reordered_canonical
    reordered := declaration.restores }

end Lawful

end Reference

/-- The JSON form loses nothing of a declaration, before and after resolution. -/
theorem declarations_round_trip :
    (∀ declaration : Declaration Unit, declaration.RoundTrips) ∧
      ∀ declaration : Declaration Classification, declaration.RoundTrips := by
  exact ⟨Declaration.roundTrips, Declaration.roundTrips⟩

end WireModel
