import WireModel.Pattern.Compiled
import WireModel.Proofs.Answers
import WireModel.Proofs.DecoderParts
import WireModel.Proofs.WireKeys
import Mathlib.Data.List.Nodup

/-! Unambiguous objects. Where the coding processor has run, the fields of every generated object or
constructor have keys and names of their own and leave the tag alone. So fields do not get into each
other's way: whatever each of them can be decoded from, all together are decoded from one object. -/
namespace WireModel

section Entries

variable {α β : Type}

/-- The members that a choice of values makes, with one key for each item. -/
def givenMembers (key : α → String) (given : α → Option β) (items : List α) :
    List (String × β) :=
  items.filterMap fun item => (given item).map (key item, ·)

private theorem mem_givenMembers {key : α → String} {given : α → Option β} {items : List α}
    {name : String} {value : β} :
    (name, value) ∈ givenMembers key given items ↔
      ∃ item ∈ items, given item = some value ∧ key item = name := by
  simp [givenMembers, List.mem_filterMap, Option.map_eq_some_iff, and_comm]

private theorem keys_givenMembers_sublist (key : α → String) (given : α → Option β)
    (items : List α) : ((givenMembers key given items).map Prod.fst).Sublist (items.map key) := by
  induction items with
  | nil => exact .slnil
  | cons item rest ih =>
    rw [List.map_cons, givenMembers, List.filterMap_cons]
    cases given item with
    | none => exact .cons _ ih
    | some value => exact .cons_cons _ ih

/-- In any order of the members, each item finds what it was given. -/
theorem findEntry_given {key : α → String} {given : α → Option β} {items : List α}
    {others members : List (String × β)}
    (perm : members.Perm (others ++ givenMembers key given items))
    (distinct : (others.map Prod.fst ++ items.map key).Nodup) :
    (members.map Prod.fst).Nodup ∧
      ∀ item ∈ items, findEntry (key item) members = given item := by
  have unique : (members.map Prod.fst).Nodup := by
    refine (perm.map Prod.fst).nodup_iff.2 (distinct.sublist ?_)
    rw [List.map_append]
    exact (List.Sublist.refl _).append (keys_givenMembers_sublist key given items)
  refine ⟨unique, fun item member => ?_⟩
  obtain ⟨_, keys, apart⟩ := List.nodup_append.1 distinct
  cases chosen : given item with
  | some value =>
    rw [findEntry_eq_some unique, perm.mem_iff]
    exact List.mem_append_right _ (mem_givenMembers.2 ⟨item, member, chosen, rfl⟩)
  | none =>
    -- Its key could only be there as the key of another member or of another item.
    apply findEntry_eq_none
    intro there
    obtain ⟨⟨name, value⟩, there, rfl⟩ := List.mem_map.1 there
    rcases List.mem_append.1 (perm.mem_iff.1 there) with other | chosenOther
    · exact apart _ (List.mem_map_of_mem other) _ (List.mem_map_of_mem member) rfl
    · obtain ⟨second, among, chosenSecond, same⟩ := mem_givenMembers.1 chosenOther
      cases List.inj_on_of_nodup_map keys among member same
      cases chosen.symm.trans chosenSecond

theorem OrderedMap.ofList_perm {entries : List (String × α)}
    (distinct : (entries.map Prod.fst).Nodup) : (ofList entries).entries.Perm entries := by
  have unique : (ofList entries).entries.Nodup := (ofList entries).increasing.nodup.of_map
  apply (List.perm_ext_iff_of_nodup unique distinct.of_map).2
  rintro ⟨name, value⟩
  rw [mem_entries, ofList, get?_insertAll_of_nodup _ distinct, get?_empty, Option.or_none,
    findEntry_eq_some distinct]

end Entries

namespace Decoding

theorem record_perm {decoders : List (FieldDecoder Decoder)}
    (names : (decoders.map (·.name)).Nodup) (result : FieldDecoder Decoder → Value) :
    (OrderedMap.ofList (decoders.map fun field => (field.name, result field))).entries.Perm
      (decoders.map fun field => (field.name, result field)) := by
  apply OrderedMap.ofList_perm
  rwa [List.map_map]

variable [Pattern.Engine] {table : DecoderTable}

/-- What a field may be given, and what it then is decoded to: anything that its decoder accepts,
and for an optional field also nothing or null. -/
inductive Takes (table : DecoderTable) (field : FieldDecoder Decoder) : Option Json → Value → Prop
  | required {entered path item value} (needed : field.presence = .required)
      (runs : run table entered path field.decoder item = .ok value) :
      Takes table field (some item) value
  | supplied {entered path item value} (optional : field.presence = .optional)
      (notNull : item ≠ .null) (runs : run table entered path field.decoder item = .ok value) :
      Takes table field (some item) (.some value)
  | omitted (optional : field.presence = .optional) : Takes table field none .none
  | null (optional : field.presence = .optional) : Takes table field (some .null) .none

/-- The decoder of an object decodes these fields independently, beside other members: what each of
them takes, put together in any order, gives what `build` makes of exactly their results. -/
def DecodesEach (table : DecoderTable) (decoder : Decoder) (fields : List (FieldDecoder Decoder))
    (others : List (String × Json)) (build : List (String × Value) → Value) : Prop :=
  ∀ (given : FieldDecoder Decoder → Option Json) (result : FieldDecoder Decoder → Value),
    (∀ field ∈ fields, Takes table field (given field) (result field)) →
    ∃ record : OrderedMap Value,
      record.entries.Perm (fields.map fun field => (field.name, result field)) ∧
      ∀ members, members.Perm (others ++ givenMembers (·.key) given fields) →
        ∀ entered path,
          run table entered path decoder (.object members) = .ok (build record.entries)

theorem run_anywhere {entered : List String} {path : Path} {decoder : Decoder} {input : Json}
    {value : Value} (runs : run table entered path decoder input = .ok value) (other : Path) :
    run table [] other decoder input = .ok value :=
  run_of_reads (reads_of_run runs) other

private theorem field_of_takes {one : FieldDecoder Decoder} {given : Option Json} {value : Value}
    {members : List (String × Json)} (takes : Takes table one given value)
    (found : findEntry one.key members = given) (path : Path) :
    levelField (outcome table) path members one = .ok value := by
  unfold levelField
  rw [found]
  cases takes with
  | required needed runs =>
    rw [needed]
    exact congrArg settled (run_anywhere runs _)
  | @supplied _ _ item _ optional notNull runs =>
    rw [optional]
    have inner := congrArg settled (run_anywhere runs (path.push (.field one.key)))
    cases item with
    | null => exact absurd rfl notNull
    | _ => exact return_eq_ok.2 ⟨_, inner, rfl⟩
  | omitted optional => rw [optional]
  | null optional => rw [optional]

private theorem fields_of_takes {decoders : List (FieldDecoder Decoder)}
    {given : FieldDecoder Decoder → Option Json} {result : FieldDecoder Decoder → Value}
    {members : List (String × Json)}
    (takes : ∀ field ∈ decoders, Takes table field (given field) (result field))
    (found : ∀ field ∈ decoders, findEntry field.key members = given field) (path : Path) :
    fields table path members [] decoders =
      .ok (OrderedMap.ofList (decoders.map fun field => (field.name, result field))).entries := by
  have each : List.Forall₂
      (fun field value => levelField (outcome table) path members field = .ok value)
      decoders (decoders.map result) :=
    List.forall₂_map_right_iff.2 (List.forall₂_same.2 fun field member =>
      field_of_takes (takes field member) (found field member) path)
  have whole := levelFields_of_each each ∅
  rw [List.zip_map'] at whole
  apply settled_injective
  rw [settled_fields]
  exact whole

theorem decodesEach_object {decoders : List (FieldDecoder Decoder)}
    (keys : (decoders.map (·.key)).Nodup) (names : (decoders.map (·.name)).Nodup) :
    DecodesEach table (.object decoders) decoders [] .record := by
  intro given result takes
  refine ⟨_, record_perm names result, fun members perm entered path => ?_⟩
  obtain ⟨_, found⟩ := findEntry_given perm keys
  rw [run, fields_of_takes takes found path]
  rfl

theorem decodesEach_tagged {discriminant : String} {cases : List (Case Decoder)}
    {case : Case Decoder} (tags : (cases.map (·.tag)).Nodup) (among : case ∈ cases)
    (keys : (discriminant :: case.fields.map (·.key)).Nodup)
    (names : (case.fields.map (·.name)).Nodup) :
    DecodesEach table (.tagged discriminant cases) case.fields
      [(discriminant, .string case.tag)] (.constructor case.constructor) := by
  intro given result takes
  refine ⟨_, record_perm names result, fun members perm entered path => ?_⟩
  obtain ⟨unique, found⟩ := findEntry_given perm keys
  have tag : findEntry discriminant members = some (.string case.tag) := by
    rw [findEntry_eq_some unique, perm.mem_iff]
    exact List.mem_cons_self
  have chosen := find?_of_nodup tags among
  rw [run]
  simp only [tag, chosen, fields_of_takes takes found path]
  rfl

end Decoding

section Keys

variable {processors : List Processor}

private theorem PropertyView.string_congr {left right : PropertyView} {slot : String}
    (same : left.lookup slot = right.lookup slot) : left.string slot = right.string slot := by
  unfold string read
  rw [same]

private theorem PropertyView.string?_congr {left right : PropertyView} {slot : String}
    (same : left.lookup slot = right.lookup slot) : left.string? slot = right.string? slot := by
  unfold string? read
  rw [same]

/-- A slot of a processor of the run is looked up as if that processor were alone. -/
theorem Processor.lookup_mergedDefaults {processor : Processor} (member : processor ∈ processors)
    {kind : NodeKind} {slot : String} {value : Property}
    (h : (processor.defaults.of kind).values.get? slot = some value) (own : Properties) :
    ((mergedDefaults processors).view kind own).lookup slot =
      (processor.defaults.view kind own).lookup slot := by
  unfold PropertyView.lookup Defaults.view
  rw [values_mergedDefaults member h, h]

theorem Coding.fieldKey_mergedDefaults (coding : .coding ∈ processors) :
    fieldKey (Processor.mergedDefaults processors) = fieldKey defaults := by
  funext label
  unfold fieldKey Defaults.fieldView
  rw [PropertyView.string?_congr (Processor.lookup_mergedDefaults coding rfl _)]
  rfl

private theorem Options.tagField_eq_tagField (coding : .coding ∈ processors) {model : Model}
    {options : Options}
    (chosen : Options.ofModel (Processor.mergedDefaults processors) model = .ok options) :
    options.tagField = Coding.tagField model := by
  have read := Options.string_tagField chosen
  unfold Defaults.topView at read
  rw [PropertyView.string_congr (Processor.lookup_mergedDefaults coding rfl _)] at read
  unfold Coding.tagField Defaults.topView
  rw [show (Coding.defaults.view _ _).string _ = _ from read]

/-- Decoders of the fields with these labels: each reads its field from the key that the field has
on the wire, and no two of them share a key or a name. -/
structure ReadsApart (labels : List FieldLabel) (decoders : List (FieldDecoder Decoder)) :
    Prop where
  fields : List.Forall₂ (fun label decoder => decoder.name = label.name ∧
    decoder.key = Coding.fieldKey Coding.defaults label) labels decoders
  keys : (decoders.map (·.key)).Nodup
  names : (decoders.map (·.name)).Nodup

namespace Site

variable {site : Site}

private theorem eq_of_fieldKey {label : FieldLabel} {key : String}
    (h : site.fieldKey label = .ok key) : key = Coding.fieldKey site.defaults label := by
  unfold fieldKey at h
  unfold Coding.fieldKey
  split at h
  · next own read =>
    cases h
    rw [read]
    cases own <;> rfl
  · cases h

theorem readsApart_of_forFields
    (wire : Coding.fieldKey site.defaults = Coding.fieldKey Coding.defaults) {scope : String}
    {fields : List (Field (TypeExpr Classification))} {decoders : List (FieldDecoder Decoder)}
    (keys : ((fields.map (·.toFieldLabel)).map (Coding.fieldKey Coding.defaults)).Nodup)
    (names : ((fields.map (·.toFieldLabel)).map (·.name)).Nodup)
    (built : site.forFields scope fields = .ok decoders) :
    ReadsApart (fields.map (·.toFieldLabel)) decoders := by
  rw [forFields_eq_mapM] at built
  have labels : List.Forall₂ (fun label decoder => decoder.name = label.name ∧
      decoder.key = Coding.fieldKey Coding.defaults label)
      (fields.map (·.toFieldLabel)) decoders := by
    refine List.forall₂_map_left_iff.2 ((mapM_eq_ok.1 built).imp fun field decoder h => ?_)
    obtain ⟨key, read, h⟩ := bind_eq_ok.1 h
    obtain ⟨inner, _, rfl⟩ := return_eq_ok.1 h
    exact ⟨rfl, wire ▸ eq_of_fieldKey read⟩
  refine ⟨labels, ?_, ?_⟩
  · rwa [map_eq_of_forall₂ labels fun _ _ same => same.2.symm] at keys
  · rwa [map_eq_of_forall₂ labels fun _ _ same => same.1.symm] at names

theorem readsApart_of_arises
    (wire : Coding.fieldKey site.defaults = Coding.fieldKey Coding.defaults)
    {body : Body Classification} {decoders : List (FieldDecoder Decoder)}
    (keys : ∀ group ∈ body.labelGroups, (group.map (Coding.fieldKey Coding.defaults)).Nodup)
    (names : ∀ group ∈ body.labelGroups, (group.map (·.name)).Nodup)
    (arises : site.Arises body (.object decoders)) :
    ∃ type ∈ body.walk, ReadsApart type.ownLabels decoders := by
  obtain ⟨path, type, member, built⟩ := arises
  have among : type.ownLabels ∈ body.labelGroups :=
    List.mem_append_right _ (List.mem_map_of_mem member)
  refine ⟨type, member, ?_⟩
  cases type with
  | product info fields =>
    obtain ⟨_, builtFields, same⟩ := return_eq_ok.1 built
    cases same
    exact readsApart_of_forFields wire (keys _ among) (names _ among) builtFields
  | emptyProduct =>
    cases built
    exact ⟨.nil, List.nodup_nil, List.nodup_nil⟩
  | unit | basic | named | function => cases built
  | _ =>
    obtain ⟨_, _, same⟩ := return_eq_ok.1 built
    cases same

theorem cases_of_forBody {body : Body Classification} {discriminant : String}
    {cases : List (Case Decoder)} (built : site.forBody body = .ok (.tagged discriminant cases)) :
    ∃ constructors, body = .sum constructors ∧ discriminant = site.options.tagField ∧
      List.Forall₂ (fun constructor case => case.tag = constructor.name ∧
        case.constructor = constructor.name ∧
        ∃ scope, site.forFields scope constructor.fields = .ok case.fields) constructors cases := by
  have kind := kind_of_forBody built
  rcases body with _ | constructors | _ | _
  case sum =>
    obtain ⟨_, builtCases, same⟩ := return_eq_ok.1 built
    cases same
    rw [forCases_eq_mapM] at builtCases
    refine ⟨constructors, rfl, rfl, (mapM_eq_ok.1 builtCases).imp fun constructor case h => ?_⟩
    obtain ⟨fields, builtFields, rfl⟩ := return_eq_ok.1 h
    exact ⟨rfl, rfl, _, builtFields⟩
  all_goals cases kind

end Site

end Keys

section Compiled

variable [Pattern.Engine] {draft : Draft} {properties : Properties} {processors : List Processor}
  {compiled : Compiled} {options : Options} {fragment : Fragment}

/-- With the coding processor, generated decoders are unambiguous: the fields of an object or of a
constructor are read from the keys that the model gives them, keys and names are distinct, none of
the keys is the tag, and tags are distinct. So fields are decoded independently. -/
theorem generated_unambiguous (coding : .coding ∈ processors)
    (compiles : compile draft properties processors = .ok compiled)
    (chosen : Options.ofModel compiled.defaults compiled.model = .ok options)
    (member : fragment ∈ (generate compiled.defaults options compiled.model).fragments) :
    Coding.fieldKey compiled.defaults = Coding.fieldKey Coding.defaults ∧
    ∃ declaration, compiled.model.find? fragment.declaration = some declaration ∧
      (∀ decoders, fragment.function.body.Contains (.object decoders) →
        (∃ type ∈ declaration.body.walk, ReadsApart type.ownLabels decoders) ∧
        ∀ table, Decoding.DecodesEach table (.object decoders) decoders [] .record) ∧
      ∀ discriminant cases, fragment.function.body.Contains (.tagged discriminant cases) →
        (cases.map (·.tag)).Nodup ∧
        ∃ constructors, declaration.body = .sum constructors ∧
          List.Forall₂ (fun constructor case =>
            case.tag = constructor.name ∧ case.constructor = constructor.name ∧
            ReadsApart (constructor.fields.map (·.toFieldLabel)) case.fields ∧
            discriminant ∉ case.fields.map (·.key) ∧
            ∀ table, Decoding.DecodesEach table (.tagged discriminant cases) case.fields
              [(discriminant, .string case.tag)] (.constructor case.constructor))
            constructors cases := by
  have wellScoped := compiled_wellScoped compiles
  have wellKeyed := compiled_wellKeyed coding compiles
  have wire : Coding.fieldKey compiled.defaults = Coding.fieldKey Coding.defaults := by
    rw [compiled_defaults compiles]
    exact Coding.fieldKey_mergedDefaults coding
  obtain ⟨declaration, found, built⟩ := find?_of_mem_fragments wellScoped.names member
  have among := List.mem_of_find?_eq_some found
  have keys := wellKeyed.keys declaration among
  have names := wellKeyed.names declaration among
  refine ⟨wire, declaration, found, ?_, ?_⟩
  · intro decoders contains
    obtain ⟨type, inside, apart⟩ :=
      Site.readsApart_of_arises wire keys names (Site.arises_of_kind built contains rfl)
    exact ⟨⟨type, inside, apart⟩, fun table => Decoding.decodesEach_object apart.keys apart.names⟩
  · intro discriminant cases contains
    -- Tags are decoded at the root only, so that the declaration is a sum.
    have root := Site.eq_of_kind built contains nofun
    rw [← root] at built
    obtain ⟨constructors, isSum, tagged, shape⟩ := Site.cases_of_forBody built
    have tags : (cases.map (·.tag)).Nodup := by
      have distinct := wellScoped.constructors declaration among
      rw [isSum] at distinct
      exact map_eq_of_forall₂ shape (fun _ _ same => same.1.symm) ▸ distinct
    obtain ⟨length, each⟩ := List.forall₂_iff_zip.1 shape
    refine ⟨tags, constructors, isSum, List.forall₂_iff_zip.2 ⟨length, fun {c case} pair => ?_⟩⟩
    obtain ⟨tag, name, scope, builtFields⟩ := each pair
    obtain ⟨inSum, inCases⟩ := List.of_mem_zip pair
    have group : c.fields.map (·.toFieldLabel) ∈ declaration.body.constructorLabels := by
      rw [isSum]
      exact List.mem_map_of_mem inSum
    have inGroups := List.mem_append_left (declaration.body.walk.map (·.ownLabels)) group
    have apart :=
      Site.readsApart_of_forFields wire (keys _ inGroups) (names _ inGroups) builtFields
    have notTag : discriminant ∉ case.fields.map (·.key) := by
      rw [compiled_defaults compiles] at chosen
      rw [tagged, Options.tagField_eq_tagField coding chosen,
        ← map_eq_of_forall₂ apart.fields fun _ _ same => same.2.symm]
      exact wellKeyed.tags declaration among _ group
    refine ⟨tag, name, apart, notTag, fun table => ?_⟩
    exact Decoding.decodesEach_tagged tags inCases (List.nodup_cons.2 ⟨notTag, apart.keys⟩)
      apart.names

end Compiled

def treeModel : Model where
  properties := .ofList [(Coding.tagFieldSlot, .string "kind")]
  declarations := treeDraft.declarations.map (classifyReferences treeDraft.declarations)

section Program

attribute [local instance] Pattern.regexEngine

theorem generated_unambiguous_tree :
    ∃ compiled options fragment cases,
      compile treeDraft (.ofList [(Coding.tagFieldSlot, .string "kind")]) [.coding] = .ok compiled ∧
      Options.ofModel compiled.defaults compiled.model = .ok options ∧
      fragment ∈ (generate compiled.defaults options compiled.model).fragments ∧
      fragment.function.body = .tagged "kind" cases ∧
      cases.map (fun case => case.fields.map (·.key)) = [[], ["below", "label"]] ∧
      (cases.map (·.tag)).Nodup ∧
      ∀ case ∈ cases, "kind" ∉ case.fields.map (·.key) ∧
        ∀ table, Decoding.DecodesEach table (.tagged "kind" cases) case.fields
          [("kind", .string case.tag)] (.constructor case.constructor) := by
  have compiles : compile treeDraft (.ofList [(Coding.tagFieldSlot, .string "kind")]) [.coding] =
      .ok ⟨treeModel, Processor.mergedDefaults [.coding], [.coding]⟩ := rfl
  refine ⟨_, ⟨.standalone, "kind", ["Generated"]⟩, _, _, compiles, rfl, List.mem_cons_self, rfl,
    rfl, ?_⟩
  obtain ⟨_, _, _, _, sums⟩ :=
    generated_unambiguous (by decide) compiles rfl List.mem_cons_self
  obtain ⟨tags, constructors, _, each⟩ := sums "kind" _ .refl
  obtain _ | ⟨⟨_, _, _, leaf⟩, _ | ⟨⟨_, _, _, node⟩, _ | _⟩⟩ := each
  exact ⟨tags, List.forall_mem_cons.2 ⟨leaf, List.forall_mem_singleton.2 node⟩⟩

end Program

end WireModel
