import WireModel.Proofs.OrderedMaps
import WireModel.Transport.Model
import Mathlib.Data.List.Forall2

/-! JSON values that differ in the order of members alone. Where no key repeats, the fields of a
record are found in any order. A reader restores what was written if it reads it back from the
written value with its members in any order. -/
namespace WireModel

private theorem insertEntry_perm {α : Type} {key : String} {value : α} {entries : List (String × α)}
    (absent : key ∉ entries.map Prod.fst) :
    (insertEntry key value entries).Perm ((key, value) :: entries) := by
  induction entries with
  | nil => exact .refl _
  | cons head rest ih =>
    obtain ⟨other, old⟩ := head
    obtain ⟨differs, absent⟩ : key ≠ other ∧ key ∉ rest.map Prod.fst := by simpa using absent
    rw [insertEntry, if_neg differs]
    split
    · exact .refl _
    · exact ((ih absent).cons _).trans (.swap _ _ _)

theorem value_unique {α : Type} {key : String} {value other : α} {entries : List (String × α)}
    (distinct : (entries.map Prod.fst).Nodup) (member : (key, value) ∈ entries)
    (member' : (key, other) ∈ entries) : value = other := by
  have found := (findEntry_eq_some distinct).2 member
  rw [(findEntry_eq_some distinct).2 member'] at found
  exact (Option.some.inj found).symm

namespace Json

inductive Distinct : Json → Prop
  | null : Distinct .null
  | bool {value} : Distinct (.bool value)
  | number {value} : Distinct (.number value)
  | string {value} : Distinct (.string value)
  | array {items} (each : ∀ item ∈ items, Distinct item) : Distinct (.array items)
  | object {members} (keys : (members.map Prod.fst).Nodup)
      (values : ∀ member ∈ members, Distinct member.2) : Distinct (.object members)

/-- Equal but for the order of the members of objects, in which no key repeats. -/
inductive Reordered : Json → Json → Prop
  | null : Reordered .null .null
  | bool {value} : Reordered (.bool value) (.bool value)
  | number {value} : Reordered (.number value) (.number value)
  | string {value} : Reordered (.string value) (.string value)
  | array {items others} (each : List.Forall₂ Reordered items others) :
      Reordered (.array items) (.array others)
  | object {members others} (distinct : (members.map Prod.fst).Nodup)
      (keys : (members.map Prod.fst).Perm (others.map Prod.fst))
      (values : ∀ key value other, (key, value) ∈ members → (key, other) ∈ others →
        Reordered value other) :
      Reordered (.object members) (.object others)

attribute [simp] Distinct.null Distinct.bool Distinct.number Distinct.string

@[simp]
theorem distinct_array {items : List Json} :
    (Json.array items).Distinct ↔ ∀ item ∈ items, item.Distinct :=
  ⟨fun distinct => by cases distinct; assumption, .array⟩

@[simp]
theorem distinct_object {members : List (String × Json)} :
    (Json.object members).Distinct ↔
      (members.map Prod.fst).Nodup ∧ ∀ member ∈ members, member.2.Distinct :=
  ⟨fun distinct => by cases distinct with | object keys values => exact ⟨keys, values⟩,
    fun distinct => .object distinct.1 distinct.2⟩

theorem Distinct.reordered {json : Json} (distinct : json.Distinct) : json.Reordered json := by
  induction distinct with
  | null => exact .null
  | bool => exact .bool
  | number => exact .number
  | string => exact .string
  | array _ ih => exact .array (List.forall₂_same.2 ih)
  | object keys _ ih =>
    refine .object keys (.refl _) fun key value other member member' => ?_
    rw [← value_unique keys member member']
    exact ih (key, value) member

@[simp]
private theorem canonicalItems_eq (items : List Json) :
    canonicalItems items = items.map canonical := by
  induction items with
  | nil => rfl
  | cons item rest ih => rw [canonicalItems, ih, List.map_cons]

theorem canonicalMembers_perm {members : List (String × Json)}
    (distinct : (members.map Prod.fst).Nodup) :
    (canonicalMembers members).Perm (members.map fun member => (member.1, member.2.canonical)) := by
  induction members with
  | nil => exact .refl _
  | cons head rest ih =>
    obtain ⟨key, value⟩ := head
    obtain ⟨absent, distinct⟩ := List.nodup_cons.1 distinct
    have sorted := ih distinct
    have absent' : key ∉ (canonicalMembers rest).map Prod.fst := by
      rw [(sorted.map Prod.fst).mem_iff, List.map_map]
      exact absent
    rw [canonicalMembers, findEntry_eq_none absent']
    exact (insertEntry_perm absent').trans (sorted.cons _)

theorem Distinct.reordered_canonical {json : Json} (distinct : json.Distinct) :
    json.Reordered json.canonical := by
  induction distinct with
  | null => exact .null
  | bool => exact .bool
  | number => exact .number
  | string => exact .string
  | array _ ih =>
    rw [canonical, canonicalItems_eq]
    refine .array ?_
    rw [List.forall₂_map_right_iff, List.forall₂_same]
    exact ih
  | @object members keys _ ih =>
    have sorted := canonicalMembers_perm keys
    refine .object keys ?_ fun key value other member member' => ?_
    · have sameKeys := (sorted.map Prod.fst).symm
      rw [List.map_map] at sameKeys
      exact sameKeys
    · obtain ⟨⟨_, original⟩, among, same⟩ := List.mem_map.1 (sorted.mem_iff.1 member')
      cases same
      rw [← value_unique keys member among]
      exact ih (_, value) member

/-- Members with related values under the same keys, none of which repeats. -/
structure SameFields (members others : List (String × Json)) : Prop where
  distinct : (others.map Prod.fst).Nodup
  related : ∀ key, Option.Rel Reordered (findEntry key members) (findEntry key others)

theorem Reordered.of_object {members : List (String × Json)} {json : Json}
    (reordered : (Json.object members).Reordered json) :
    ∃ others, json = .object others ∧ SameFields members others := by
  cases reordered with
  | @object _ others distinct keys values =>
    have distinct' := keys.nodup_iff.1 distinct
    refine ⟨others, rfl, distinct', fun key => ?_⟩
    by_cases there : key ∈ members.map Prod.fst
    · obtain ⟨⟨_, value⟩, member, rfl⟩ := List.mem_map.1 there
      obtain ⟨⟨_, other⟩, member', same⟩ := List.mem_map.1 (keys.mem_iff.1 there)
      cases same
      rw [(findEntry_eq_some distinct).2 member, (findEntry_eq_some distinct').2 member']
      exact .some (values _ _ _ member member')
    · rw [findEntry_eq_none there, findEntry_eq_none (keys.mem_iff.not.1 there)]
      exact .none

theorem Reordered.of_array {items : List Json} {json : Json}
    (reordered : (Json.array items).Reordered json) :
    ∃ others, json = .array others ∧ List.Forall₂ Reordered items others := by
  cases reordered with
  | array each => exact ⟨_, rfl, each⟩

namespace SameFields

variable {members others : List (String × Json)} (same : SameFields members others)
include same

theorem get (key : String) {written : Json} (found : findEntry key members = some written) :
    ∃ json, findEntry key others = some json ∧ written.Reordered json := by
  have related := same.related key
  rw [found] at related
  generalize findEntry key others = field at related
  cases related with
  | some reordered => exact ⟨_, rfl, reordered⟩

theorem absent {key : String} (missing : findEntry key members = none) :
    findEntry key others = none := by
  have related := same.related key
  rw [missing] at related
  generalize findEntry key others = field at related
  cases related
  rfl

end SameFields

end Json

namespace Transport

open Json

theorem memberFields?_of_nodup {members : List (String × Json)}
    (distinct : (members.map Prod.fst).Nodup) (names : List String) :
    memberFields? names members = some (names.map (findEntry · members)) := by
  have once : ∀ name, countKey name members ≤ 1 := fun name => by
    have count := List.nodup_iff_count.1 distinct name
    rw [List.count_eq_countP, List.countP_map] at count
    exact count
  unfold memberFields?
  rw [if_pos (List.all_eq_true.2 fun name _ => decide_eq_true (once name))]

theorem recordFields?_of_nodup {members : List (String × Json)}
    (distinct : (members.map Prod.fst).Nodup) (names : List String) :
    recordFields? names (.object members) = some (names.map (findEntry · members)) :=
  memberFields?_of_nodup distinct names

theorem objectFields?_of_nodup {members : List (String × Json)}
    (distinct : (members.map Prod.fst).Nodup) (names : List String) :
    objectFields? names (.object members) = some (names.map (findEntry · members)) :=
  memberFields?_of_nodup distinct names

private theorem choiceFields?_of_nodup {members : List (String × Json)}
    (distinct : (members.map Prod.fst).Nodup) (mode : Mode) (names : List String) :
    choiceFields? mode names (.object members) = some (names.map (findEntry · members)) := by
  cases mode with
  | direct => exact objectFields?_of_nodup distinct names
  | buffered => exact recordFields?_of_nodup distinct names

theorem pairFields_of_reordered {members : List (String × Json)} {first second json : Json}
    (firstKey secondKey : String) (hasFirst : findEntry firstKey members = some first)
    (hasSecond : findEntry secondKey members = some second)
    (reordered : (Json.object members).Reordered json) :
    ∃ x y, (∀ mode, choiceFields? mode [firstKey, secondKey] json = some [some x, some y]) ∧
      first.Reordered x ∧ second.Reordered y := by
  obtain ⟨others, rfl, same⟩ := reordered.of_object
  obtain ⟨x, foundFirst, sameFirst⟩ := same.get firstKey hasFirst
  obtain ⟨y, foundSecond, sameSecond⟩ := same.get secondKey hasSecond
  refine ⟨x, y, fun mode => ?_, sameFirst, sameSecond⟩
  rw [choiceFields?_of_nodup same.distinct]
  simp only [List.map, foundFirst, foundSecond]

theorem choice?_of_reordered {name : String} {content json : Json}
    (reordered : (Json.object [(name, content)]).Reordered json) :
    ∃ other, choice? json = some (name, some other) ∧ content.Reordered other := by
  cases reordered with
  | @object _ others _ keys values =>
    obtain ⟨⟨key, other⟩, rfl, rfl⟩ : ∃ member, others = [member] ∧ member.1 = name := by
      have single := List.perm_singleton.1 keys.symm
      cases others with
      | nil => cases single
      | cons member rest =>
        cases rest with
        | nil => exact ⟨member, rfl, List.singleton_inj.1 single⟩
        | cons => cases single
    exact ⟨other, rfl, values _ _ _ (List.mem_singleton_self _) (List.mem_singleton_self _)⟩

/-- The tag is found on either side of the content. -/
theorem tagged?_of_reordered (mode : Mode) (tagKey contentKey : String) {tag : String}
    {members : List (String × Json)} {json : Json}
    (found : findEntry tagKey members = some (.string tag))
    (reordered : (Json.object members).Reordered json) :
    ∃ content contentMode,
      tagged? mode tagKey contentKey json = some ⟨.string tag, content, contentMode⟩ ∧
      Option.Rel Reordered (findEntry contentKey members) content := by
  obtain ⟨others, rfl, same⟩ := reordered.of_object
  obtain ⟨_, there, ⟨⟩⟩ := same.get tagKey found
  have related := same.related contentKey
  rw [tagged?, memberFields?_of_nodup same.distinct, List.map_cons, there]
  exact ⟨_, _, rfl, related⟩

/-- Gives back a value from what was written for it, whatever the order of members. -/
def Restores {α : Type} (read : Json → Option α) (written : Json) (value : α) : Prop :=
  ∀ json, written.Reordered json → read json = some value

section Restores

variable {α : Type} {read : Json → Option α} {written : Json} {value : α}

theorem restores_text (text : String) : Restores text? (.string text) text := by
  rintro _ ⟨⟩
  rfl

theorem restores_bool (value : Bool) : Restores bool? (.bool value) value := by
  rintro _ ⟨⟩
  rfl

theorem restores_int64 (value : Int64) : Restores int64? (.number (.integer value)) value := by
  rintro _ ⟨⟩
  rfl

theorem restores_name (mode : Mode) (name : String) :
    Restores (name? mode) (.string name) name := by
  rintro _ ⟨⟩
  rfl

private theorem whole?_wholeNumber {value : Nat} (bound : value < UInt64.size) :
    whole? (wholeNumber value) = some value := by
  unfold wholeNumber
  split
  · next small =>
    have exact : (Int64.ofNat value).toInt = value := Int64.toInt_ofNat_of_lt small
    have positive : 0 ≤ Int64.ofNat value := by
      rw [Int64.le_iff_toInt_le, exact]
      exact Int.natCast_nonneg value
    rw [whole?, if_pos positive, exact, Int.toNat_natCast]
  · rw [whole?, UInt64.toNat_ofNat_of_lt' bound]

theorem restores_uint32 (value : UInt32) : Restores uint32? (wholeNumber value.toNat) value := by
  rintro _ ⟨⟩
  have bound := value.toNat_lt_size
  rw [uint32?]
  show (whole? (wholeNumber value.toNat)).bind _ = _
  rw [whole?_wholeNumber (Nat.lt_trans bound (by decide)), Option.bind_some, if_pos bound,
    UInt32.ofNat_toNat]

theorem restores_uint64 (value : UInt64) : Restores uint64? (wholeNumber value.toNat) value := by
  rintro _ ⟨⟩
  rw [uint64?]
  show (whole? (wholeNumber value.toNat)).map _ = _
  rw [whole?_wholeNumber value.toNat_lt_size, Option.map_some, UInt64.ofNat_toNat]

theorem mapM_of_restores {items : List α} {write : α → Json} {others : List Json}
    (each : ∀ item ∈ items, Restores read (write item) item)
    (reordered : List.Forall₂ Reordered (items.map write) others) :
    others.mapM read = some items := by
  induction items generalizing others with
  | nil =>
    cases reordered
    rfl
  | cons item rest ih =>
    obtain ⟨first, later, head, tail, rfl⟩ := List.forall₂_cons_left_iff.1 reordered
    rw [List.mapM_cons, each item List.mem_cons_self first head,
      ih (fun item member => each item (List.mem_cons_of_mem _ member)) tail]
    rfl

theorem restores_texts (values : List String) : Restores texts? (texts values) values := by
  intro json reordered
  obtain ⟨others, rfl, each⟩ := reordered.of_array
  exact mapM_of_restores (fun value _ => restores_text value) each

section Field

@[simp]
theorem findEntry_memberIf (key name : String) (write : α → Json) (field : Option α) :
    findEntry key (memberIf name write field) = if key = name then field.map write else none := by
  cases field with
  | none => exact (ite_self _).symm
  | some value => rfl

variable {members others : List (String × Json)} (same : SameFields members others) (key : String)
include same

theorem defaulting_of_same {default : α} (found : findEntry key members = some written)
    (restores : Restores read written value) :
    defaulting read default (findEntry key others) = some value := by
  obtain ⟨json, there, reordered⟩ := same.get key found
  rw [there]
  exact restores json reordered

theorem optional_of_same {write : α → Json} {field : Option α}
    (found : findEntry key members = field.map write) (null : read .null = none)
    (restores : ∀ value, Restores read (write value) value) :
    optional read (findEntry key others) = some field := by
  cases field with
  | none => rw [same.absent found, optional]
  | some value =>
    obtain ⟨json, there, reordered⟩ := same.get key found
    have back := restores value json reordered
    rw [there]
    unfold optional
    split
    · next h => cases h
    · next h =>
      cases h
      rw [null] at back
      cases back
    · next h =>
      cases h
      rw [back, Option.map_some]

end Field

end Restores

end Transport

end WireModel
