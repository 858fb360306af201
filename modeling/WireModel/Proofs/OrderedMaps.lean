import WireModel.OrderedMap
import Mathlib.Tactic.Common

/-! Entries and look-ups of maps, and of maps that are filled from others. -/
namespace WireModel

variable {α : Type}

theorem mem_of_findEntry {key : String} {value : α} {entries : List (String × α)}
    (h : findEntry key entries = some value) : (key, value) ∈ entries := by
  induction entries with
  | nil => simp [findEntry] at h
  | cons head rest ih =>
    obtain ⟨other, first⟩ := head
    rw [findEntry] at h
    split at h
    · next same =>
      cases h
      simp [same]
    · exact List.mem_cons_of_mem _ (ih h)

theorem Increasing.nodup {entries : List (String × α)} (h : Increasing entries) :
    (entries.map Prod.fst).Nodup := by
  refine List.pairwise_map.2 (h.imp fun {first second} below same => ?_)
  rw [same] at below
  exact String.lt_irrefl _ below

theorem findEntry_eq_some {key : String} {value : α} {entries : List (String × α)}
    (h : (entries.map Prod.fst).Nodup) :
    findEntry key entries = some value ↔ (key, value) ∈ entries := by
  refine ⟨mem_of_findEntry, fun member => ?_⟩
  induction entries with
  | nil => cases member
  | cons head rest ih =>
    obtain ⟨other, first⟩ := head
    obtain ⟨new, tail⟩ := List.nodup_cons.1 h
    rw [findEntry]
    rcases List.mem_cons.1 member with same | later
    · simp [Prod.mk.inj same]
    · have differs : key ≠ other := by
        rintro rfl
        exact new (List.mem_map.2 ⟨_, later, rfl⟩)
      rw [if_neg differs]
      exact ih tail later

theorem Increasing.findEntry_of_mem {key : String} {value : α} {entries : List (String × α)}
    (h : Increasing entries) (member : (key, value) ∈ entries) :
    findEntry key entries = some value :=
  (findEntry_eq_some h.nodup).2 member

theorem Increasing.keys_insertEntry {key : String} {value old : α} {entries : List (String × α)}
    (h : Increasing entries) (there : findEntry key entries = some old) :
    (WireModel.insertEntry key value entries).map Prod.fst = entries.map Prod.fst := by
  induction entries with
  | nil => cases there
  | cons head rest ih =>
    obtain ⟨other, first⟩ := head
    obtain ⟨above, tail⟩ := List.pairwise_cons.1 h
    rw [WireModel.insertEntry]
    split
    · next below =>
      have absent : findEntry key ((other, first) :: rest) = none := by
        refine findEntry_eq_none_of_lt (List.forall_mem_cons.2 ⟨below, fun entry member => ?_⟩)
        exact String.lt_trans below (above entry member)
      cases absent.symm.trans there
    · split
      · next same => simp [same]
      · next differs =>
        rw [findEntry, if_neg differs] at there
        rw [List.map_cons, ih tail there, List.map_cons]

theorem findEntry_eq_none {key : String} {entries : List (String × α)}
    (h : key ∉ entries.map Prod.fst) : findEntry key entries = none := by
  cases found : findEntry key entries with
  | none => rfl
  | some value => exact absurd (List.mem_map_of_mem (mem_of_findEntry found)) h

theorem not_mem_of_findEntry {key : String} {entries : List (String × α)}
    (absent : findEntry key entries = none) : key ∉ entries.map Prod.fst := by
  induction entries with
  | nil => simp
  | cons head rest ih =>
    obtain ⟨other, value⟩ := head
    rw [findEntry] at absent
    split at absent
    · cases absent
    · next differs => exact List.not_mem_cons_of_ne_of_not_mem differs (ih absent)

@[simp]
theorem findEntry_append (key : String) (entries others : List (String × α)) :
    findEntry key (entries ++ others) = (findEntry key entries).or (findEntry key others) := by
  induction entries with
  | nil => rfl
  | cons head rest ih =>
    obtain ⟨other, value⟩ := head
    simp only [List.cons_append, findEntry, ih]
    split <;> rfl

theorem findEntry_map {β : Type} (f : α → β) (key : String) (entries : List (String × α)) :
    findEntry key (entries.map fun (key, value) => (key, f value)) =
      (findEntry key entries).map f := by
  induction entries with
  | nil => rfl
  | cons head rest ih =>
    rw [List.map_cons, findEntry, ih, findEntry]
    split <;> rfl

theorem findEntry_eq_some_iff {key : String} {value : α} {entries : List (String × α)} :
    findEntry key entries = some value ↔
      ∃ before after, entries = before ++ (key, value) :: after ∧ key ∉ before.map Prod.fst := by
  constructor
  · intro found
    induction entries with
    | nil => cases found
    | cons head rest ih =>
      obtain ⟨other, first⟩ := head
      rw [findEntry] at found
      split at found
      · next same =>
        cases found
        exact ⟨[], rest, by rw [same]; rfl, List.not_mem_nil⟩
      · next differs =>
        obtain ⟨before, after, rfl, absent⟩ := ih found
        exact ⟨(other, first) :: before, after, rfl,
          List.not_mem_cons_of_ne_of_not_mem differs absent⟩
  · rintro ⟨before, after, rfl, absent⟩
    rw [findEntry_append, findEntry_eq_none absent, findEntry, if_pos rfl]
    rfl

def LastFor (entries : List (String × α)) (key : String) (value : α) : Prop :=
  ∃ before after, entries = before ++ (key, value) :: after ∧ key ∉ after.map Prod.fst

theorem findEntry_reverse_eq_some {key : String} {value : α} {entries : List (String × α)} :
    findEntry key entries.reverse = some value ↔ LastFor entries key value := by
  rw [findEntry_eq_some_iff]
  constructor
  · rintro ⟨before, after, whole, absent⟩
    refine ⟨after.reverse, before.reverse, ?_, by simpa using absent⟩
    rw [← List.reverse_reverse entries, whole]
    simp
  · rintro ⟨before, after, rfl, absent⟩
    exact ⟨after.reverse, before.reverse, by simp, by simpa using absent⟩

namespace OrderedMap

theorem mem_entries {map : OrderedMap α} {key : String} {value : α} :
    (key, value) ∈ map.entries ↔ map.get? key = some value :=
  ⟨map.increasing.findEntry_of_mem, mem_of_findEntry⟩

theorem keys_insert {map : OrderedMap α} {key : String} {value old : α}
    (there : map.get? key = some old) : (map.insert key value).keys = map.keys :=
  map.increasing.keys_insertEntry there

/-- Of several entries of one key the last counts. -/
@[simp]
theorem get?_insertAll (map : OrderedMap α) (entries : List (String × α)) (key : String) :
    (map.insertAll entries).get? key = (findEntry key entries.reverse).or (map.get? key) := by
  induction entries generalizing map with
  | nil => rfl
  | cons head rest ih =>
    obtain ⟨other, value⟩ := head
    have step := ih (map.insert other value)
    rw [get?_insert] at step
    rw [insertAll, List.foldl_cons, ← insertAll, step, List.reverse_cons, findEntry_append,
      Option.or_assoc, findEntry, findEntry]
    split <;> rfl

@[simp]
theorem get?_ofList (entries : List (String × α)) (key : String) :
    (ofList entries).get? key = findEntry key entries.reverse := by
  rw [ofList, get?_insertAll, get?_empty, Option.or_none]

theorem get?_insertAll_of_nodup (map : OrderedMap α) {entries : List (String × α)}
    (h : (entries.map Prod.fst).Nodup) (key : String) :
    (map.insertAll entries).get? key = (findEntry key entries).or (map.get? key) := by
  have reversed : (entries.reverse.map Prod.fst).Nodup :=
    ((List.reverse_perm entries).map Prod.fst).nodup_iff.2 h
  have same : findEntry key entries.reverse = findEntry key entries := by
    apply Option.ext
    intro value
    rw [findEntry_eq_some reversed, findEntry_eq_some h, List.mem_reverse]
  rw [get?_insertAll, same]

theorem ofList_eq_of_perm {entries others : List (String × α)} (perm : entries.Perm others)
    (distinct : (entries.map Prod.fst).Nodup) : ofList entries = ofList others := by
  have distinct' := (perm.map Prod.fst).nodup_iff.1 distinct
  refine ext_get? fun key => Option.ext fun value => ?_
  rw [ofList, ofList, get?_insertAll_of_nodup _ distinct, get?_insertAll_of_nodup _ distinct',
    get?_empty, Option.or_none, Option.or_none, findEntry_eq_some distinct,
    findEntry_eq_some distinct', perm.mem_iff]

@[simp]
theorem get?_merge (map other : OrderedMap α) (key : String) :
    (map.merge other).get? key = (other.get? key).or (map.get? key) :=
  map.get?_insertAll_of_nodup other.increasing.nodup key

end OrderedMap

end WireModel
