/-! Maps from text keys, kept as entries in increasing order of their keys. Two maps with the same
look-ups are equal, so the order in which a map was filled cannot be seen. -/
namespace WireModel

/-- Sets the entry of a key in a list of entries with increasing keys. -/
def insertEntry {α : Type} (key : String) (value : α) : List (String × α) → List (String × α)
  | [] => [(key, value)]
  | (other, old) :: rest =>
    if key < other then (key, value) :: (other, old) :: rest
    else if key = other then (key, value) :: rest
    else (other, old) :: insertEntry key value rest

def findEntry {α : Type} (key : String) : List (String × α) → Option α
  | [] => none
  | (other, value) :: rest => if key = other then some value else findEntry key rest

def Increasing {α : Type} (entries : List (String × α)) : Prop :=
  entries.Pairwise fun a b => a.1 < b.1

variable {α : Type}

theorem mem_insertEntry {key : String} {value : α} {entry : String × α}
    {entries : List (String × α)} (h : entry ∈ insertEntry key value entries) :
    entry = (key, value) ∨ entry ∈ entries := by
  induction entries with
  | nil => simpa [insertEntry] using h
  | cons head rest ih =>
    obtain ⟨other, old⟩ := head
    rw [insertEntry] at h
    split at h
    · simpa using h
    · split at h
      · grind
      · grind

theorem Increasing.insertEntry {entries : List (String × α)} (h : Increasing entries)
    (key : String) (value : α) : Increasing (insertEntry key value entries) := by
  induction entries with
  | nil => simp [Increasing, WireModel.insertEntry]
  | cons head rest ih =>
    obtain ⟨other, old⟩ := head
    obtain ⟨above, tail⟩ := List.pairwise_cons.1 h
    rw [WireModel.insertEntry]
    split
    · next below =>
      refine List.pairwise_cons.2 ⟨fun entry member => ?_, h⟩
      rcases List.mem_cons.1 member with rfl | member
      · exact below
      · exact String.lt_trans below (above entry member)
    · next notBelow =>
      split
      · next same =>
        subst same
        exact List.pairwise_cons.2 ⟨above, tail⟩
      · next differs =>
        refine List.pairwise_cons.2 ⟨fun entry member => ?_, ih tail⟩
        rcases mem_insertEntry member with rfl | member
        · grind
        · exact above entry member

theorem findEntry_insertEntry (key other : String) (value : α) (entries : List (String × α)) :
    findEntry other (insertEntry key value entries) =
      if other = key then some value else findEntry other entries := by
  induction entries with
  | nil => simp [insertEntry, findEntry]
  | cons head rest ih =>
    obtain ⟨first, old⟩ := head
    rw [insertEntry]
    split
    · simp [findEntry]
    · split
      · next same =>
        subst same
        simp only [findEntry]
        split <;> rfl
      · next differs =>
        simp only [findEntry, ih]
        grind

theorem findEntry_eq_none_of_lt {key : String} {entries : List (String × α)}
    (h : ∀ entry ∈ entries, key < entry.1) : findEntry key entries = none := by
  induction entries with
  | nil => rfl
  | cons head rest ih =>
    obtain ⟨other, value⟩ := head
    have below : key < other := h (other, value) (by simp)
    have differs : key ≠ other := by grind
    simp only [findEntry, if_neg differs]
    exact ih fun entry member => h entry (by simp [member])

/-- Entries with increasing keys are determined by their look-ups. -/
theorem Increasing.eq_of_findEntry {left right : List (String × α)} (hl : Increasing left)
    (hr : Increasing right) (h : ∀ key, findEntry key left = findEntry key right) :
    left = right := by
  induction left generalizing right with
  | nil =>
    cases right with
    | nil => rfl
    | cons head rest =>
      have := h head.1
      simp [findEntry] at this
  | cons head rest ih =>
    obtain ⟨key, value⟩ := head
    obtain ⟨above, tail⟩ := List.pairwise_cons.1 hl
    cases right with
    | nil =>
      have := h key
      simp [findEntry] at this
    | cons head' rest' =>
      obtain ⟨key', value'⟩ := head'
      obtain ⟨above', tail'⟩ := List.pairwise_cons.1 hr
      have noneLeft : findEntry key rest = none := findEntry_eq_none_of_lt above
      have noneRight : findEntry key' rest' = none := findEntry_eq_none_of_lt above'
      have sameKey : key = key' := by
        by_cases below : key < key'
        · have : findEntry key ((key', value') :: rest') = none :=
            findEntry_eq_none_of_lt fun entry member => by
              rcases List.mem_cons.1 member with rfl | member
              · exact below
              · exact String.lt_trans below (above' entry member)
          have found := h key
          rw [this] at found
          simp [findEntry] at found
        · by_cases above'' : key' < key
          · have : findEntry key' ((key, value) :: rest) = none :=
              findEntry_eq_none_of_lt fun entry member => by
                rcases List.mem_cons.1 member with rfl | member
                · exact above''
                · exact String.lt_trans above'' (above entry member)
            have found := h key'
            rw [this] at found
            simp [findEntry] at found
          · grind
      subst sameKey
      have sameValue := h key
      simp only [findEntry, if_true, Option.some.injEq] at sameValue
      subst sameValue
      congr 1
      refine ih tail tail' fun other => ?_
      have found := h other
      simp only [findEntry] at found
      by_cases same : other = key
      · rw [same, noneLeft, noneRight]
      · simpa [same] using found

structure OrderedMap (α : Type) where
  entries : List (String × α)
  increasing : Increasing entries

namespace OrderedMap

instance [DecidableEq α] : DecidableEq (OrderedMap α) := fun left right =>
  if h : left.entries = right.entries then
    .isTrue (by cases left; cases right; simp_all)
  else .isFalse fun same => h (by rw [same])

def empty : OrderedMap α := ⟨[], List.Pairwise.nil⟩

instance : EmptyCollection (OrderedMap α) := ⟨empty⟩

instance : Inhabited (OrderedMap α) := ⟨empty⟩

def get? (map : OrderedMap α) (key : String) : Option α :=
  findEntry key map.entries

def contains (map : OrderedMap α) (key : String) : Bool :=
  (map.get? key).isSome

def insert (map : OrderedMap α) (key : String) (value : α) : OrderedMap α :=
  ⟨insertEntry key value map.entries, map.increasing.insertEntry key value⟩

def keys (map : OrderedMap α) : List String :=
  map.entries.map (·.1)

def size (map : OrderedMap α) : Nat :=
  map.entries.length

def isEmpty (map : OrderedMap α) : Bool :=
  map.entries.isEmpty

/-- Sets every entry of a list, so that of two entries of one key the later counts. -/
def insertAll (map : OrderedMap α) (entries : List (String × α)) : OrderedMap α :=
  entries.foldl (fun map entry => map.insert entry.1 entry.2) map

def ofList (entries : List (String × α)) : OrderedMap α :=
  empty.insertAll entries

/-- The entries of both maps; those of the second win. -/
def merge (map other : OrderedMap α) : OrderedMap α :=
  map.insertAll other.entries

@[simp] theorem get?_empty (key : String) : (empty : OrderedMap α).get? key = none := rfl

theorem get?_insert (map : OrderedMap α) (key other : String) (value : α) :
    (map.insert key value).get? other = if other = key then some value else map.get? other :=
  findEntry_insertEntry key other value map.entries

theorem ext_get? {left right : OrderedMap α} (h : ∀ key, left.get? key = right.get? key) :
    left = right := by
  obtain ⟨entries, increasing⟩ := left
  obtain ⟨entries', increasing'⟩ := right
  obtain rfl := increasing.eq_of_findEntry increasing' h
  rfl

end OrderedMap

end WireModel
