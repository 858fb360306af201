import WireModel.Json.Basic

/-! The forms that records and choices take in JSON. A record is an object with a member for each
field, or an array of the fields in order; a choice is its name, or an object with its name as the
only key. What is read from a form is always smaller than the form, which is what makes readers
of nested values end. -/
namespace WireModel.Transport

/-- Nested values are read as they stand, or from a copy. A copy is read with more patience: there
an empty object stands for nothing, and records of choices may be arrays. -/
inductive Mode where
  | direct
  | buffered
deriving DecidableEq, Repr

def countKey (key : String) (members : List (String × Json)) : Nat :=
  members.countP fun member => member.1 = key

/-- The values of fields in an object. No field may be there twice; other members do not matter. -/
def memberFields? (names : List String) (members : List (String × Json)) :
    Option (List (Option Json)) :=
  if names.all fun name => countKey name members ≤ 1 then
    some (names.map fun name => findEntry name members)
  else none

/-- The values of fields in an array, which may end early. -/
def itemFields? (count : Nat) (items : List Json) : Option (List (Option Json)) :=
  if items.length ≤ count then
    some (items.map some ++ List.replicate (count - items.length) none)
  else none

def recordFields? (names : List String) : Json → Option (List (Option Json))
  | .object members => memberFields? names members
  | .array items => itemFields? names.length items
  | _ => none

/-- The values of the fields of a record that has to be an object. -/
def objectFields? (names : List String) : Json → Option (List (Option Json))
  | .object members => memberFields? names members
  | _ => none

def choiceFields? (mode : Mode) (names : List String) (json : Json) :
    Option (List (Option Json)) :=
  match mode with
  | .direct => objectFields? names json
  | .buffered => recordFields? names json

/-- The name of a choice, with its content if it has one. -/
def choice? : Json → Option (String × Option Json)
  | .string name => some (name, none)
  | .object [(name, content)] => some (name, some content)
  | _ => none

def isNothing (mode : Mode) : Option Json → Bool
  | none => true
  | some .null => true
  | some (.object []) => mode = .buffered
  | some _ => false

def name? (mode : Mode) (json : Json) : Option String :=
  match choice? json with
  | some (name, content) => if isNothing mode content then some name else none
  | none => none

/-- A choice that names itself in one member and has its content in another. -/
structure Tagged where
  tag : Json
  content : Option Json
  /-- How the content is read: a copy is made of a content that stands before the tag. -/
  mode : Mode

def tagged? (mode : Mode) (tagKey contentKey : String) : Json → Option Tagged
  | .object members =>
    match memberFields? [tagKey, contentKey] members with
    | some [some tag, content] =>
      let first := members.find? fun member => member.1 = tagKey || member.1 = contentKey
      let early := first.any fun member => member.1 = contentKey
      some ⟨tag, content, if early then .buffered else mode⟩
    | _ => none
  | .array [tag, content] => some ⟨tag, some content, mode⟩
  | _ => none

/-- Reads a field that may be left out. -/
def defaulting {α : Type} (read : Json → Option α) (default : α) : Option Json → Option α
  | none => some default
  | some json => read json

/-- Reads a field that may be left out or null. -/
def optional {α : Type} (read : Json → Option α) : Option Json → Option (Option α)
  | none | some .null => some none
  | some json => (read json).map some

def text? : Json → Option String
  | .string value => some value
  | _ => none

def bool? : Json → Option Bool
  | .bool value => some value
  | _ => none

def int64? : Json → Option Int64
  | .number (.integer value) => some value
  | _ => none

def whole? : Json → Option Nat
  | .number (.integer value) => if 0 ≤ value then some value.toInt.toNat else none
  | .number (.natural value) => some value.toNat
  | _ => none

def uint32? (json : Json) : Option UInt32 :=
  (whole? json).bind fun n => if n < UInt32.size then some (UInt32.ofNat n) else none

def uint64? (json : Json) : Option UInt64 :=
  (whole? json).map UInt64.ofNat

def texts? : Json → Option (List String)
  | .array items => items.mapM text?
  | _ => none

theorem sizeOf_lt_of_memberFields? {names : List String} {members : List (String × Json)}
    {values : List (Option Json)} (h : memberFields? names members = some values) {json : Json}
    (mem : some json ∈ values) : sizeOf json < sizeOf members := by
  unfold memberFields? at h
  split at h
  · cases h
    obtain ⟨name, -, found⟩ := List.mem_map.1 mem
    clear mem
    rename_i single
    clear single
    induction members with
    | nil => simp [findEntry] at found
    | cons head rest ih =>
      obtain ⟨key, value⟩ := head
      simp only [findEntry] at found
      split at found
      · cases found
        simp
        omega
      · have := ih found
        simp
        omega
  · simp at h

theorem sizeOf_lt_of_recordFields? {names : List String} {form : Json}
    {values : List (Option Json)} (h : recordFields? names form = some values) {json : Json}
    (mem : some json ∈ values) : sizeOf json < sizeOf form := by
  cases form with
  | object members =>
    have := sizeOf_lt_of_memberFields? h mem
    simp
    omega
  | array items =>
    simp only [recordFields?, itemFields?] at h
    split at h
    · cases h
      rcases List.mem_append.1 mem with mem | mem
      · obtain ⟨item, member, same⟩ := List.mem_map.1 mem
        cases same
        have := List.sizeOf_lt_of_mem member
        simp
        omega
      · simp at mem
    · simp at h
  | null => simp [recordFields?] at h
  | bool => simp [recordFields?] at h
  | number => simp [recordFields?] at h
  | string => simp [recordFields?] at h

theorem sizeOf_lt_of_objectFields? {names : List String} {form : Json}
    {values : List (Option Json)} (h : objectFields? names form = some values) {json : Json}
    (mem : some json ∈ values) : sizeOf json < sizeOf form := by
  cases form with
  | object members =>
    have := sizeOf_lt_of_memberFields? h mem
    simp
    omega
  | _ => simp [objectFields?] at h

theorem sizeOf_lt_of_choiceFields? {mode : Mode} {names : List String} {form : Json}
    {values : List (Option Json)} (h : choiceFields? mode names form = some values) {json : Json}
    (mem : some json ∈ values) : sizeOf json < sizeOf form := by
  cases mode
  · exact sizeOf_lt_of_objectFields? h mem
  · exact sizeOf_lt_of_recordFields? h mem

theorem sizeOf_lt_of_choice? {form json : Json} {name : String}
    (h : choice? form = some (name, some json)) : sizeOf json < sizeOf form := by
  unfold choice? at h
  split at h
  · simp at h
  · cases h
    simp
    omega
  · simp at h

theorem sizeOf_lt_of_tagged? {mode : Mode} {tagKey contentKey : String} {form content : Json}
    {tagged : Tagged} (h : tagged? mode tagKey contentKey form = some tagged)
    (there : tagged.content = some content) : sizeOf content < sizeOf form := by
  unfold tagged? at h
  split at h
  · split at h
    · next found =>
      cases h
      simp only at there
      have : sizeOf content < _ := sizeOf_lt_of_memberFields? found (by simp [there])
      simp
      omega
    · simp at h
  · cases h
    simp only [Option.some.injEq] at there
    subst there
    simp
    omega
  · simp at h

end WireModel.Transport
