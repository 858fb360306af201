import WireModel.Decoder.Basic
import WireModel.Decoding.Error
import WireModel.Decoding.Value

/-! Running decoders on inputs. References to other declarations are looked up in a table; a
declaration that is entered twice at the same place of the input is refused, which is what makes
every run end: a step goes to a smaller input, or enters a name of the table that was not entered
at this input before, or goes to a part of the decoder. -/
namespace WireModel

abbrev DecoderTable := OrderedMap Decoder

/-- The decoders of fragments; of two for one declaration the later counts. -/
def DecoderTable.ofFragments (fragments : List Fragment) : DecoderTable :=
  .ofList (fragments.map fun fragment => (fragment.declaration, fragment.function.body))

namespace DecoderTable

/-- How many names of a table are not entered yet. -/
def fresh (table : DecoderTable) (entered : List String) : Nat :=
  (table.keys.filter fun name => !entered.contains name).length

theorem mem_keys_of_get? {table : DecoderTable} {name : String} {decoder : Decoder}
    (h : table.get? name = some decoder) : name ∈ table.keys := by
  obtain ⟨entries, increasing⟩ := table
  simp only [OrderedMap.get?, OrderedMap.keys] at h ⊢
  clear increasing
  induction entries with
  | nil => simp [findEntry] at h
  | cons head rest ih =>
    obtain ⟨other, value⟩ := head
    simp only [findEntry] at h
    split at h
    · next same => simp [same]
    · simp [ih h]

theorem fresh_cons_lt {table : DecoderTable} {name : String} {entered : List String}
    (declared : name ∈ table.keys) (new : name ∉ entered) :
    table.fresh (name :: entered) < table.fresh entered := by
  unfold fresh
  generalize table.keys = names at declared
  have step : ∀ names : List String,
      (names.filter fun n => !(name :: entered).contains n).length ≤
        (names.filter fun n => !entered.contains n).length := by
    intro names
    induction names with
    | nil => simp
    | cons head rest ih =>
      simp only [List.filter_cons]
      by_cases h : head ∈ entered
      · simp_all
      · by_cases hn : head = name
        · simp_all
          omega
        · simp_all
  induction names with
  | nil => simp at declared
  | cons head rest ih =>
    have rest_le := step rest
    simp only [List.filter_cons]
    by_cases hn : head = name
    · subst hn
      simp [new]
      simp at rest_le
      omega
    · have declared : name ∈ rest := by
        rcases List.mem_cons.1 declared with h | h
        · exact absurd h.symm hn
        · exact h
      have := ih declared
      by_cases h : head ∈ entered <;> simp_all

end DecoderTable

theorem sizeOf_lt_of_findEntry {key : String} {value : Json} {members : List (String × Json)}
    (h : findEntry key members = some value) : sizeOf value < sizeOf members := by
  induction members with
  | nil => simp [findEntry] at h
  | cons head rest ih =>
    obtain ⟨other, first⟩ := head
    simp only [findEntry] at h
    split at h
    · cases h
      simp
      omega
    · have := ih h
      simp
      omega

namespace Decoding

def expected (path : Path) (expectation : Expectation) (input : Json) : DecodeError :=
  .expected path expectation input.kind

def scalar (path : Path) : Basic → Json → Except DecodeError Value
  | .bool, .bool value => .ok (.bool value)
  | .int, .number (.integer value) => .ok (.int value)
  | .real, .number value => .ok (.real value.toDouble)
  | .string, .string value => .ok (.string value)
  | .bool, input => .error (expected path .bool input)
  | .int, input => .error (expected path .integer input)
  | .real, input => .error (expected path .number input)
  | .string, input => .error (expected path .string input)

variable [Pattern.Engine]

def refined (path : Path) (name : String) : Restriction → Json → Except DecodeError Value
  | .int r, .number (.integer value) =>
    match r.violation? value with
    | none => .ok (.int value)
    | some violation => .error (.refinement path name (Text.integerText value) violation)
  | .string r, .string value =>
    match r.violation? value with
    | none => .ok (.string value)
    | some violation => .error (.refinement path name (Text.quoted value) violation)
  | .int _, input => .error (expected path .integer input)
  | .string _, input => .error (expected path .string input)

def enumeration (path : Path) (name : String) (labels : List String) :
    Json → Except DecodeError Value
  | .string label =>
    if labels.contains label then .ok (.label label)
    else .error (.unknownLabel path name label)
  | input => .error (expected path .string input)

/-- Whether a text is in a refinement, read as the scalar that the key decoder names. -/
def keyScalar (basic : Basic) (raw : String) : Except KeyFault Value :=
  match basic with
  | .int =>
    match Text.readInteger raw with
    | .error fault => .error (.notInteger fault)
    | .ok value =>
      if Text.integerText value = raw then .ok (.int value) else .error .notCanonical
  | _ => .ok (.string raw)

def keyViolation? : Restriction → Value → Option Violation
  | .int r, .int value => r.violation? value
  | .string r, .string value => r.violation? value
  | _, _ => some .wrongScalar

def key (table : DecoderTable) (path : Path) (raw : String) :
    KeyDecoder → Except DecodeError Value
  | .text => .ok (.string raw)
  | .enumeration target =>
    match table.get? target with
    | none => .error (.unknownDecoder target)
    | some (.enumeration name labels) =>
      if labels.contains raw then .ok (.label raw)
      else .error (.invalidKey path raw (.notLabel name))
    | some _ => .error (.invalidKey path raw (.notEnumeration target))
  | .refined target basic =>
    match keyScalar basic raw with
    | .error fault => .error (.invalidKey path raw fault)
    | .ok value =>
      match table.get? target with
      | none => .error (.unknownDecoder target)
      | some (.refined _ restriction) =>
        match keyViolation? restriction value with
        | none => .ok value
        | some violation => .error (.invalidKey path raw (.violates violation))
      | some _ => .error (.invalidKey path raw (.notRefinement target))

mutual

/-- Runs the decoder of a declaration; `entered` names those entered at this input before. -/
def call (table : DecoderTable) (entered : List String) (path : Path) (target : String)
    (input : Json) : Except DecodeError Value :=
  if _new : target ∈ entered then .error (.nonProductiveCycle path target)
  else
    match _found : table.get? target with
    | none => .error (.unknownDecoder target)
    | some decoder => run table (target :: entered) path decoder input
termination_by (sizeOf input, table.fresh entered, 0)
decreasing_by
  apply Prod.Lex.right
  apply Prod.Lex.left
  exact DecoderTable.fresh_cons_lt (DecoderTable.mem_keys_of_get? _found) _new

def run (table : DecoderTable) (entered : List String) (path : Path) (decoder : Decoder)
    (input : Json) : Except DecodeError Value :=
  match decoder with
  | .unit => .ok .unit
  | .primitive basic => scalar path basic input
  | .call target _ => call table entered path target input
  | .list element =>
    match input with
    | .array items => do return .list (← elements table path element 0 items)
    | input => .error (expected path .array input)
  | .set element =>
    match input with
    | .array items => do return .set (Value.distinct (← elements table path element 0 items))
    | input => .error (expected path .array input)
  | .nullable element =>
    match input with
    | .null => .ok .none
    | input => do return .some (← run table entered path element input)
  | .dict keyDecoder value =>
    match input with
    | .object members => do return .dict (← entries table path keyDecoder value members)
    | input => .error (expected path .object input)
  | .object fieldDecoders =>
    match input with
    | .object members => do return .record (← fields table path members [] fieldDecoders)
    | input => .error (expected path .object input)
  | .tagged discriminant cases =>
    match input with
    | .object members =>
      match findEntry discriminant members with
      | some (.string tag) =>
        match cases.find? (·.tag = tag) with
        | some case => do
          return .constructor case.constructor (← fields table path members [] case.fields)
        | none => .error (.unknownTag path tag)
      | some other => .error (expected (path.push (.field discriminant)) .tag other)
      | none => .error (.missingField path discriminant)
    | input => .error (expected path .object input)
  | .enumeration name labels => enumeration path name labels input
  | .refined name restriction => refined path name restriction input
termination_by (sizeOf input, table.fresh entered, sizeOf decoder)

/-- Runs a decoder on each item of an array; `index` is that of the first item. -/
def elements (table : DecoderTable) (path : Path) (element : Decoder) (index : Nat)
    (items : List Json) : Except DecodeError (List Value) :=
  match items with
  | [] => .ok []
  | item :: rest => do
    let first ← run table [] (path.push (.index index)) element item
    return first :: (← elements table path element (index + 1) rest)
termination_by (sizeOf items, 0, 0)

/-- Decodes the keys and values of a map, a key before its value. -/
def entries (table : DecoderTable) (path : Path) (keyDecoder : KeyDecoder) (value : Decoder)
    (members : List (String × Json)) : Except DecodeError (List (Value × Value)) :=
  match members with
  | [] => .ok []
  | (raw, item) :: rest => do
    let first ← key table path raw keyDecoder
    let second ← run table [] (path.push (.entry raw)) value item
    return (first, second) :: (← entries table path keyDecoder value rest)
termination_by (sizeOf members, 0, 0)

/-- Decodes one field from the members of an object. An optional field may be absent or null. -/
def field (table : DecoderTable) (path : Path) (members : List (String × Json))
    (decoder : FieldDecoder Decoder) : Except DecodeError Value :=
  match decoder with
  | ⟨_, key, presence, decoder⟩ =>
    match _found : findEntry key members, presence with
    | none, .required => .error (.missingField path key)
    | none, .optional => .ok .none
    | some value, .required => run table [] (path.push (.field key)) decoder value
    | some .null, .optional => .ok .none
    | some value, .optional => do
      return .some (← run table [] (path.push (.field key)) decoder value)
termination_by (sizeOf members, 0, sizeOf decoder)
decreasing_by
  all_goals
    apply Prod.Lex.left
    exact sizeOf_lt_of_findEntry _found

/-- Decodes fields from the members of an object; those decoded so far are in `done`. -/
def fields (table : DecoderTable) (path : Path) (members : List (String × Json))
    (done : List (String × Value)) (decoders : List (FieldDecoder Decoder)) :
    Except DecodeError (List (String × Value)) :=
  match decoders with
  | [] => .ok done
  | first :: rest => do
    let value ← field table path members first
    fields table path members (insertEntry first.name value done) rest
termination_by (sizeOf members, 0, sizeOf decoders)

end

def decode (table : DecoderTable) (name : String) (input : Json) : Except DecodeError Value :=
  call table [] {} name input

end Decoding

end WireModel
