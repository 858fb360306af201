import WireModel.Proofs.Calls
import WireModel.Proofs.OrderedMaps

/-! Decoding ends. A call goes to a part of the input, or stays at the input and enters a name of
the table for the first time, or stays there and takes a layer off the decoder. No chain of calls
is infinite, and its length is bounded by the input and the table alone. -/
namespace WireModel

/-- A size that takes the greatest of all items is at least that of each. -/
theorem le_most_of_mem {α : Type} {f : α → Nat} {most : List α → Nat}
    (step : ∀ head rest, most (head :: rest) = max (f head) (most rest)) {item : α}
    {items : List α} (member : item ∈ items) : f item ≤ most items := by
  induction items with
  | nil => simp at member
  | cons head rest ih =>
    rw [step]
    rcases List.mem_cons.1 member with rfl | member
    · exact Nat.le_max_left _ _
    · exact Nat.le_trans (ih member) (Nat.le_max_right _ _)

/-- An item of an array, or the value of a member of an object. -/
inductive Json.Part : Json → Json → Prop where
  | item {items : List Json} {item : Json} (member : item ∈ items) : Part item (.array items)
  | member {members : List (String × Json)} {key : String} {value : Json}
      (member : (key, value) ∈ members) : Part value (.object members)

mutual

def Json.height : Json → Nat
  | .array items => Json.itemsHeight items + 1
  | .object members => Json.membersHeight members + 1
  | _ => 0

def Json.itemsHeight : List Json → Nat
  | [] => 0
  | item :: rest => max item.height (Json.itemsHeight rest)

def Json.membersHeight : List (String × Json) → Nat
  | [] => 0
  | (_, value) :: rest => max value.height (Json.membersHeight rest)

end

private theorem Json.height_le_itemsHeight {item : Json} {items : List Json}
    (member : item ∈ items) : item.height ≤ Json.itemsHeight items :=
  le_most_of_mem (fun _ _ => by rw [Json.itemsHeight]) member

private theorem Json.height_le_membersHeight {key : String} {value : Json}
    {members : List (String × Json)} (member : (key, value) ∈ members) :
    value.height ≤ Json.membersHeight members :=
  le_most_of_mem (f := fun member => member.2.height)
    (fun _ _ => by rw [Json.membersHeight]) member

theorem Json.Part.height_lt {part whole : Json} (h : Part part whole) :
    part.height < whole.height := by
  cases h with
  | item member =>
    rw [Json.height]
    exact Nat.lt_succ_of_le (Json.height_le_itemsHeight member)
  | member member =>
    rw [Json.height]
    exact Nat.lt_succ_of_le (Json.height_le_membersHeight member)

mutual

def Decoder.height : Decoder → Nat
  | .list element | .set element | .nullable element | .dict _ element => element.height + 1
  | .object fields => Decoder.fieldsHeight fields + 1
  | .tagged _ cases => Decoder.casesHeight cases + 1
  | _ => 0

def Decoder.fieldsHeight : List (FieldDecoder Decoder) → Nat
  | [] => 0
  | ⟨_, _, _, decoder⟩ :: rest => max decoder.height (Decoder.fieldsHeight rest)

def Decoder.casesHeight : List (Case Decoder) → Nat
  | [] => 0
  | ⟨_, _, fields⟩ :: rest => max (Decoder.fieldsHeight fields) (Decoder.casesHeight rest)

end

theorem Decoder.height_le_fieldsHeight {field : FieldDecoder Decoder}
    {fields : List (FieldDecoder Decoder)} (member : field ∈ fields) :
    field.decoder.height ≤ Decoder.fieldsHeight fields :=
  le_most_of_mem (f := fun field => field.decoder.height)
    (fun _ _ => by rw [Decoder.fieldsHeight]) member

theorem Decoder.fieldsHeight_le_casesHeight {case : Case Decoder} {cases : List (Case Decoder)}
    (among : case ∈ cases) : Decoder.fieldsHeight case.fields ≤ Decoder.casesHeight cases :=
  le_most_of_mem (f := fun case => Decoder.fieldsHeight case.fields)
    (fun _ _ => by rw [Decoder.casesHeight]) among

namespace DecoderTable

def height (table : DecoderTable) : Nat :=
  table.entries.foldr (fun entry most => max entry.2.height most) 0

theorem height_le {table : DecoderTable} {name : String} {decoder : Decoder}
    (found : table.get? name = some decoder) : decoder.height ≤ table.height :=
  le_most_of_mem (f := fun entry => entry.2.height) (fun _ _ => List.foldr_cons ..)
    (mem_of_findEntry found)

private theorem fresh_le_size (table : DecoderTable) (entered : List String) :
    table.fresh entered ≤ table.size := by
  have := List.length_filter_le (fun name => !entered.contains name) table.keys
  simpa [fresh, OrderedMap.size, OrderedMap.keys] using this

/-- How many calls can follow one another at one input. -/
def callsAtInput (table : DecoderTable) : Nat :=
  (table.size + 1) * (table.height + 1)

/-- How deep calls can nest when an input is decoded. -/
def depthBound (table : DecoderTable) (input : Json) : Nat :=
  (input.height + 1) * table.callsAtInput

end DecoderTable

namespace Decoding

/-- What a call makes smaller. -/
inductive Descends (table : DecoderTable) (caller callee : Activation) : Prop where
  | part (smaller : Json.Part callee.input caller.input)
  | enters (name : String) (sameInput : callee.input = caller.input)
      (declared : name ∈ table.keys) (new : name ∉ caller.entered)
      (entered : callee.entered = name :: caller.entered)
  | unwraps (sameInput : callee.input = caller.input)
      (sameEntered : callee.entered = caller.entered)
      (layer : caller.decoder = .nullable callee.decoder)

theorem Calls.descends {table : DecoderTable} {caller callee : Activation}
    (h : Calls true table caller callee) : Descends table caller callee := by
  cases h with
  | enter new found =>
    exact .enters _ rfl (DecoderTable.mem_keys_of_get? found) (new rfl) rfl
  | present => exact .unwraps rfl rfl rfl
  | listItem there | setItem there => exact .part (.item (List.mem_of_getElem? there))
  | entry member => exact .part (.member member)
  | objectField _ found | caseField _ _ _ found => exact .part (.member (mem_of_findEntry found))

/-- The three sizes, the most significant first. -/
def measure (table : DecoderTable) (activation : Activation) : Nat × Nat × Nat :=
  (activation.input.height, table.fresh activation.entered, activation.decoder.height)

theorem Descends.measure_lt {table : DecoderTable} {caller callee : Activation}
    (h : Descends table caller callee) :
    Prod.Lex (· < ·) (Prod.Lex (· < ·) (· < ·)) (measure table callee) (measure table caller) := by
  cases h with
  | part smaller => exact .left _ _ smaller.height_lt
  | enters name sameInput declared new entered =>
    rw [measure, measure, sameInput, entered]
    exact .right _ (.left _ _ (DecoderTable.fresh_cons_lt declared new))
  | unwraps sameInput sameEntered layer =>
    rw [measure, measure, sameInput, sameEntered, layer]
    exact .right _ (.right _ (Nat.lt_succ_self _))

theorem descends_wellFounded (table : DecoderTable) :
    WellFounded fun callee caller => Descends table caller callee := by
  refine Subrelation.wf (fun h => Descends.measure_lt h) (InvImage.wf (measure table) ?_)
  exact (Prod.lex Nat.lt_wfRel (Prod.lex Nat.lt_wfRel Nat.lt_wfRel)).wf

theorem calls_wellFounded (table : DecoderTable) :
    WellFounded fun callee caller => Calls true table caller callee :=
  Subrelation.wf Calls.descends (descends_wellFounded table)

def rank (table : DecoderTable) (activation : Activation) : Nat :=
  activation.input.height * table.callsAtInput +
    (table.fresh activation.entered * (table.height + 1) + activation.decoder.height)

private theorem callsLeft_lt {table : DecoderTable} {activation : Activation}
    (low : activation.decoder.height ≤ table.height) :
    table.fresh activation.entered * (table.height + 1) + activation.decoder.height <
      table.callsAtInput := by
  have fresh := Nat.mul_le_mul_right (table.height + 1)
    (table.fresh_le_size activation.entered)
  rw [DecoderTable.callsAtInput, Nat.add_one_mul]
  omega

theorem rank_lt_depthBound {table : DecoderTable} {activation : Activation}
    (low : activation.decoder.height ≤ table.height) :
    rank table activation < table.depthBound activation.input := by
  rw [rank, DecoderTable.depthBound, Nat.add_one_mul]
  exact Nat.add_lt_add_left (callsLeft_lt low) _

theorem Calls.height_le {guarded : Bool} {table : DecoderTable} {caller callee : Activation}
    (h : Calls guarded table caller callee) (low : caller.decoder.height ≤ table.height) :
    callee.decoder.height ≤ table.height := by
  cases h with
  | enter _ found => exact DecoderTable.height_le found
  | present | listItem | setItem | entry =>
    rw [Decoder.height] at low
    exact Nat.le_of_succ_le low
  | objectField member =>
    rw [Decoder.height] at low
    exact Nat.le_trans (Decoder.height_le_fieldsHeight member) (Nat.le_of_succ_le low)
  | caseField among _ member =>
    rw [Decoder.height] at low
    have inCases := Nat.le_trans (Decoder.height_le_fieldsHeight member)
      (Decoder.fieldsHeight_le_casesHeight among)
    exact Nat.le_trans inCases (Nat.le_of_succ_le low)

theorem Descends.rank_lt {table : DecoderTable} {caller callee : Activation}
    (h : Descends table caller callee) (low : callee.decoder.height ≤ table.height) :
    rank table callee < rank table caller := by
  cases h with
  | part smaller =>
    have steps := Nat.mul_le_mul_right table.callsAtInput smaller.height_lt
    have left := callsLeft_lt low
    rw [Nat.succ_mul] at steps
    unfold rank
    omega
  | enters name sameInput declared new entered =>
    have fewer := DecoderTable.fresh_cons_lt declared new
    have steps := Nat.mul_le_mul_right (table.height + 1) fewer
    rw [Nat.succ_mul] at steps
    unfold rank
    rw [sameInput, entered]
    omega
  | unwraps sameInput sameEntered layer =>
    unfold rank
    rw [sameInput, sameEntered, layer, Decoder.height]
    omega

variable [Pattern.Engine]

theorem bounded_eq_outcome {table : DecoderTable} {depth : Nat} {activation : Activation}
    (low : activation.decoder.height ≤ table.height) (enough : rank table activation < depth) :
    bounded true table depth activation = outcome table activation := by
  induction depth generalizing activation with
  | zero => omega
  | succ depth ih =>
    rw [outcome_eq_level]
    refine level_congr fun callee called => ?_
    have lowCallee := called.height_le low
    have descends := called.descends.rank_lt lowCallee
    exact ih lowCallee (by omega)

theorem decodeWithin_eq_decode (table : DecoderTable) (name : String) (input : Json)
    {depth : Nat} (enough : table.depthBound input ≤ depth) :
    decodeWithin true table depth name input = settled (decode table name input) := by
  have low : (Activation.ofName name input).decoder.height ≤ table.height := Nat.zero_le _
  rw [← outcome_ofName]
  exact bounded_eq_outcome low (Nat.lt_of_lt_of_le (rank_lt_depthBound low) enough)

/-- Decoding ends for every table, name and input. All that an activation asks for are its calls;
each of them descends, so that no chain of calls is infinite; and the interpreter that gives up
below `depthBound` never does. -/
theorem decode_terminates (table : DecoderTable) :
    (∀ caller, outcome table caller = level table (outcome table) true caller) ∧
    (∀ caller next next', (∀ callee, Calls true table caller callee → next callee = next' callee) →
      level table next true caller = level table next' true caller) ∧
    (∀ caller callee, Calls true table caller callee → Descends table caller callee) ∧
    (WellFounded fun callee caller => Calls true table caller callee) ∧
    ∀ name input depth, table.depthBound input ≤ depth →
      decodeWithin true table depth name input = settled (decode table name input) := by
  refine ⟨outcome_eq_level table, fun _ _ _ => level_congr, fun _ _ => Calls.descends,
    calls_wellFounded table, fun name input depth enough => ?_⟩
  exact decodeWithin_eq_decode table name input enough

end Decoding

end WireModel
