import WireModel.Proofs.Linking
import WireModel.Proofs.Locations

/-! Which decoders a part of an input is handed to. Decoding asks for an activation if everything
before it was decoded. Where no two fields share a key, each object of the input is handed to at
most one decoder that looks into it. -/
namespace WireModel

namespace Json

private theorem canonical_of_mem_items {items : List Json} (h : CanonicalItems items) {item : Json}
    (member : item ∈ items) : item.Canonical := by
  induction items with
  | nil => cases member
  | cons head rest ih =>
    rw [CanonicalItems] at h
    rcases List.mem_cons.1 member with rfl | member
    · exact h.1
    · exact ih h.2 member

private theorem canonical_of_mem_members {members : List (String × Json)}
    (h : CanonicalMembers members)
    {key : String} {value : Json} (member : (key, value) ∈ members) : value.Canonical := by
  induction members with
  | nil => cases member
  | cons head rest ih =>
    rw [CanonicalMembers] at h
    rcases List.mem_cons.1 member with rfl | member
    · exact h.1
    · exact ih h.2 member

end Json

/-- No two fields that are read from one object share a key. -/
def Decoder.KeysApart : Decoder → Prop
  | .object fields => (fields.map (·.key)).Nodup
  | .tagged _ cases => ∀ case ∈ cases, (case.fields.map (·.key)).Nodup
  | _ => True

/-- Looks into an object, and does not pass it on. -/
def Decoder.TakesObject : Decoder → Prop
  | .object _ | .tagged _ _ | .dict _ _ => True
  | _ => False

namespace Decoding

private theorem locator_eq_of_toward {path : Path} {step step' : Step}
    {location : List Json.Locator} (toward : (path.push step).location <+: location)
    (toward' : (path.push step').location <+: location) : step.locator = step'.locator := by
  have same := List.prefix_of_prefix_length_le toward toward' (by simp)
  simpa using List.IsPrefix.eq_of_length same (by simp)

variable [Pattern.Engine]

/-- The activations that decoding an activation does ask for: all that comes before them was
decoded, and a field that may be absent is not asked for null. -/
inductive Asks (table : DecoderTable) : Activation → Activation → Prop where
  | enter {entered path target style input decoder} (new : target ∉ entered)
      (found : table.get? target = some decoder) :
      Asks table ⟨entered, path, .call target style, input⟩
        ⟨target :: entered, path, decoder, input⟩
  | present {entered path element input} (notNull : input ≠ .null) :
      Asks table ⟨entered, path, .nullable element, input⟩ ⟨entered, path, element, input⟩
  | listItem {entered path element before item after values}
      (earlier : elements table path element 0 before = .ok values) :
      Asks table ⟨entered, path, .list element, .array (before ++ item :: after)⟩
        ⟨[], path.push (.index before.length), element, item⟩
  | setItem {entered path element before item after values}
      (earlier : elements table path element 0 before = .ok values) :
      Asks table ⟨entered, path, .set element, .array (before ++ item :: after)⟩
        ⟨[], path.push (.index before.length), element, item⟩
  | entry {entered path keyDecoder value before raw item after values first}
      (earlier : entries table path keyDecoder value before = .ok values)
      (accepted : key table path raw keyDecoder = .ok first) :
      Asks table ⟨entered, path, .dict keyDecoder value, .object (before ++ (raw, item) :: after)⟩
        ⟨[], path.push (.entry raw), value, item⟩
  | objectField {entered path before field after members values value}
      (earlier : fields table path members [] before = .ok values)
      (found : findEntry field.key members = some value)
      (needed : field.presence = .optional → value ≠ .null) :
      Asks table ⟨entered, path, .object (before ++ field :: after), .object members⟩
        ⟨[], path.push (.field field.key), field.decoder, value⟩
  | caseField {entered path discriminant cases members tag case before field after values value}
      (foundTag : findEntry discriminant members = some (.string tag))
      (foundCase : cases.find? (·.tag = tag) = some case)
      (split : case.fields = before ++ field :: after)
      (earlier : fields table path members [] before = .ok values)
      (found : findEntry field.key members = some value)
      (needed : field.presence = .optional → value ≠ .null) :
      Asks table ⟨entered, path, .tagged discriminant cases, .object members⟩
        ⟨[], path.push (.field field.key), field.decoder, value⟩

variable {table : DecoderTable} {caller callee callee' : Activation}

theorem Asks.calls (asks : Asks table caller callee) : Calls true table caller callee := by
  cases asks with
  | enter new found => exact .enter (fun _ => new) found
  | present notNull => exact .present notNull
  | listItem => exact .listItem (by simp)
  | setItem => exact .setItem (by simp)
  | entry => exact .entry (by simp)
  | objectField _ found => exact .objectField (by simp) found
  | @caseField _ _ _ _ _ tag case _ _ _ _ _ foundTag foundCase split _ found =>
    have sameTag : case.tag = tag := by simpa using List.find?_some foundCase
    exact .caseField (List.mem_of_find?_eq_some foundCase) (sameTag ▸ foundTag) (by simp [split])
      found

/-- Decoding an input as a declaration hands the part at a location to a decoder. -/
def Hands (table : DecoderTable) (name : String) (input : Json) (location : List Json.Locator)
    (decoder : Decoder) : Prop :=
  ∃ handed, Relation.ReflTransGen (Asks table) (.ofName name input) handed ∧
    handed.path.location = location ∧ handed.decoder = decoder

/-- What is asked for stands at the same place or further in; the parts of an object stand further
in than the object. -/
theorem Asks.further (asks : Asks table caller callee) :
    ∃ further, callee.path.location = caller.path.location ++ further ∧
      (caller.decoder.TakesObject → further ≠ []) := by
  cases asks with
  | enter | present => exact ⟨[], by simp, False.elim⟩
  | _ => exact ⟨_, Path.location_push _ _, by simp⟩

private theorem prefix_of_chain (chain : Relation.ReflTransGen (Asks table) caller callee) :
    caller.path.location <+: callee.path.location := by
  induction chain with
  | refl => exact List.prefix_rfl
  | tail _ asks ih =>
    obtain ⟨further, same, _⟩ := asks.further
    rw [same]
    exact ih.trans (List.prefix_append _ _)

/-- At most one of the activations that are asked for stands on the way to a location. -/
theorem Asks.unique (asks : Asks table caller callee) (asks' : Asks table caller callee')
    (apart : caller.decoder.KeysApart) (canonical : caller.input.Canonical)
    {location : List Json.Locator} (toward : callee.path.location <+: location)
    (toward' : callee'.path.location <+: location) : callee = callee' := by
  cases asks with
  | enter _ found =>
    cases asks' with
    | enter _ found' =>
      cases found.symm.trans found'
      rfl
  | present =>
    cases asks'
    rfl
  | @listItem _ _ _ before item after | @setItem _ _ _ before item after =>
    generalize same : before ++ item :: after = items at asks'
    cases asks'
    next before' _ _ _ _ =>
    have index : before.length = before'.length := by
      simpa [Step.locator] using locator_eq_of_toward toward toward'
    obtain ⟨rfl, rest⟩ := List.append_inj same index
    cases rest
    rfl
  | @entry _ _ _ _ before raw item after =>
    have member : (raw, item) ∈ before ++ (raw, item) :: after := by simp
    generalize before ++ (raw, item) :: after = members at asks' canonical member
    cases asks' with
    | @entry _ _ _ _ before' raw' item' after' =>
      have key : raw = raw' := by
        simpa [Step.locator] using locator_eq_of_toward toward toward'
      subst key
      have found := canonical.1.findEntry_of_mem member
      have found' := canonical.1.findEntry_of_mem (show (raw, item') ∈ _ by simp)
      cases found.symm.trans found'
      rfl
  | @objectField _ _ before one after _ _ _ _ found =>
    have member : one ∈ before ++ one :: after := by simp
    generalize before ++ one :: after = decoders at asks' apart member
    cases asks' with
    | @objectField _ _ before' one' after' _ _ _ _ found' =>
      have key : one.key = one'.key := by
        simpa [Step.locator] using locator_eq_of_toward toward toward'
      obtain rfl := List.inj_on_of_nodup_map apart member (by simp) key
      cases found.symm.trans found'
      rfl
  | @caseField _ _ _ _ _ _ case before one after _ _ foundTag foundCase split _ found =>
    cases asks' with
    | @caseField _ _ _ _ _ _ case' before' one' after' _ _ foundTag' foundCase' split' _ found' =>
      cases foundTag.symm.trans foundTag'
      cases foundCase.symm.trans foundCase'
      have key : one.key = one'.key := by
        simpa [Step.locator] using locator_eq_of_toward toward toward'
      obtain rfl := List.inj_on_of_nodup_map (apart case (List.mem_of_find?_eq_some foundCase))
        (show one ∈ case.fields by simp [split]) (show one' ∈ case.fields by simp [split']) key
      cases found.symm.trans found'
      rfl

theorem Asks.canonical (asks : Asks table caller callee) (canonical : caller.input.Canonical) :
    callee.input.Canonical := by
  cases asks with
  | enter | present => exact canonical
  | listItem | setItem => exact Json.canonical_of_mem_items canonical (by simp)
  | @entry _ _ _ _ before raw item after =>
    have member : (raw, item) ∈ before ++ (raw, item) :: after := by simp
    exact Json.canonical_of_mem_members canonical.2 member
  | objectField _ found => exact Json.canonical_of_mem_members canonical.2 (mem_of_findEntry found)
  | caseField _ _ _ _ found =>
    exact Json.canonical_of_mem_members canonical.2 (mem_of_findEntry found)

private theorem location_ne_of_takes (takes : caller.decoder.TakesObject)
    (asks : Asks table caller callee) (chain : Relation.ReflTransGen (Asks table) callee callee') :
    caller.path.location ≠ callee'.path.location := by
  obtain ⟨further, same, deeper⟩ := asks.further
  intro back
  have length := (prefix_of_chain chain).length_le
  rw [same, ← back, List.length_append] at length
  exact deeper takes (List.length_eq_zero_iff.1 (by omega))

/-- Where no two fields share a key, all that takes the object at a location is one activation. -/
theorem handed_unique (inTable : ∀ decoder, table.Holds decoder → decoder.KeysApart)
    (apart : ∀ part, caller.decoder.Contains part → part.KeysApart)
    (canonical : caller.input.Canonical)
    (chain : Relation.ReflTransGen (Asks table) caller callee)
    (chain' : Relation.ReflTransGen (Asks table) caller callee')
    (takes : callee.decoder.TakesObject) (takes' : callee'.decoder.TakesObject)
    (place : callee.path.location = callee'.path.location) : callee = callee' := by
  -- Along the first chain: toward one place there is one way to go, so the second chain goes along.
  induction chain using Relation.ReflTransGen.head_induction_on with
  | refl =>
    rcases Relation.ReflTransGen.cases_head chain' with same | ⟨_, asks, rest⟩
    · exact same
    · exact absurd place (location_ne_of_takes takes asks rest)
  | @head caller asked asks chain ih =>
    rcases Relation.ReflTransGen.cases_head chain' with rfl | ⟨asked', asks', rest⟩
    · exact absurd place.symm (location_ne_of_takes takes' asks chain)
    · obtain rfl : asked = asked' := asks.unique asks' (apart _ .refl) canonical
        (prefix_of_chain chain) (place ▸ prefix_of_chain rest)
      refine ih (fun part contains => ?_) (asks.canonical canonical) rest
      rcases asks.calls.holds_or_enters with holds | ⟨name, found⟩
      · exact apart part (.head holds contains)
      · exact inTable part ⟨name, _, found, contains⟩

theorem Hands.unique {name : String} {input : Json} {location : List Json.Locator}
    {decoder decoder' : Decoder} (handed : Hands table name input location decoder)
    (apart : ∀ decoder, table.Holds decoder → decoder.KeysApart) (canonical : input.Canonical)
    (handed' : Hands table name input location decoder') (takes : decoder.TakesObject)
    (takes' : decoder'.TakesObject) : decoder = decoder' := by
  obtain ⟨one, chain, there, rfl⟩ := handed
  obtain ⟨other, chain', there', rfl⟩ := handed'
  have start : ∀ part, (Activation.ofName name input).decoder.Contains part → part.KeysApart := by
    intro part contains
    rcases Relation.ReflTransGen.cases_head contains with rfl | ⟨_, holds, _⟩
    · trivial
    · cases holds
  rw [handed_unique apart start canonical chain chain' takes takes' (there.trans there'.symm)]

end Decoding

end WireModel
