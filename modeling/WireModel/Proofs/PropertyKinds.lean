import WireModel.Proofs.Slots

/-! The kind of a property. Which spec a property is right for can be read off its value: only the
spec it was made for, and that one exactly if the value is well formed at every depth. So slots that
are defined with values pass their own check exactly if these values are well formed. -/
namespace WireModel

namespace Property

/-- Every label is one of its own set, and what is present was made for the spec beside it. -/
def WellFormed : Property → Prop
  | .string _ | .qname _ | .bool _ | .absent _ => True
  | .enum labels value => labels.contains value
  | .present spec value => value.WellFormed ∧ value.spec = spec

theorem matches_iff {value : Property} {spec : PropertySpec} :
    value.Matches spec ↔ value.spec = spec ∧ value.WellFormed := by
  induction value generalizing spec with
  | string | qname | bool => cases spec <;> simp [Matches, Property.spec, WellFormed]
  | enum labels label =>
    rw [WellFormed]
    cases spec with
    | enum expected =>
      simp only [Matches, Property.spec, Bool.and_eq_true, decide_eq_true_eq,
        PropertySpec.enum.injEq]
      exact and_congr_right fun same => by rw [same]
    | _ => simp [Matches, Property.spec]
  | absent own => cases spec <;> simp [Matches, Property.spec, WellFormed]
  | present own content ih =>
    rw [WellFormed]
    cases spec with
    | optional inner =>
      -- The spec beside the content is the inner one, and the content itself decides the rest.
      simp only [Matches, Property.spec, Bool.and_eq_true, decide_eq_true_eq,
        PropertySpec.optional.injEq, ih]
      constructor
      · rintro ⟨rfl, made, right⟩
        exact ⟨rfl, right, made⟩
      · rintro ⟨rfl, right, made⟩
        exact ⟨rfl, made, right⟩
    | _ => simp [Matches, Property.spec]

@[simp]
theorem matches_spec {value : Property} : value.Matches value.spec ↔ value.WellFormed := by
  rw [matches_iff]
  exact and_iff_right rfl

instance (value : Property) : Decidable value.WellFormed :=
  decidable_of_iff _ matches_spec

theorem spec_unique {value : Property} {spec other : PropertySpec} (h : value.Matches spec)
    (h' : value.Matches other) : spec = other :=
  (matches_iff.1 h).1.symm.trans (matches_iff.1 h').1

@[simp]
theorem wellFormed_wrap {value : Property} : value.wrap.WellFormed ↔ value.WellFormed := by
  rw [wrap, WellFormed]
  exact and_iff_left rfl

end Property

namespace NodeSlots

variable (required : List (String × PropertySpec)) (set : List (String × Property))

@[simp]
private theorem get?_values_define (slot : String) :
    (define required set).values.get? slot = findEntry slot set.reverse :=
  OrderedMap.get?_ofList set slot

/-- The spec of a slot is that of its value, and the required one only where it has no value. -/
@[simp]
theorem get?_specs_define (slot : String) :
    (define required set).specs.get? slot =
      ((findEntry slot set.reverse).map Property.spec).or (findEntry slot required.reverse) := by
  rw [define, OrderedMap.get?_insertAll, OrderedMap.get?_ofList, ← List.map_reverse]
  exact congrArg (Option.or · _) (findEntry_map Property.spec slot set.reverse)

section Supply

variable {required set} {slot : String}

private theorem supplied_of_value {value : Property}
    (given : findEntry slot set.reverse = some value) :
    (∀ spec, (define required set).specs.get? slot = some spec →
      ∃ found, (define required set).values.get? slot = some found ∧ found.Matches spec) ↔
      value.WellFormed := by
  rw [get?_specs_define, get?_values_define, given, ← Property.matches_spec]
  simp

private theorem supplied_of_no_value (unset : findEntry slot set.reverse = none) :
    (∀ spec, (define required set).specs.get? slot = some spec →
      ∃ found, (define required set).values.get? slot = some found ∧ found.Matches spec) ↔
      slot ∉ required.map Prod.fst := by
  have needed : findEntry slot required.reverse = none ↔ slot ∉ required.map Prod.fst := by
    constructor
    · intro none
      simpa using not_mem_of_findEntry none
    · intro absent
      exact findEntry_eq_none (by simpa using absent)
  rw [get?_specs_define, get?_values_define, unset, ← needed]
  simp [Option.eq_none_iff_forall_ne_some]

end Supply

/-- Slots supply themselves if all required ones have a value and every last value is well
formed. -/
theorem supplies_define :
    (PropertyView.mk ∅ (define required set).values).Supplies (define required set).specs ↔
      (∀ entry ∈ required, entry.1 ∈ set.map Prod.fst) ∧
        ∀ slot value, LastFor set slot value → value.WellFormed := by
  constructor
  · intro supplied
    refine ⟨fun entry member => ?_, fun slot value last => ?_⟩
    · by_contra unset
      have noValue : findEntry entry.1 set.reverse = none :=
        findEntry_eq_none (by simpa using unset)
      exact (supplied_of_no_value noValue).1 (supplied entry.1) (List.mem_map_of_mem member)
    · exact (supplied_of_value (findEntry_reverse_eq_some.2 last)).1 (supplied slot)
  · rintro ⟨allSet, allRight⟩ slot
    cases given : findEntry slot set.reverse with
    | some value =>
      exact (supplied_of_value given).2 (allRight slot value (findEntry_reverse_eq_some.1 given))
    | none =>
      refine (supplied_of_no_value given).2 fun needed => ?_
      obtain ⟨entry, member, rfl⟩ := List.mem_map.1 needed
      have unset := not_mem_of_findEntry given
      rw [List.map_reverse, List.mem_reverse] at unset
      exact unset (allSet entry member)

end NodeSlots

/-- A property is right for a spec exactly if it was made for that spec and is well formed; so it is
right for one spec at most, and wrapping keeps it well formed or not. Slots that are defined with
values have no error at a node that sets none of them exactly if all required slots have a value and
the last value of every slot is well formed. -/
theorem kinds_determined :
    (∀ (value : Property) (spec : PropertySpec),
      value.Matches spec ↔ value.spec = spec ∧ value.WellFormed) ∧
    (∀ (value : Property) (spec other : PropertySpec),
      value.Matches spec → value.Matches other → spec = other) ∧
    (∀ value : Property, value.wrap.WellFormed ↔ value.WellFormed) ∧
    ∀ (required : List (String × PropertySpec)) (set : List (String × Property)) (kind : NodeKind)
      (path : String) (position : Position),
      (Node.mk kind path { position }).slotErrors (.define required set) = [] ↔
        (∀ entry ∈ required, entry.1 ∈ set.map Prod.fst) ∧
          ∀ slot value, LastFor set slot value → value.WellFormed := by
  refine ⟨fun value spec => Property.matches_iff, fun value spec other => Property.spec_unique,
    fun value => Property.wellFormed_wrap, fun required set kind path position => ?_⟩
  rw [Node.slotErrors_eq_nil]
  exact NodeSlots.supplies_define required set

example : ¬(Property.present (.optional .string) (.present .string (.bool true))).WellFormed := by
  decide

end WireModel
