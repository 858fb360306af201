import WireModel.Proofs.OrderedMaps
import WireModel.Proofs.PropertyReads

/-! Typed readings are exact. A reading of any kind is decided by the first value of its slot, that
of the node or else the default: it misses the slot where there is no such value, gives its content
where the value is right, and names its spec where it is not. -/
namespace WireModel

variable {α : Type}

namespace Property

def asString? : Property → Option String
  | .string value => some value
  | _ => none

def asLabel? : Property → Option String
  | .enum _ value => some value
  | _ => none

def asSegments? : Property → Option (List String)
  | .qname segments => some segments
  | _ => none

def asFlag? : Property → Option Bool
  | .bool value => some value
  | _ => none

def asOptional? (content? : Property → Option α) : Property → Option (Option α)
  | .absent _ => some none
  | .present _ value => (content? value).map some
  | _ => none

/-- Every value that is right for the spec has a content. -/
def Covers (content? : Property → Option α) (spec : PropertySpec) : Prop :=
  ∀ value : Property, value.Matches spec → (content? value).isSome

private theorem covers_string : Covers asString? .string := by
  intro value fits
  obtain ⟨text, rfl⟩ := matches_string.1 fits
  rfl

private theorem covers_enum (labels : LabelSet) : Covers asLabel? (.enum labels) := by
  intro value fits
  obtain ⟨label, rfl, _⟩ := matches_enum.1 fits
  rfl

private theorem covers_qname : Covers asSegments? .qname := by
  intro value fits
  obtain ⟨segments, rfl⟩ := matches_qname.1 fits
  rfl

private theorem covers_bool : Covers asFlag? .bool := by
  intro value fits
  obtain ⟨flag, rfl⟩ := matches_bool.1 fits
  rfl

theorem Covers.optional {content? : Property → Option α} {inner : PropertySpec}
    (covers : Covers content? inner) : Covers (asOptional? content?) (.optional inner) := by
  intro value fits
  obtain rfl | ⟨content, rfl, inside⟩ := matches_optional.1 fits
  · rfl
  · rw [asOptional?, Option.isSome_map]
    exact covers content inside

end Property

namespace PropertyView

variable {view : PropertyView} {slot : String} {spec : PropertySpec}
  {content? : Property → Option α}

/-- The value that decides a slot: the node's own, or the default if it has none. -/
def Decides (view : PropertyView) (slot : String) (value : Property) : Prop :=
  view.own.get? slot = some value ∨
    view.own.get? slot = none ∧ view.defaults.get? slot = some value

/-- What a typed reading gives. A wrong value of the node is not hidden by a default, and it does
not matter what would be done with a value that was read and has no content. -/
structure ReadsExactly (view : PropertyView) (slot : String) (spec : PropertySpec)
    (content? : Property → Option α) (outcome : Except PropertyError α) : Prop where
  missing : outcome = .error (.missing slot spec) ↔
    view.own.get? slot = none ∧ view.defaults.get? slot = none
  ok : ∀ value, view.Decides slot value →
    (value.Matches spec ↔ ∃ content, content? value = some content ∧ outcome = .ok content)
  wrongKind : ∀ value, view.Decides slot value → ¬value.Matches spec →
    outcome = .error (.wrongKind slot spec value.spec)
  unhidden : ∀ value, view.own.get? slot = some value → ¬value.Matches spec →
    outcome = .error (.wrongKind slot spec value.spec)
  unreached : ∀ fallback : Property → Except PropertyError α,
    outcome = view.read slot spec >>= fun value => (content? value).elim (fallback value) .ok

theorem lookup_of_decides {value : Property} (decides : view.Decides slot value) :
    view.lookup slot = some value :=
  lookup_eq_some.2 decides

theorem lookup_eq_none :
    view.lookup slot = none ↔ view.own.get? slot = none ∧ view.defaults.get? slot = none := by
  unfold lookup
  cases view.own.get? slot <;> simp

section Bind

variable {rest : Property → Except PropertyError α}
  (takes : ∀ value content, content? value = some content → rest value = .ok content)
include takes

private theorem bind_read_of_right {value : Property} (covers : Property.Covers content? spec)
    (there : view.lookup slot = some value) (fits : value.Matches spec) :
    ∃ content, content? value = some content ∧ view.read slot spec >>= rest = .ok content := by
  obtain ⟨content, inside⟩ := Option.isSome_iff_exists.1 (covers value fits)
  refine ⟨content, inside, ?_⟩
  rw [read_eq_ok.2 ⟨there, fits⟩]
  exact takes value content inside

omit takes in
theorem bind_read_of_wrong {value : Property} (there : view.lookup slot = some value)
    (unfit : ¬value.Matches spec) :
    view.read slot spec >>= rest = .error (.wrongKind slot spec value.spec) := by
  rw [read, there]
  simp only [unfit]
  rfl

private theorem bind_read_eq_missing (covers : Property.Covers content? spec) :
    view.read slot spec >>= rest = .error (.missing slot spec) ↔ view.lookup slot = none := by
  constructor
  · intro missing
    cases there : view.lookup slot with
    | none => rfl
    | some value =>
      by_cases fits : value.Matches spec
      · obtain ⟨content, _, ok⟩ := bind_read_of_right takes covers there fits
        rw [ok] at missing
        cases missing
      · rw [bind_read_of_wrong there fits] at missing
        cases missing
  · intro none
    rw [read, none]
    rfl

private theorem bind_read_eq_elim (covers : Property.Covers content? spec)
    (fallback : Property → Except PropertyError α) :
    view.read slot spec >>= rest =
      view.read slot spec >>= fun value => (content? value).elim (fallback value) .ok := by
  cases read : view.read slot spec with
  | error error => rfl
  | ok value =>
    obtain ⟨content, inside⟩ := Option.isSome_iff_exists.1 (covers value (read_eq_ok.1 read).2)
    have taken : (content? value).elim (fallback value) .ok = rest value := by
      rw [inside, takes value content inside]
      rfl
    exact taken.symm

/-- To read the value of a slot and then take its content is exact. -/
theorem readsExactly_bind (covers : Property.Covers content? spec) :
    ReadsExactly view slot spec content? (view.read slot spec >>= rest) where
  missing := by rw [bind_read_eq_missing takes covers, lookup_eq_none]
  ok := by
    intro value decides
    have there := lookup_of_decides decides
    constructor
    · exact bind_read_of_right takes covers there
    · rintro ⟨content, _, ok⟩
      by_contra unfit
      rw [bind_read_of_wrong there unfit] at ok
      cases ok
  wrongKind := fun value decides => bind_read_of_wrong (lookup_of_decides decides)
  unhidden := fun value own => bind_read_of_wrong (lookup_of_decides (.inl own))
  unreached := bind_read_eq_elim takes covers

end Bind

theorem ReadsExactly.of_ok {outcome : Except PropertyError α} {content : α}
    (exact : ReadsExactly view slot spec content? outcome) (ok : outcome = .ok content) :
    ∃ value, value.Matches spec ∧ content? value = some content := by
  rw [exact.unreached fun _ => .error (.missing slot spec)] at ok
  obtain ⟨value, read, taken⟩ := bind_eq_ok.1 ok
  refine ⟨value, (read_eq_ok.1 read).2, ?_⟩
  cases inside : content? value with
  | none =>
    rw [inside] at taken
    cases taken
  | some found =>
    rw [inside] at taken
    cases taken
    rfl

theorem mem_of_contains_ofLabels {labels : List String} {label : String}
    (known : (LabelSet.ofLabels labels).contains label) : label ∈ labels := by
  rw [OrderedMap.contains, LabelSet.ofLabels, OrderedMap.get?_ofList] at known
  obtain ⟨value, found⟩ := Option.isSome_iff_exists.1 known
  simpa using mem_of_findEntry found

variable (view slot)

theorem readsExactly_string :
    ReadsExactly view slot .string Property.asString? (view.string slot) := by
  refine readsExactly_bind (fun value content inside => ?_) Property.covers_string
  cases value <;> cases inside
  rfl

theorem readsExactly_enumeration (labels : List String) :
    ReadsExactly view slot (.ofLabels labels) Property.asLabel? (view.enumeration slot labels) := by
  refine readsExactly_bind (fun value content inside => ?_) (Property.covers_enum _)
  cases value <;> cases inside
  rfl

theorem readsExactly_qname :
    ReadsExactly view slot .qname Property.asSegments? (view.qname slot) := by
  refine readsExactly_bind (fun value content inside => ?_) Property.covers_qname
  cases value <;> cases inside
  rfl

theorem readsExactly_bool : ReadsExactly view slot .bool Property.asFlag? (view.bool slot) := by
  refine readsExactly_bind (fun value content inside => ?_) Property.covers_bool
  cases value <;> cases inside
  rfl

theorem readsExactly_string? :
    ReadsExactly view slot (.optional .string) (Property.asOptional? Property.asString?)
      (view.string? slot) := by
  refine readsExactly_bind (fun value content inside => ?_) Property.covers_string.optional
  cases value with
  | absent => cases inside; rfl
  | present own value => cases value <;> cases inside; rfl
  | _ => cases inside

theorem readsExactly_enumeration? (labels : List String) :
    ReadsExactly view slot (.optional (.ofLabels labels)) (Property.asOptional? Property.asLabel?)
      (view.enumeration? slot labels) := by
  refine readsExactly_bind (fun value content inside => ?_) (Property.covers_enum _).optional
  cases value with
  | absent => cases inside; rfl
  | present own value => cases value <;> cases inside; rfl
  | _ => cases inside

theorem mem_of_enumeration {labels : List String} {label : String}
    (chosen : view.enumeration slot labels = .ok label) : label ∈ labels := by
  obtain ⟨value, fits, inside⟩ := (readsExactly_enumeration view slot labels).of_ok chosen
  obtain ⟨own, rfl, known⟩ := Property.matches_enum.1 fits
  cases inside
  exact mem_of_contains_ofLabels known

theorem mem_of_enumeration? {labels : List String} {label : String}
    (chosen : view.enumeration? slot labels = .ok (some label)) : label ∈ labels := by
  obtain ⟨value, fits, inside⟩ := (readsExactly_enumeration? view slot labels).of_ok chosen
  obtain rfl | ⟨content, rfl, within⟩ := Property.matches_optional.1 fits
  · cases inside
  · obtain ⟨own, rfl, known⟩ := Property.matches_enum.1 within
    cases inside
    exact mem_of_contains_ofLabels known

/-- All six typed readings are exact, and the label that an enumeration gives is one of those it was
asked with, however often they are repeated. -/
theorem typed_reads_exact :
    ReadsExactly view slot .string Property.asString? (view.string slot) ∧
    (∀ labels,
      ReadsExactly view slot (.ofLabels labels) Property.asLabel? (view.enumeration slot labels)) ∧
    ReadsExactly view slot .qname Property.asSegments? (view.qname slot) ∧
    ReadsExactly view slot .bool Property.asFlag? (view.bool slot) ∧
    ReadsExactly view slot (.optional .string) (Property.asOptional? Property.asString?)
      (view.string? slot) ∧
    (∀ labels,
      ReadsExactly view slot (.optional (.ofLabels labels)) (Property.asOptional? Property.asLabel?)
        (view.enumeration? slot labels)) ∧
    (∀ labels label, view.enumeration slot labels = .ok label → label ∈ labels) ∧
    ∀ labels label, view.enumeration? slot labels = .ok (some label) → label ∈ labels :=
  ⟨readsExactly_string view slot, readsExactly_enumeration view slot, readsExactly_qname view slot,
    readsExactly_bool view slot, readsExactly_string? view slot,
    readsExactly_enumeration? view slot, fun _ _ => mem_of_enumeration view slot,
    fun _ _ => mem_of_enumeration? view slot⟩

end PropertyView

end WireModel
