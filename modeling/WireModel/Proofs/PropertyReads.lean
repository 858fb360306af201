import WireModel.Property.View
import WireModel.Proofs.Outcomes

/-! What the typed readings of a view give, in terms of the value that the view finds. -/
namespace WireModel

namespace Property

@[simp]
theorem matches_string {value : Property} :
    value.Matches .string ↔ ∃ text, value = .string text := by
  cases value <;> simp [Matches]

@[simp]
theorem matches_bool {value : Property} :
    value.Matches .bool ↔ ∃ flag, value = .bool flag := by
  cases value <;> simp [Matches]

@[simp]
theorem matches_qname {value : Property} :
    value.Matches .qname ↔ ∃ segments, value = .qname segments := by
  cases value <;> simp [Matches]

@[simp]
theorem matches_enum {value : Property} {labels : LabelSet} :
    value.Matches (.enum labels) ↔
      ∃ label, value = .enum labels label ∧ labels.contains label := by
  cases value <;> simp [Matches]

@[simp]
theorem matches_optional {value : Property} {inner : PropertySpec} :
    value.Matches (.optional inner) ↔
      value = .absent inner ∨
        ∃ content, value = .present inner content ∧ content.Matches inner := by
  cases value <;> simp [Matches]

theorem matches_present_string {own spec : PropertySpec} {text : String} :
    (Property.present own (.string text)).Matches spec ↔
      own = .string ∧ spec = .optional .string := by
  cases spec with
  | optional inner => cases inner <;> simp [Matches]
  | _ => simp [Matches]

end Property

namespace PropertyView

variable {view : PropertyView} {slot : String}

theorem lookup_eq_some {value : Property} :
    view.lookup slot = some value ↔
      view.own.get? slot = some value ∨
        view.own.get? slot = none ∧ view.defaults.get? slot = some value := by
  unfold lookup
  cases view.own.get? slot <;> simp

theorem read_eq_ok {spec : PropertySpec} {value : Property} :
    view.read slot spec = .ok value ↔ view.lookup slot = some value ∧ value.Matches spec := by
  unfold read
  cases view.lookup slot with
  | none => simp
  | some found =>
    by_cases right : found.Matches spec
    · simp only [right, if_true, Except.ok.injEq, Option.some.injEq]
      exact ⟨fun same => ⟨same, same ▸ right⟩, fun ⟨same, _⟩ => same⟩
    · have never : ¬(found = value ∧ value.Matches spec) := fun ⟨same, fits⟩ => right (same ▸ fits)
      simpa [right] using never

/-- A typed reading gives what the property that is found was formed from. -/
theorem bind_read_eq_ok {α : Type} {spec : PropertySpec} {form : α → Property}
    {rest : Property → Except PropertyError α}
    (shape : ∀ {found : Property}, found.Matches spec ↔ ∃ value, found = form value)
    (gives : ∀ value, rest (form value) = .ok value) {value : α} :
    view.read slot spec >>= rest = .ok value ↔ view.lookup slot = some (form value) := by
  constructor
  · intro h
    obtain ⟨found, read, h⟩ := bind_eq_ok.1 h
    obtain ⟨there, fits⟩ := read_eq_ok.1 read
    obtain ⟨other, rfl⟩ := shape.1 fits
    cases (gives other).symm.trans h
    exact there
  · intro there
    exact bind_eq_ok.2 ⟨_, read_eq_ok.2 ⟨there, shape.2 ⟨value, rfl⟩⟩, gives value⟩

theorem string_eq_ok {value : String} :
    view.string slot = .ok value ↔ view.lookup slot = some (.string value) :=
  bind_read_eq_ok Property.matches_string fun _ => rfl

theorem bool_eq_ok {value : Bool} :
    view.bool slot = .ok value ↔ view.lookup slot = some (.bool value) :=
  bind_read_eq_ok Property.matches_bool fun _ => rfl

theorem qname_eq_ok {segments : List String} :
    view.qname slot = .ok segments ↔ view.lookup slot = some (.qname segments) :=
  bind_read_eq_ok Property.matches_qname fun _ => rfl

theorem enumeration_eq_ok {labels : List String} {label : String} :
    view.enumeration slot labels = .ok label ↔
      view.lookup slot = some (.ofLabels labels label) ∧
        (LabelSet.ofLabels labels).contains label := by
  constructor
  · intro h
    obtain ⟨found, read, h⟩ := bind_eq_ok.1 h
    obtain ⟨there, fits⟩ := read_eq_ok.1 read
    obtain ⟨chosen, rfl, known⟩ := Property.matches_enum.1 fits
    cases h
    exact ⟨there, known⟩
  · intro ⟨there, known⟩
    exact bind_eq_ok.2 ⟨_, read_eq_ok.2 ⟨there, Property.matches_enum.2 ⟨label, rfl, known⟩⟩, rfl⟩

theorem string?_eq_ok {value : Option String} :
    view.string? slot = .ok value ↔
      view.lookup slot = some
        (match value with
          | none => .absent .string
          | some text => .present .string (.string text)) := by
  constructor
  · intro h
    obtain ⟨found, read, h⟩ := bind_eq_ok.1 h
    obtain ⟨there, fits⟩ := read_eq_ok.1 read
    obtain rfl | ⟨content, rfl, inside⟩ := Property.matches_optional.1 fits
    · cases h
      exact there
    · obtain ⟨text, rfl⟩ := Property.matches_string.1 inside
      cases h
      exact there
  · intro there
    cases value with
    | none => exact bind_eq_ok.2 ⟨_, read_eq_ok.2 ⟨there, rfl⟩, rfl⟩
    | some text => exact bind_eq_ok.2 ⟨_, read_eq_ok.2 ⟨there, rfl⟩, rfl⟩

theorem enumeration?_eq_ok_of_lookup {labels : List String} {value : Property}
    (there : view.lookup slot = some value)
    (fits : value.Matches (.optional (.ofLabels labels))) :
    ∃ label, view.enumeration? slot labels = .ok label := by
  have read := read_eq_ok.2 ⟨there, fits⟩
  obtain rfl | ⟨content, rfl, inside⟩ := Property.matches_optional.1 fits
  · exact ⟨none, bind_eq_ok.2 ⟨_, read, rfl⟩⟩
  · obtain ⟨label, rfl, _⟩ := Property.matches_enum.1 inside
    exact ⟨some label, bind_eq_ok.2 ⟨_, read, rfl⟩⟩

end PropertyView

end WireModel
