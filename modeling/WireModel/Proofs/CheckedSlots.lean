import WireModel.Generation.Report
import WireModel.Pattern.Compiled
import WireModel.Proofs.Decoders
import WireModel.Proofs.Processing

/-! Slots of a compiled model. Every slot that a processor of the run checks reads as a right value,
whatever other processors ran before or after it, so that options and decoders are generated
without a defect in a property. -/
namespace WireModel

namespace OrderedMap

variable {α β : Type}

theorem get?_insertAll_map (f : α → β) (entries : List (String × α)) (map : OrderedMap α)
    (map' : OrderedMap β) (h : ∀ key, map'.get? key = (map.get? key).map f) (key : String) :
    (map'.insertAll (entries.map fun entry => (entry.1, f entry.2))).get? key =
      ((map.insertAll entries).get? key).map f := by
  induction entries generalizing map map' with
  | nil => exact h key
  | cons entry rest ih =>
    refine ih (map.insert entry.1 entry.2) (map'.insert entry.1 (f entry.2)) fun other => ?_
    rw [get?_insert, get?_insert, h]
    split <;> rfl

private theorem mem_of_get?_insertAll {entries : List (String × α)} {map : OrderedMap α}
    {key : String} {value : α} (h : (map.insertAll entries).get? key = some value) :
    (key, value) ∈ entries ∨ map.get? key = some value := by
  rw [get?_insertAll, Option.or_eq_some_iff] at h
  obtain found | ⟨_, before⟩ := h
  · exact .inl (List.mem_reverse.1 (mem_of_findEntry found))
  · exact .inr before

end OrderedMap

theorem NodeSlots.define_specs (set : List (String × Property)) (slot : String) :
    (define [] set).specs.get? slot = ((define [] set).values.get? slot).map Property.spec :=
  OrderedMap.get?_insertAll_map Property.spec set ∅ ∅ (fun _ => rfl) slot

private theorem NodeSlots.mem_of_define_value {set : List (String × Property)} {slot : String}
    {value : Property} (h : (define [] set).values.get? slot = some value)
    {slots : List String} (covered : set.map Prod.fst ⊆ slots) : slot ∈ slots := by
  obtain member | none := OrderedMap.mem_of_get?_insertAll h
  · exact covered (List.mem_map_of_mem member)
  · cases none

namespace Defaults

/-- Of merged records the last that has an entry for a slot counts. -/
theorem get?_merged {α : Type} (part : NodeSlots → OrderedMap α) (empty : part {} = ∅)
    (merges : ∀ slots other, part (slots.merge other) = (part slots).merge (part other))
    (records : List Defaults) (kind : NodeKind) (slot : String) :
    (part ((merged records).of kind)).get? slot =
      records.reverse.findSome? fun record => (part (record.of kind)).get? slot := by
  rw [merged, List.foldl_eq_foldr_reverse]
  induction records.reverse with
  | nil => exact congrArg (·.get? slot) empty
  | cons record rest ih =>
    rw [List.foldr_cons, List.findSome?_cons, ← ih]
    refine (congrArg (·.get? slot) (merges _ _)).trans ((OrderedMap.get?_merge _ _ slot).trans ?_)
    cases (part (record.of kind)).get? slot <;> rfl

theorem values_merged (records : List Defaults) (kind : NodeKind) (slot : String) :
    ((merged records).of kind).values.get? slot =
      records.reverse.findSome? fun record => (record.of kind).values.get? slot :=
  get?_merged NodeSlots.values rfl (fun _ _ => rfl) records kind slot

end Defaults

theorem findSome?_eq_of_agree {α β : Type} {f : α → Option β} {items : List α} {item : α}
    (member : item ∈ items) (agree : ∀ other ∈ items, f other = none ∨ f other = f item) :
    items.findSome? f = f item := by
  cases found : items.findSome? f with
  | none => exact (List.findSome?_eq_none_iff.1 found item member).symm
  | some value =>
    obtain ⟨other, among, there⟩ := List.exists_of_findSome?_eq_some found
    obtain absent | same := agree other among
    · rw [absent] at there
      cases there
    · rw [← same, there]

def Coding.slots : List String :=
  [moduleSlot, referencesSlot, tagFieldSlot, kindSlot, fieldNameSlot]

def Docs.slots : List String :=
  [docSlot, requiredSlot]

namespace Processor

def slots : Processor → List String
  | .coding => Coding.slots
  | .docs => Docs.slots

theorem mem_slots {processor : Processor} {kind : NodeKind} {slot : String} {value : Property}
    (h : (processor.defaults.of kind).values.get? slot = some value) :
    slot ∈ processor.slots := by
  cases processor with
  | coding =>
    cases kind with
    | top | «alias» | sum | enum | restricted | field =>
      exact NodeSlots.mem_of_define_value h (by decide)
    | _ => cases h
  | docs =>
    cases kind with
    | top | «alias» | sum | enum | restricted | field =>
      exact NodeSlots.mem_of_define_value h (by decide)
    | _ => cases h

theorem eq_of_mem_slots {first second : Processor} {slot : String} (h : slot ∈ first.slots)
    (h' : slot ∈ second.slots) : first = second := by
  have apart : ∀ slot ∈ Coding.slots, slot ∉ Docs.slots := by decide
  cases first <;> cases second
  · rfl
  · exact absurd h' (apart slot h)
  · exact absurd h (apart slot h')
  · rfl

/-- A default is right for the spec of its slot, and only slots with a default have a spec. -/
theorem specs_eq (processor : Processor) (kind : NodeKind) (slot : String) :
    (processor.defaults.of kind).specs.get? slot =
      ((processor.defaults.of kind).values.get? slot).map Property.spec := by
  cases processor with
  | coding =>
    cases kind with
    | top | «alias» | sum | enum | restricted | field => exact NodeSlots.define_specs _ slot
    | _ => rfl
  | docs =>
    cases kind with
    | top | «alias» | sum | enum | restricted | field => exact NodeSlots.define_specs _ slot
    | _ => rfl

theorem values_mergedDefaults {processors : List Processor} {processor : Processor}
    (member : processor ∈ processors) {kind : NodeKind} {slot : String} {value : Property}
    (h : (processor.defaults.of kind).values.get? slot = some value) :
    ((mergedDefaults processors).of kind).values.get? slot = some value := by
  -- Other processors have no value for the slot, so their order does not matter.
  rw [mergedDefaults, Defaults.values_merged, ← h]
  refine findSome?_eq_of_agree (by simpa using ⟨processor, member, rfl⟩) fun record among => ?_
  obtain ⟨other, _, rfl⟩ := List.mem_map.1 (List.mem_reverse.1 among)
  cases found : (other.defaults.of kind).values.get? slot with
  | none => exact .inl rfl
  | some _ =>
    obtain rfl := eq_of_mem_slots (mem_slots h) (mem_slots found)
    exact .inr found.symm

private theorem supplies_mergedDefaults {processors : List Processor} {processor : Processor}
    (member : processor ∈ processors) {kind : NodeKind} {own : Properties}
    (h : (processor.defaults.view kind own).Supplies (processor.defaults.of kind).specs) :
    ((mergedDefaults processors).view kind own).Supplies (processor.defaults.of kind).specs := by
  intro slot spec known
  obtain ⟨value, found, fits⟩ := h slot spec known
  refine ⟨value, ?_, fits⟩
  rw [specs_eq] at known
  obtain ⟨default, set, _⟩ := Option.map_eq_some_iff.1 known
  rw [PropertyView.lookup, Defaults.view] at found ⊢
  rw [values_mergedDefaults member set, ← set]
  exact found

end Processor

theorem mem_faces_of_declaration {model : Model} {declaration : Declaration Classification}
    (member : declaration ∈ model.declarations) {kind : NodeKind} {info : Info}
    (face : (kind, info) ∈ declaration.nodes.map Node.face) :
    (kind, info) ∈ model.nodes.map Node.face := by
  rw [Model.nodes, List.map_cons, List.map_flatMap]
  exact List.mem_cons_of_mem _ (List.mem_flatMap.2 ⟨declaration, member, face⟩)

theorem string?_of_supplies {view : PropertyView} {specs : PropertySpecs}
    (supplied : view.Supplies specs) (slot : String)
    (known : specs.get? slot = some (.optional .string)) :
    ∃ text, view.string? slot = .ok text := by
  obtain ⟨_, found, fits⟩ := supplied slot _ known
  obtain rfl | ⟨_, rfl, inside⟩ := Property.matches_optional.1 fits
  · exact ⟨none, PropertyView.string?_eq_ok.2 found⟩
  · obtain ⟨text, rfl⟩ := Property.matches_string.1 inside
    exact ⟨some text, PropertyView.string?_eq_ok.2 found⟩

section Compiled

variable [Pattern.Engine] {draft : Draft} {properties : Properties} {processors : List Processor}
  {compiled : Compiled}

theorem compiled_supplies {processor : Processor} (member : processor ∈ processors)
    (compiles : compile draft properties processors = .ok compiled) {kind : NodeKind} {info : Info}
    (face : (kind, info) ∈ compiled.model.nodes.map Node.face) :
    (compiled.defaults.view kind info.properties).Supplies (processor.defaults.of kind).specs := by
  obtain ⟨node, there, same⟩ := List.mem_map.1 face
  obtain ⟨rfl, rfl⟩ := Prod.mk.inj same
  rw [compiled_defaults compiles]
  refine Processor.supplies_mergedDefaults member ?_
  exact slotErrors_eq_nil.1 (slotErrors_compiled member compiles) node there

theorem options_eq_ok (coding : .coding ∈ processors)
    (compiles : compile draft properties processors = .ok compiled) :
    ∃ options, Options.ofModel compiled.defaults compiled.model = .ok options := by
  have supplied : (compiled.defaults.topView compiled.model).Supplies
      (Coding.defaults.of .top).specs := compiled_supplies coding compiles List.mem_cons_self
  obtain ⟨_, references, fits⟩ := supplied Coding.referencesSlot _ rfl
  obtain ⟨style, rfl, known⟩ := Property.matches_enum.1 fits
  obtain ⟨_, tagField, fits⟩ := supplied Coding.tagFieldSlot _ rfl
  obtain ⟨tag, rfl⟩ := Property.matches_string.1 fits
  obtain ⟨_, module, fits⟩ := supplied Coding.moduleSlot _ rfl
  obtain ⟨segments, rfl⟩ := Property.matches_qname.1 fits
  rw [Options.ofModel, PropertyView.enumeration_eq_ok.2 ⟨references, known⟩,
    PropertyView.string_eq_ok.2 tagField, PropertyView.qname_eq_ok.2 module]
  exact ⟨_, rfl⟩

variable {declaration : Declaration Classification}

theorem fieldKey_eq_ok (coding : .coding ∈ processors)
    (compiles : compile draft properties processors = .ok compiled)
    (member : declaration ∈ compiled.model.declarations) {label : FieldLabel}
    (inside : label ∈ declaration.body.fieldLabels) (options : Options) :
    ∃ key, (Site.mk compiled.defaults options declaration.name).fieldKey label = .ok key := by
  have supplied := compiled_supplies coding compiles
    (mem_faces_of_declaration member (Declaration.mem_faces_of_mem_fieldLabels inside))
  obtain ⟨key, read⟩ := string?_of_supplies supplied Coding.fieldNameSlot rfl
  refine ⟨key.getD label.name, ?_⟩
  rw [Site.fieldKey, Defaults.fieldView, read]

theorem documentation_eq_ok (docs : .docs ∈ processors)
    (compiles : compile draft properties processors = .ok compiled)
    (member : declaration ∈ compiled.model.declarations) :
    ∃ doc, documentation compiled.defaults declaration = .ok doc := by
  have supplied := compiled_supplies docs compiles
    (mem_faces_of_declaration member Declaration.mem_faces_self)
  have known : ((Processor.docs.defaults.of (.ofDeclaration declaration.body.kind)).specs.get?
      Docs.docSlot) = some (.optional .string) := by
    cases declaration.body <;> rfl
  obtain ⟨doc, read⟩ := string?_of_supplies supplied Docs.docSlot known
  refine ⟨doc, ?_⟩
  rw [documentation, Defaults.declarationView, read]

private theorem kind_eq_ok (coding : .coding ∈ processors)
    (compiles : compile draft properties processors = .ok compiled)
    (member : declaration ∈ compiled.model.declarations) :
    ∃ label, (compiled.defaults.declarationView declaration).enumeration? Coding.kindSlot
      Coding.kinds = .ok label := by
  have supplied := compiled_supplies coding compiles
    (mem_faces_of_declaration member Declaration.mem_faces_self)
  have known : ((Processor.coding.defaults.of (.ofDeclaration declaration.body.kind)).specs.get?
      Coding.kindSlot) = some (.optional (.ofLabels Coding.kinds)) := by
    cases declaration.body <;> rfl
  obtain ⟨value, found, fits⟩ := supplied Coding.kindSlot _ known
  exact PropertyView.enumeration?_eq_ok_of_lookup found fits

theorem requestedFragment_ne_property (coding : .coding ∈ processors) (docs : .docs ∈ processors)
    (compiles : compile draft properties processors = .ok compiled)
    (member : declaration ∈ compiled.model.declarations) (options : Options)
    (cause : PropertyError) :
    requestedFragment compiled.defaults options declaration ≠ .error (.property cause) := by
  obtain ⟨label, read⟩ := kind_eq_ok coding compiles member
  obtain ⟨doc, documented⟩ := documentation_eq_ok docs compiles member
  intro failed
  simp only [requestedFragment, read, decoderFragment_eq] at failed
  split at failed
  · cases failed
  · obtain failed | ⟨_, _, failed⟩ := bind_eq_error.1 failed
    · obtain ⟨_, _, other⟩ := Site.forBody_error
        (fun label inside => fieldKey_eq_ok coding compiles member inside options) failed
      cases other
    · rw [documented] at failed
      cases failed
  · cases failed

/-- Every slot that a processor of the run declares for a kind of node reads as a right value at
every node of that kind: the model, the declarations, and the fields and types inside them. So
the options can be read after the coding processor, and after both processors no declaration
fails to generate for a property. -/
theorem checked_slots_supplied (compiles : compile draft properties processors = .ok compiled) :
    (∀ processor ∈ processors,
      (compiled.defaults.topView compiled.model).Supplies (processor.defaults.of .top).specs ∧
      ∀ declaration ∈ compiled.model.declarations,
        (compiled.defaults.declarationView declaration).Supplies
          (processor.defaults.of (.ofDeclaration declaration.body.kind)).specs ∧
        (∀ label ∈ declaration.body.fieldLabels,
          (compiled.defaults.fieldView label).Supplies (processor.defaults.of .field).specs) ∧
        ∀ type ∈ declaration.body.walk,
          (compiled.defaults.typeView type).Supplies
            (processor.defaults.of (.ofType type)).specs) ∧
    (.coding ∈ processors →
      ∃ options, Options.ofModel compiled.defaults compiled.model = .ok options) ∧
    (.coding ∈ processors → .docs ∈ processors → ∀ options cause,
      .property cause ∉ (generate compiled.defaults options compiled.model).errors) := by
  refine ⟨fun processor ran => ⟨?_, fun declaration member => ⟨?_, ?_, ?_⟩⟩, ?_, ?_⟩
  · exact compiled_supplies ran compiles List.mem_cons_self
  · exact compiled_supplies ran compiles
      (mem_faces_of_declaration member Declaration.mem_faces_self)
  · intro label inside
    exact compiled_supplies ran compiles
      (mem_faces_of_declaration member (Declaration.mem_faces_of_mem_fieldLabels inside))
  · intro type inside
    exact compiled_supplies ran compiles
      (mem_faces_of_declaration member (Declaration.mem_faces_of_mem_walk inside))
  · intro coding
    exact options_eq_ok coding compiles
  · intro coding docs options cause reported
    simp only [generate, List.filterMap_map, List.mem_filterMap] at reported
    obtain ⟨declaration, member, failed⟩ := reported
    refine requestedFragment_ne_property coding docs compiles member options cause ?_
    cases outcome : requestedFragment compiled.defaults options declaration with
    | ok => simp [outcome, error?] at failed
    | error error => simpa [outcome, error?] using failed

end Compiled

def decodedInfo : Info where
  properties := .ofList [(Coding.kindSlot, .wrap (.ofLabels Coding.kinds "decoder"))]

def treeDraft : Draft where
  declarations := [
    { name := "Tree"
      body := .sum [
        { name := "leaf" },
        { name := "node"
          fields := [
            { name := "children"
              type := .list {} (.named {} "Tree" ())
              info := { properties := .ofList [
                (Coding.fieldNameSlot, .wrap (.string "below")),
                (Docs.docSlot, .wrap (.string " from left to right "))] } },
            { name := "label", type := .optional {} (.named {} "Label" ()) }] }]
      info := decodedInfo },
    { name := "Label"
      body := .restricted (.string { minLength := some 1 })
      info := decodedInfo }]
  wellScoped := by decide

section Program

attribute [local instance] Pattern.regexEngine

theorem checked_slots_supplied_tree :
    ∃ compiled,
      compile treeDraft (.ofList [(Docs.requiredSlot, .bool false)]) [.docs, .coding, .docs] =
        .ok compiled ∧
      (∃ options, Options.ofModel compiled.defaults compiled.model = .ok options) ∧
      ∀ options cause,
        .property cause ∉ (generate compiled.defaults options compiled.model).errors := by
  obtain ⟨compiled, compiles⟩ : ∃ compiled,
      compile treeDraft (.ofList [(Docs.requiredSlot, .bool false)]) [.docs, .coding, .docs] =
        .ok compiled := ⟨_, rfl⟩
  obtain ⟨_, options, generates⟩ := checked_slots_supplied compiles
  exact ⟨compiled, compiles, options (by decide), generates (by decide) (by decide)⟩

end Program

end WireModel
