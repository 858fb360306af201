import WireModel.Generation.Fragment
import WireModel.Proofs.Outcomes
import WireModel.Proofs.Types

/-! What the building of a decoder collects. The set of modules goes through all steps, and each
step adds to what the steps before it left. So the decoder can be told apart from the set: it is
built as if nothing were collected, and the modules collected are those that its parts need. -/
namespace WireModel

namespace TypeExpr

variable {ρ : Type}

def presence : TypeExpr ρ → Presence
  | .optional .. => .optional
  | _ => .required

def held : TypeExpr ρ → TypeExpr ρ
  | .optional _ element => element
  | type => type

@[simp]
theorem fieldLabels_held (type : TypeExpr ρ) : type.held.fieldLabels = type.fieldLabels := by
  cases type <;> simp only [held, fieldLabels]

@[simp]
theorem references_held (type : TypeExpr ρ) : type.held.references = type.references := by
  cases type <;> simp only [held, references]

@[elab_as_elim]
theorem decodingInduction {motive : TypeExpr ρ → Prop}
    (unit : ∀ info, motive (.unit info))
    (basic : ∀ info scalar, motive (.basic info scalar))
    (named : ∀ info name reference, motive (.named info name reference))
    (product : ∀ info fields, (∀ field ∈ fields, motive field.type.held) →
      motive (.product info fields))
    (emptyProduct : ∀ info, motive (.emptyProduct info))
    (list : ∀ info element, motive element → motive (.list info element))
    (set : ∀ info element, motive element → motive (.set info element))
    (dict : ∀ info key value, motive value → motive (.dict info key value))
    (optional : ∀ info element, motive element → motive (.optional info element))
    (function : ∀ info argument result, motive (.function info argument result))
    (type : TypeExpr ρ) : motive type := by
  suffices both : motive type ∧ motive type.held from both.1
  induction type using TypeExpr.induction with
  | unit info => exact ⟨unit info, unit info⟩
  | basic info scalar => exact ⟨basic info scalar, basic info scalar⟩
  | named info name reference => exact ⟨named info name reference, named info name reference⟩
  | product info fields ih =>
    have whole := product info fields fun field member => (ih field member).2
    exact ⟨whole, whole⟩
  | emptyProduct info => exact ⟨emptyProduct info, emptyProduct info⟩
  | list info element ih => exact ⟨list info element ih.1, list info element ih.1⟩
  | set info element ih => exact ⟨set info element ih.1, set info element ih.1⟩
  | dict info key value _ ih => exact ⟨dict info key value ih.1, dict info key value ih.1⟩
  | optional info element ih => exact ⟨optional info element ih.1, ih.1⟩
  | function info argument result =>
    exact ⟨function info argument result, function info argument result⟩

end TypeExpr

namespace Decoder

def referenceSupport : ReferenceStyle → List Support
  | .standalone => []
  | .codecAccessor => [.codec]

def keySupport (style : ReferenceStyle) : KeyDecoder → List Support
  | .text => [.dict]
  | .enumeration _ | .refined .. => referenceSupport style ++ [.keyedDict]

def presenceSupport : Presence → List Support
  | .required => []
  | .optional => [.optionalField]

mutual

/-- What the parts of a decoder need, in any order and with repetitions. -/
def needs (style : ReferenceStyle) : Decoder → List Support
  | .unit | .primitive _ => []
  | .call .. => referenceSupport style
  | .list element | .nullable element => needs style element
  | .set element => .set :: needs style element
  | .dict key value => keySupport style key ++ needs style value
  | .object fields => fieldNeeds style fields
  | .tagged _ cases => .tagged :: caseNeeds style cases
  | .enumeration .. => [.enumeration]
  | .refined .. => [.refinement]

def fieldNeeds (style : ReferenceStyle) : List (FieldDecoder Decoder) → List Support
  | [] => []
  | ⟨_, _, presence, decoder⟩ :: rest =>
    presenceSupport presence ++ needs style decoder ++ fieldNeeds style rest

def caseNeeds (style : ReferenceStyle) : List (Case Decoder) → List Support
  | [] => []
  | ⟨_, _, fields⟩ :: rest => fieldNeeds style fields ++ caseNeeds style rest

end

/-- The imports of a decoder, in the order in which they are listed. Every signature names the
type of decoders, so that its module is always there. -/
def imports (style : ReferenceStyle) (decoder : Decoder) : List Support :=
  Support.all.filter fun support => support = .decode || (decoder.needs style).contains support

end Decoder

namespace Site

mutual

def forType (site : Site) (path : String) :
    TypeExpr Classification → Except GenerateError Decoder
  | .unit _ => .ok .unit
  | .basic _ scalar => .ok (.primitive scalar)
  | .named _ name _ => .ok (.call name site.options.references)
  | .product _ fields => do return .object (← site.forFields path fields)
  | .emptyProduct _ => .ok (.object [])
  | .list _ element => do return .list (← site.forType (path ++ "<element>") element)
  | .set _ element => do return .set (← site.forType (path ++ "<element>") element)
  | .optional _ element => do return .nullable (← site.forType (path ++ "<element>") element)
  | .dict _ key value => do
    return .dict (.ofType key) (← site.forType (path ++ "<value>") value)
  | .function info _ _ => .error (.undecodable site.declaration path info.position)

def forFields (site : Site) (scope : String) :
    List (Field (TypeExpr Classification)) → Except GenerateError (List (FieldDecoder Decoder))
  | [] => .ok []
  | ⟨label, .optional _ element⟩ :: rest => do
    let key ← site.fieldKey label
    let decoder ← site.forType (scope ++ "." ++ label.name) element
    return ⟨label.name, key, .optional, decoder⟩ :: (← site.forFields scope rest)
  | ⟨label, type⟩ :: rest => do
    let key ← site.fieldKey label
    let decoder ← site.forType (scope ++ "." ++ label.name) type
    return ⟨label.name, key, .required, decoder⟩ :: (← site.forFields scope rest)

end

def forCases (site : Site) :
    List (Constructor Classification) → Except GenerateError (List (Case Decoder))
  | [] => .ok []
  | constructor :: rest => do
    let scope := site.declaration ++ "." ++ constructor.name
    let fields ← site.forFields scope constructor.fields
    return ⟨constructor.name, constructor.name, fields⟩ :: (← site.forCases rest)

def forBody (site : Site) : Body Classification → Except GenerateError Decoder
  | .alias type => site.forType site.declaration type
  | .sum constructors => do
    return .tagged site.options.tagField (← site.forCases constructors)
  | .enum labels => .ok (.enumeration site.declaration labels)
  | .restricted restriction => .ok (.refined site.declaration restriction)

end Site

namespace SupportSet

instance : Membership Support SupportSet := ⟨fun set support => support ∈ set.members⟩

variable {set set' : SupportSet} {support : Support} {supports : List Support}

theorem mem_iff : support ∈ set ↔ support ∈ set.members := Iff.rfl

private theorem filter_mem_eq {α : Type} [DecidableEq α] {items all : List α}
    (listed : items.Sublist all) (distinct : all.Nodup) : all.filter (· ∈ items) = items := by
  induction listed with
  | slnil => rfl
  | cons item below ih =>
    obtain ⟨new, distinct⟩ := List.nodup_cons.1 distinct
    have absent : item ∉ _ := fun member => new (below.subset member)
    rw [List.filter_cons_of_neg (by simpa using absent), ih distinct]
  | @cons_cons items all item below ih =>
    obtain ⟨new, distinct⟩ := List.nodup_cons.1 distinct
    have same : all.filter (· ∈ item :: items) = all.filter (· ∈ items) := by
      refine List.filter_congr fun other member => ?_
      have apart : other ≠ item := fun same => new (same ▸ member)
      simp [apart]
    rw [List.filter_cons_of_pos (by simp), same, ih distinct]

/-- A set is known by its members, since these stand in a fixed order. -/
theorem ext (same : ∀ support, support ∈ set ↔ support ∈ set') : set = set' := by
  have distinct : Support.all.Nodup := by decide
  have members : set.members = set'.members := by
    rw [← filter_mem_eq set.listed distinct, ← filter_mem_eq set'.listed distinct]
    exact List.filter_congr fun support _ => decide_eq_decide.2 (same support)
  cases set
  cases set'
  cases members
  rfl

@[simp]
theorem notMem_empty : support ∉ empty := List.not_mem_nil

@[simp]
theorem mem_insert {other : Support} :
    support ∈ set.insert other ↔ support = other ∨ support ∈ set := by
  have listed : support ∈ Support.all := by
    cases support <;> decide
  simp [mem_iff, insert, listed]

def insertAll (set : SupportSet) (supports : List Support) : SupportSet :=
  supports.foldl insert set

@[simp]
theorem mem_insertAll : support ∈ set.insertAll supports ↔ support ∈ set ∨ support ∈ supports := by
  induction supports generalizing set with
  | nil => simp [insertAll]
  | cons other rest ih =>
    have step : set.insertAll (other :: rest) = (set.insert other).insertAll rest := rfl
    rw [step, ih, mem_insert, List.mem_cons]
    tauto

@[simp]
theorem insertAll_insertAll (more : List Support) :
    (set.insertAll supports).insertAll more = set.insertAll (supports ++ more) :=
  List.foldl_append.symm

theorem insert_of_mem (known : support ∈ set) : set.insert support = set := by
  apply ext
  intro other
  rw [mem_insert, or_iff_right_iff_imp]
  rintro rfl
  exact known

/-- A result, and the set with what the result needs. -/
def collecting {α : Type} (set : SupportSet) (needs : α → List Support) (value : α) :
    α × SupportSet :=
  (value, set.insertAll (needs value))

end SupportSet

namespace Site

variable {site : Site} {support : SupportSet}

def forField (site : Site) (scope : String) (field : Field (TypeExpr Classification)) :
    Except GenerateError (FieldDecoder Decoder) := do
  let key ← site.fieldKey field.toFieldLabel
  let decoder ← site.forType (scope ++ "." ++ field.name) field.type.held
  return ⟨field.name, key, field.type.presence, decoder⟩

theorem forFields_eq_mapM (scope : String) (fields : List (Field (TypeExpr Classification))) :
    site.forFields scope fields = fields.mapM (site.forField scope) := by
  induction fields with
  | nil => rfl
  | cons field rest ih =>
    obtain ⟨label, type⟩ := field
    rw [List.mapM_cons, ← ih]
    simp only [forField, bind_assoc, pure_bind]
    cases type <;> simp only [forFields, TypeExpr.held, TypeExpr.presence]

def forCase (site : Site) (constructor : Constructor Classification) :
    Except GenerateError (Case Decoder) := do
  let fields ← site.forFields (site.declaration ++ "." ++ constructor.name) constructor.fields
  return ⟨constructor.name, constructor.name, fields⟩

theorem forCases_eq_mapM (constructors : List (Constructor Classification)) :
    site.forCases constructors = constructors.mapM site.forCase := by
  induction constructors with
  | nil => rfl
  | cons constructor rest ih =>
    rw [List.mapM_cons, ← ih]
    simp only [forCases, forCase, bind_assoc, pure_bind]

section Collecting

open Decoder (referenceSupport keySupport presenceSupport needs fieldNeeds caseNeeds)

private theorem noteReference_eq :
    site.noteReference support = support.insertAll (referenceSupport site.options.references) := by
  unfold noteReference
  cases site.options.references <;> rfl

private theorem buildKey_eq (type : TypeExpr Classification) :
    site.buildKey support type =
      support.collecting (keySupport site.options.references) (.ofType type) := by
  unfold buildKey
  rw [noteReference_eq]
  cases KeyDecoder.ofType type with
  | text => rfl
  | enumeration | refined =>
    simp only [SupportSet.collecting, keySupport, ← SupportSet.insertAll_insertAll]
    rfl

private theorem buildFields_cons (scope : String) (field : Field (TypeExpr Classification))
    (rest : List (Field (TypeExpr Classification))) :
    site.buildFields scope support (field :: rest) = (do
      let key ← site.fieldKey field.toFieldLabel
      let (decoder, support) ← site.buildType (scope ++ "." ++ field.name)
        (support.insertAll (presenceSupport field.type.presence)) field.type.held
      let (decoders, support) ← site.buildFields scope support rest
      return (⟨field.name, key, field.type.presence, decoder⟩ :: decoders, support)) := by
  obtain ⟨label, type⟩ := field
  cases type <;> rfl

/-- What building one type is to do, for every set that holds what each type needs. -/
def Collects (site : Site) (type : TypeExpr Classification) : Prop :=
  ∀ path support, .decode ∈ support → site.buildType path support type =
    support.collecting (needs site.options.references) <$> site.forType path type

private theorem buildFields_eq {fields : List (Field (TypeExpr Classification))}
    (each : ∀ field ∈ fields, site.Collects field.type.held) (scope : String)
    (known : .decode ∈ support) :
    site.buildFields scope support fields =
      support.collecting (fieldNeeds site.options.references) <$> site.forFields scope fields := by
  induction fields generalizing support with
  | nil => rfl
  | cons field rest ih =>
    obtain ⟨first, later⟩ := List.forall_mem_cons.1 each
    rw [buildFields_cons, forFields_eq_mapM, List.mapM_cons, ← forFields_eq_mapM]
    simp only [forField, map_bind, map_pure, bind_assoc, pure_bind]
    refine bind_congr fun key => ?_
    rw [first _ _ (SupportSet.mem_insertAll.2 (.inl known)), bind_map_left]
    refine bind_congr fun decoder => ?_
    simp only [SupportSet.collecting, SupportSet.insertAll_insertAll]
    rw [ih later (SupportSet.mem_insertAll.2 (.inl known)), bind_map_left]
    simp only [SupportSet.collecting, SupportSet.insertAll_insertAll, fieldNeeds]

/-- A decoder is built as if nothing were collected, and what it needs is collected. -/
theorem collects (type : TypeExpr Classification) : site.Collects type := by
  induction type using TypeExpr.decodingInduction with
  | function => exact fun path support known => rfl
  | unit | basic | emptyProduct =>
    intro path support known
    simp only [buildType, SupportSet.insert_of_mem known]
    rfl
  | named info name reference =>
    intro path support known
    simp only [buildType, SupportSet.insert_of_mem known, noteReference_eq]
    rfl
  | product info fields ih =>
    intro path support known
    simp only [buildType, forType, SupportSet.insert_of_mem known, map_bind, map_pure]
    rw [buildFields_eq ih path known, bind_map_left]
    rfl
  | list info element ih | optional info element ih =>
    intro path support known
    simp only [buildType, forType, SupportSet.insert_of_mem known, map_bind, map_pure]
    rw [ih _ _ known, bind_map_left]
    rfl
  | set info element ih =>
    intro path support known
    simp only [buildType, forType, SupportSet.insert_of_mem known, map_bind, map_pure]
    rw [ih _ _ (SupportSet.mem_insert.2 (.inr known)), bind_map_left]
    rfl
  | dict info key value ih =>
    intro path support known
    simp only [buildType, forType, SupportSet.insert_of_mem known, buildKey_eq,
      SupportSet.collecting, map_bind, map_pure]
    rw [ih _ _ (SupportSet.mem_insertAll.2 (.inl known)), bind_map_left]
    simp only [SupportSet.collecting, SupportSet.insertAll_insertAll, needs]

private theorem buildCases_eq (known : .decode ∈ support)
    (constructors : List (Constructor Classification)) :
    site.buildCases support constructors =
      support.collecting (caseNeeds site.options.references) <$> site.forCases constructors := by
  induction constructors generalizing support with
  | nil => rfl
  | cons constructor rest ih =>
    simp only [buildCases, forCases, map_bind, map_pure]
    rw [buildFields_eq (fun field _ => collects _) _ known, bind_map_left]
    refine bind_congr fun fields => ?_
    simp only [SupportSet.collecting]
    rw [ih (SupportSet.mem_insertAll.2 (.inl known)), bind_map_left]
    simp only [SupportSet.collecting, SupportSet.insertAll_insertAll, caseNeeds]

theorem buildBody_eq (known : .decode ∈ support) (body : Body Classification) :
    site.buildBody support body =
      support.collecting (needs site.options.references) <$> site.forBody body := by
  cases body with
  | «alias» type => exact collects type site.declaration support known
  | sum constructors =>
    simp only [buildBody, forBody, map_bind, map_pure]
    rw [buildCases_eq (SupportSet.mem_insert.2 (.inr known)), bind_map_left]
    rfl
  | enum | restricted => rfl

end Collecting

end Site

private theorem Decoder.members_collected (style : ReferenceStyle) (decoder : Decoder) :
    ((SupportSet.empty.insert .decode).insertAll (decoder.needs style)).members =
      decoder.imports style := by
  have imported : ∀ support,
      support ∈ (SupportSet.empty.insert .decode).insertAll (decoder.needs style) ↔
      support = .decode ∨ support ∈ decoder.needs style := by
    simp
  have distinct : Support.all.Nodup := by decide
  rw [← SupportSet.filter_mem_eq (SupportSet.listed _) distinct, imports]
  refine List.filter_congr fun support _ => ?_
  rw [Bool.eq_iff_iff, decide_eq_true_eq, ← SupportSet.mem_iff, imported]
  simp

theorem decoderFragment_eq (defaults : Defaults) (options : Options)
    (declaration : Declaration Classification) :
    decoderFragment defaults options declaration = (do
      let body ← (Site.mk defaults options declaration.name).forBody declaration.body
      let doc ← documentation defaults declaration
      let name := decoderIdent declaration.name
      return {
        declaration := declaration.name
        function := {
          name, doc, signature := some s!"Decoder {declaration.name}", params := [], body }
        linkage := {
          module := options.module
          imports := body.imports options.references
          exposes := [name] } }) := by
  unfold decoderFragment
  dsimp only
  rw [Site.buildBody_eq (SupportSet.mem_insert.2 (.inl rfl)), bind_map_left]
  simp only [SupportSet.collecting, Decoder.members_collected]

end WireModel
