import WireModel.Proofs.GeneratedDecoders
import WireModel.Proofs.Termination

/-! The style of references. It is written into every call and decides whether the codec module is
imported, and nothing else depends on it: not whether a declaration can be generated, not the rest
of its fragment, and no result of decoding. So what is generated in any style is what is generated
with standalone references, once styles and that import are left out. -/
namespace WireModel

namespace Decoder

mutual

/-- The decoder with standalone references. -/
def unstyled : Decoder → Decoder
  | .call target _ => .call target .standalone
  | .list element => .list element.unstyled
  | .set element => .set element.unstyled
  | .nullable element => .nullable element.unstyled
  | .dict key value => .dict key value.unstyled
  | .object fields => .object (unstyledFields fields)
  | .tagged discriminant cases => .tagged discriminant (unstyledCases cases)
  | .unit => .unit
  | .primitive basic => .primitive basic
  | .enumeration name labels => .enumeration name labels
  | .refined name restriction => .refined name restriction

def unstyledFields : List (FieldDecoder Decoder) → List (FieldDecoder Decoder)
  | [] => []
  | ⟨name, key, presence, decoder⟩ :: rest =>
    ⟨name, key, presence, decoder.unstyled⟩ :: unstyledFields rest

def unstyledCases : List (Case Decoder) → List (Case Decoder)
  | [] => []
  | ⟨tag, constructor, fields⟩ :: rest =>
    ⟨tag, constructor, unstyledFields fields⟩ :: unstyledCases rest

end

@[simp]
theorem unstyledFields_eq (fields : List (FieldDecoder Decoder)) :
    unstyledFields fields =
      fields.map fun field => { field with decoder := field.decoder.unstyled } := by
  induction fields with
  | nil => rfl
  | cons field rest ih => rw [unstyledFields, ih, List.map_cons]

@[simp]
theorem unstyledCases_eq (cases : List (Case Decoder)) :
    unstyledCases cases =
      cases.map fun case => { case with fields := unstyledFields case.fields } := by
  induction cases with
  | nil => rfl
  | cons case rest ih => rw [unstyledCases, ih, List.map_cons]

section Needs

variable (style : ReferenceStyle)

@[simp]
private theorem referenceSupport_filter :
    (referenceSupport style).filter (· ≠ .codec) = referenceSupport .standalone := by
  cases style <;> rfl

@[simp]
private theorem keySupport_filter (key : KeyDecoder) :
    (keySupport style key).filter (· ≠ .codec) = keySupport .standalone key := by
  cases style <;> cases key <;> rfl

@[simp]
private theorem presenceSupport_filter (presence : Presence) :
    (presenceSupport presence).filter (· ≠ .codec) = presenceSupport presence := by
  cases presence <;> rfl

mutual

/-- But for the codec module, a decoder needs what it needs with standalone references. -/
theorem needs_unstyled : (decoder : Decoder) →
    (decoder.needs style).filter (· ≠ .codec) = decoder.unstyled.needs .standalone
  | .unit | .primitive _ | .enumeration .. | .refined .. => rfl
  | .call .. => referenceSupport_filter style
  | .list element => needs_unstyled element
  | .nullable element => needs_unstyled element
  | .set element => congrArg (Support.set :: ·) (needs_unstyled element)
  | .dict key value => by
    rw [needs, List.filter_append, keySupport_filter, needs_unstyled value, unstyled, needs]
  | .object fields => fieldNeeds_unstyled fields
  | .tagged _ cases => congrArg (Support.tagged :: ·) (caseNeeds_unstyled cases)

theorem fieldNeeds_unstyled : (fields : List (FieldDecoder Decoder)) →
    (fieldNeeds style fields).filter (· ≠ .codec) = fieldNeeds .standalone (unstyledFields fields)
  | [] => rfl
  | ⟨_, _, presence, decoder⟩ :: rest => by
    rw [fieldNeeds, List.filter_append, List.filter_append, presenceSupport_filter,
      needs_unstyled decoder, fieldNeeds_unstyled rest, unstyledFields, fieldNeeds]

theorem caseNeeds_unstyled : (cases : List (Case Decoder)) →
    (caseNeeds style cases).filter (· ≠ .codec) = caseNeeds .standalone (unstyledCases cases)
  | [] => rfl
  | ⟨_, _, fields⟩ :: rest => by
    rw [caseNeeds, List.filter_append, fieldNeeds_unstyled fields, caseNeeds_unstyled rest,
      unstyledCases, caseNeeds]

end

theorem imports_unstyled (decoder : Decoder) :
    (decoder.imports style).filter (· ≠ .codec) = decoder.unstyled.imports .standalone := by
  unfold imports
  rw [← needs_unstyled style, List.filter_filter]
  refine List.filter_congr fun support _ => ?_
  by_cases codec : support = .codec
  · simp [codec]
  · simp [codec]

example :
    (Decoder.dict (.enumeration "T") .unit).imports .codecAccessor = [.decode, .keyedDict, .codec] :=
  rfl

end Needs

end Decoder

section Generation

def Options.unstyled (options : Options) : Options :=
  { options with references := .standalone }

namespace Site

def unstyled (site : Site) : Site :=
  { site with options := site.options.unstyled }

variable (site : Site)

theorem forField_unstyled {scope : String} {field : Field (TypeExpr Classification)}
    (inside : ∀ path, Decoder.unstyled <$> site.forType path field.type.held =
      site.unstyled.forType path field.type.held) :
    (fun own => { own with decoder := own.decoder.unstyled }) <$> site.forField scope field =
      site.unstyled.forField scope field := by
  unfold forField
  rw [← inside]
  simp only [map_bind, map_pure, bind_map_left]
  rfl

theorem forType_unstyled (path : String) (type : TypeExpr Classification) :
    Decoder.unstyled <$> site.forType path type = site.unstyled.forType path type := by
  induction type using TypeExpr.decodingInduction generalizing path with
  | unit | basic | named | emptyProduct | function => rfl
  | product info fields ih =>
    simp only [forType, forFields_eq_mapM]
    rw [← mapM_map_results fun field member =>
      site.forField_unstyled fun path => ih field member path]
    simp only [map_bind, map_pure, bind_map_left, Decoder.unstyled, Decoder.unstyledFields_eq]
  | list info element ih | set info element ih | optional info element ih
  | dict info key element ih =>
    simp only [forType, ← ih, map_bind, map_pure, bind_map_left, Decoder.unstyled]

theorem forFields_unstyled (scope : String) (fields : List (Field (TypeExpr Classification))) :
    Decoder.unstyledFields <$> site.forFields scope fields =
      site.unstyled.forFields scope fields := by
  rw [forFields_eq_mapM, forFields_eq_mapM, ← mapM_map_results fun field _ =>
    site.forField_unstyled fun path => site.forType_unstyled path _]
  rw [funext Decoder.unstyledFields_eq]

theorem forBody_unstyled (body : Body Classification) :
    Decoder.unstyled <$> site.forBody body = site.unstyled.forBody body := by
  cases body with
  | «alias» type => exact site.forType_unstyled site.declaration type
  | sum constructors =>
    have each : ∀ c ∈ constructors,
        (fun case => { case with fields := Decoder.unstyledFields case.fields }) <$>
          site.forCase c = site.unstyled.forCase c := by
      intro c _
      unfold forCase
      rw [← forFields_unstyled]
      simp only [map_bind, map_pure, bind_map_left]
      rfl
    simp only [forBody, forCases_eq_mapM]
    rw [← mapM_map_results each]
    simp only [map_bind, map_pure, bind_map_left, Decoder.unstyled, Decoder.unstyledCases_eq]
    rfl
  | enum | restricted => rfl

end Site

/-- A fragment without the style of its references and what it imports for it. -/
def Fragment.unstyled (fragment : Fragment) : Fragment :=
  { fragment with
    function := { fragment.function with body := fragment.function.body.unstyled }
    linkage :=
      { fragment.linkage with imports := fragment.linkage.imports.filter (· ≠ .codec) } }

variable (defaults : Defaults) (options : Options)

theorem decoderFragment_unstyled (declaration : Declaration Classification) :
    Fragment.unstyled <$> decoderFragment defaults options declaration =
      decoderFragment defaults options.unstyled declaration := by
  have body := (Site.mk defaults options declaration.name).forBody_unstyled declaration.body
  rw [Site.unstyled] at body
  simp only [decoderFragment_eq]
  simp only [← body, map_bind, map_pure, bind_map_left, Fragment.unstyled,
    Decoder.imports_unstyled]
  rfl

theorem requestedFragment_unstyled (declaration : Declaration Classification) :
    Fragment.unstyled <$> requestedFragment defaults options declaration =
      requestedFragment defaults options.unstyled declaration := by
  unfold requestedFragment
  split
  · rfl
  · split
    · rfl
    · exact decoderFragment_unstyled defaults options declaration
    · rfl

def Report.unstyled (report : Report) : Report :=
  { report with fragments := report.fragments.map Fragment.unstyled }

@[simp]
private theorem toOption_map {ε α β : Type} (g : α → β) (outcome : Except ε α) :
    (g <$> outcome).toOption = outcome.toOption.map g := by
  cases outcome <;> rfl

@[simp]
private theorem error?_map {ε α β : Type} (g : α → β) (outcome : Except ε α) :
    error? (g <$> outcome) = error? outcome := by
  cases outcome <;> rfl

theorem generate_unstyled (model : Model) :
    (generate defaults options model).unstyled = generate defaults options.unstyled model := by
  simp only [generate, Report.unstyled, List.filterMap_map, List.map_filterMap, Function.comp_def,
    ← requestedFragment_unstyled, toOption_map, error?_map, Option.map_map]

end Generation

namespace Decoding

def Activation.unstyled (activation : Activation) : Activation :=
  { activation with decoder := activation.decoder.unstyled }

section Unstyled

variable {table table' : DecoderTable}
  (same : ∀ name, table'.get? name = (table.get? name).map Decoder.unstyled)

include same in
private theorem key_unstyled [Pattern.Engine] (path : Path) (raw : String) (decoder : KeyDecoder) :
    key table' path raw decoder = key table path raw decoder := by
  cases decoder with
  | text => rfl
  | enumeration target =>
    simp only [key, same]
    rcases table.get? target with _ | decoder
    · rfl
    · cases decoder <;> rfl
  | refined target basic =>
    simp only [key, same]
    cases keyScalar basic raw with
    | error => rfl
    | ok value =>
      rcases table.get? target with _ | decoder
      · rfl
      · cases decoder <;> rfl

section Level

variable {next next' : Activation → Attempt Value}
  (below : ∀ activation, next' activation.unstyled = next activation)

include below

private theorem levelElements_unstyled (path : Path) (element : Decoder) (index : Nat)
    (items : List Json) :
    levelElements next' path element.unstyled index items =
      levelElements next path element index items := by
  induction items generalizing index with
  | nil => rfl
  | cons item rest ih =>
    rw [levelElements, levelElements, ih]
    exact congrArg (· >>= _) (below ⟨[], path.push (.index index), element, item⟩)

private theorem levelField_unstyled (path : Path) (members : List (String × Json))
    (field : FieldDecoder Decoder) :
    levelField next' path members { field with decoder := field.decoder.unstyled } =
      levelField next path members field := by
  have inside (item : Json) :
      next' ⟨[], path.push (.field field.key), field.decoder.unstyled, item⟩ =
        next ⟨[], path.push (.field field.key), field.decoder, item⟩ :=
    below ⟨[], path.push (.field field.key), field.decoder, item⟩
  simp only [levelField, inside]

private theorem levelFields_unstyled (path : Path) (members : List (String × Json))
    (done : List (String × Value)) (fields : List (FieldDecoder Decoder)) :
    levelFields next' path members done (Decoder.unstyledFields fields) =
      levelFields next path members done fields := by
  rw [Decoder.unstyledFields_eq]
  induction fields generalizing done with
  | nil => rfl
  | cons field rest ih =>
    simp only [List.map_cons, levelFields, levelField_unstyled below, ih]

include same

private theorem levelCall_unstyled (guarded : Bool) (activation : Activation) (target : String) :
    levelCall table' next' guarded activation.unstyled target =
      levelCall table next guarded activation target := by
  unfold levelCall
  rw [same]
  cases table.get? target with
  | none => rfl
  | some decoder =>
    have inside := below
      { activation with entered := target :: activation.entered, decoder }
    simp only [Option.map_some]
    exact congrArg (ite _ _) inside

variable [Pattern.Engine]

private theorem levelEntries_unstyled (path : Path) (key : KeyDecoder) (value : Decoder)
    (members : List (String × Json)) :
    levelEntries table' next' path key value.unstyled members =
      levelEntries table next path key value members := by
  induction members with
  | nil => rfl
  | cons member rest ih =>
    obtain ⟨raw, item⟩ := member
    have inside : next' ⟨[], path.push (.entry raw), value.unstyled, item⟩ =
        next ⟨[], path.push (.entry raw), value, item⟩ :=
      below ⟨[], path.push (.entry raw), value, item⟩
    simp only [levelEntries, key_unstyled same, inside, ih]

theorem level_unstyled (guarded : Bool) (activation : Activation) :
    level table' next' guarded activation.unstyled = level table next guarded activation := by
  obtain ⟨entered, path, decoder, input⟩ := activation
  cases decoder with
  | unit | primitive | enumeration | refined => rfl
  | call target style => exact levelCall_unstyled same below guarded _ target
  | list element | set element =>
    cases input with
    | array items =>
      simp only [level, Activation.unstyled, Decoder.unstyled, levelElements_unstyled below]
    | _ => rfl
  | nullable element =>
    have inside := below ⟨entered, path, element, input⟩
    cases input with
    | null => rfl
    | _ => exact congrArg (· >>= _) inside
  | dict key value =>
    cases input with
    | object members =>
      simp only [level, Activation.unstyled, Decoder.unstyled, levelEntries_unstyled same below]
    | _ => rfl
  | object fields =>
    cases input with
    | object members =>
      simp only [level, Activation.unstyled, Decoder.unstyled, levelFields_unstyled below]
    | _ => rfl
  | tagged discriminant cases =>
    cases input with
    | object members =>
      simp only [level, Activation.unstyled, Decoder.unstyled, Decoder.unstyledCases_eq,
        List.find?_map, Function.comp_def]
      cases findEntry discriminant members with
      | none => rfl
      | some found =>
        cases found with
        | string tag =>
          simp only
          cases cases.find? (·.tag = tag) with
          | none => rfl
          | some case => simp only [Option.map_some, levelFields_unstyled below]
        | _ => rfl
    | _ => rfl

end Level

variable [Pattern.Engine]

include same

theorem bounded_unstyled (guarded : Bool) (depth : Nat) (activation : Activation) :
    bounded guarded table' depth activation.unstyled = bounded guarded table depth activation := by
  induction depth generalizing activation with
  | zero => rfl
  | succ depth ih => exact level_unstyled same ih guarded activation

theorem decode_unstyled (name : String) (input : Json) :
    decode table' name input = decode table name input := by
  let depth := max (table.depthBound input) (table'.depthBound input)
  apply settled_injective
  calc settled (decode table' name input)
      = decodeWithin true table' depth name input :=
        (decodeWithin_eq_decode table' name input (Nat.le_max_right _ _)).symm
    _ = decodeWithin true table depth name input :=
        bounded_unstyled same true depth (.ofName name input)
    _ = settled (decode table name input) :=
        decodeWithin_eq_decode table name input (Nat.le_max_left _ _)

end Unstyled

end Decoding

theorem DecoderTable.get?_ofFragments_unstyled (fragments : List Fragment) (name : String) :
    (ofFragments (fragments.map Fragment.unstyled)).get? name =
      ((ofFragments fragments).get? name).map Decoder.unstyled := by
  have entries := OrderedMap.get?_insertAll_map Decoder.unstyled
    (fragments.map fun fragment => (fragment.declaration, fragment.function.body)) ∅ ∅
    (fun _ => rfl) name
  rw [List.map_map] at entries
  unfold ofFragments
  rw [List.map_map]
  exact entries

/-- What is generated in two styles has the same errors, for each declaration and as a whole, the
same fragments once the style of calls and the import of the codec module are left out, and decodes
every input in the same way. -/
theorem reference_style_immaterial [Pattern.Engine] (compiled : Compiled) (options : Options)
    (first second : ReferenceStyle) :
    let left := { options with references := first }
    let right := { options with references := second }
    (∀ d ∈ compiled.model.declarations, ∀ error,
      requestedFragment compiled.defaults left d = .error error ↔
        requestedFragment compiled.defaults right d = .error error) ∧
    (compiled.report left).errors = (compiled.report right).errors ∧
    (compiled.report left).counts = (compiled.report right).counts ∧
    (compiled.report left).fragments.map Fragment.unstyled =
      (compiled.report right).fragments.map Fragment.unstyled ∧
    ∀ name input,
      Decoding.decode (.ofFragments (compiled.report left).fragments) name input =
        Decoding.decode (.ofFragments (compiled.report right).fragments) name input := by
  intro left right
  have reports : (compiled.report left).unstyled = (compiled.report right).unstyled :=
    (generate_unstyled compiled.defaults left compiled.model).trans
      (generate_unstyled compiled.defaults right compiled.model).symm
  have fragments : (compiled.report left).fragments.map Fragment.unstyled =
      (compiled.report right).fragments.map Fragment.unstyled := congrArg Report.fragments reports
  have errors := congrArg Report.errors reports
  have counts := congrArg Report.counts reports
  have unstyled (report : Report) (name : String) (input : Json) :
      Decoding.decode (.ofFragments (report.fragments.map Fragment.unstyled)) name input =
        Decoding.decode (.ofFragments report.fragments) name input :=
    Decoding.decode_unstyled (DecoderTable.get?_ofFragments_unstyled report.fragments) name input
  refine ⟨fun d _ error => ?_, errors, counts, fragments, fun name input => ?_⟩
  · have outcomes := (requestedFragment_unstyled compiled.defaults left d).trans
      (requestedFragment_unstyled compiled.defaults right d).symm
    rw [← map_eq_error (g := Fragment.unstyled), outcomes, map_eq_error]
  · rw [← unstyled, fragments, unstyled]

end WireModel
