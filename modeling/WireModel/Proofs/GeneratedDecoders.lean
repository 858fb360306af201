import WireModel.Pattern.Compiled
import WireModel.Proofs.CheckedSlots
import WireModel.Proofs.Conformance

/-! The decoders of a compiled model. What is generated for a declaration is built by its shape,
with the keys that the model gives to fields and the tag that it gives to sums; a complete report
holds one decoder for each declaration. So decoding means what the model says. -/
namespace WireModel

variable {model : Model}

theorem FieldLabel.getD_eq_wireKey {defaults : Defaults}
    (unset : (defaults.of .field).values.get? Coding.fieldNameSlot = some (.absent .string))
    {label : FieldLabel} {text : Option String}
    (read : (defaults.fieldView label).string? Coding.fieldNameSlot = .ok text) :
    text.getD label.name = label.wireKey := by
  obtain own | ⟨own, default⟩ := PropertyView.lookup_eq_some.1 (PropertyView.string?_eq_ok.1 read)
  · rw [wireKey, show label.info.properties.get? _ = _ from own]
    cases text <;> rfl
  · rw [wireKey, show label.info.properties.get? _ = _ from own]
    cases text with
    | none => rfl
    | some text => cases unset.symm.trans default

theorem Model.eq_tagKey {defaults : Defaults}
    (unset : (defaults.of .top).values.get? Coding.tagFieldSlot =
      some (.string Coding.defaultTagField))
    {tag : String} (read : (defaults.topView model).string Coding.tagFieldSlot = .ok tag) :
    tag = model.tagKey := by
  obtain own | ⟨own, default⟩ := PropertyView.lookup_eq_some.1 (PropertyView.string_eq_ok.1 read)
  · rw [tagKey, show model.properties.get? _ = _ from own]
  · rw [tagKey, show model.properties.get? _ = _ from own]
    have same := unset.symm.trans default
    rw [Option.some.injEq, Property.string.injEq] at same
    exact same.symm

theorem keyBuilds_ofType {type : TypeExpr Classification}
    (classified : ∀ r ∈ type.references, model.Classifies r) :
    KeyBuilds model type (.ofType type) := by
  cases type with
  | named info name reference =>
    obtain ⟨target, found, same⟩ := classified ⟨name, reference, info.position⟩ List.mem_cons_self
    obtain rfl : reference = target.body.classify := same
    have free : target.body.classify = .plain →
        model.FreeKey (.named info name target.body.classify) := by
      intro plain _ _ _ other same found'
      cases same
      cases found.symm.trans found'
      exact plain
    rcases body : target.body with type | constructors | labels | restriction
    · rw [body] at free
      exact .free (free rfl)
    · rw [body] at free
      exact .free (free rfl)
    · exact .label found body
    · exact .refined found body
  | _ =>
    refine .free fun _ _ _ _ same => ?_
    cases same

namespace Site

variable {site : Site}

instance : Nonempty (FieldDecoder Decoder) := ⟨⟨"", "", .required, .unit⟩⟩

instance : Nonempty (Case Decoder) := ⟨⟨"", "", []⟩⟩

section Builds

variable (keys : ∀ label key, site.fieldKey label = .ok key → key = label.wireKey)

include keys

private theorem builds_of_forField {scope : String} {field : Field (TypeExpr Classification)}
    {decoder : FieldDecoder Decoder}
    (inside : ∀ path decoder, site.forType path field.type.held = .ok decoder →
      Builds model (.type field.type.held) (.decoder decoder))
    (h : site.forField scope field = .ok decoder) :
    Builds model (.field field) (.field decoder) := by
  obtain ⟨label, type⟩ := field
  obtain ⟨key, read, h⟩ := bind_eq_ok.1 h
  obtain ⟨body, built, rfl⟩ := return_eq_ok.1 h
  obtain rfl := keys label key read
  have builds := inside _ _ built
  cases type with
  | optional info element => exact .optionalField builds
  | _ => exact .required (by simp) builds

private theorem builds_of_forFields {scope : String}
    {fields : List (Field (TypeExpr Classification))} {decoders : List (FieldDecoder Decoder)}
    (inside : ∀ field ∈ fields, ∀ path decoder, site.forType path field.type.held = .ok decoder →
      Builds model (.type field.type.held) (.decoder decoder))
    (h : site.forFields scope fields = .ok decoders) :
    Builds model (.fields fields) (.fields decoders) := by
  rw [forFields_eq_mapM] at h
  obtain ⟨decoder, rfl, each⟩ := exists_map_of_mapM h
  refine .fields fun field member => ?_
  exact builds_of_forField keys (inside field member) (each field member)

private theorem builds_of_forType {path : String} {type : TypeExpr Classification}
    {decoder : Decoder} (classified : ∀ r ∈ type.references, model.Classifies r)
    (h : site.forType path type = .ok decoder) : Builds model (.type type) (.decoder decoder) := by
  induction type using TypeExpr.decodingInduction generalizing path decoder with
  | unit =>
    cases h
    exact .unit
  | basic =>
    cases h
    exact .basic
  | named =>
    cases h
    exact .named
  | product info fields ih =>
    simp only [TypeExpr.references, TypeExpr.fieldReferences_eq, List.mem_flatMap] at classified
    obtain ⟨decoders, built, rfl⟩ := return_eq_ok.1 h
    refine .product (builds_of_forFields keys (fun field member path decoder built => ?_) built)
    refine ih field member (fun r inField => classified r ⟨field, member, ?_⟩) built
    rwa [TypeExpr.references_held] at inField
  | emptyProduct =>
    cases h
    exact .emptyProduct
  | list info element ih =>
    obtain ⟨inner, built, rfl⟩ := return_eq_ok.1 h
    exact .list (ih classified built)
  | set info element ih =>
    obtain ⟨inner, built, rfl⟩ := return_eq_ok.1 h
    exact .set (ih classified built)
  | optional info element ih =>
    obtain ⟨inner, built, rfl⟩ := return_eq_ok.1 h
    exact .optional (ih classified built)
  | dict info key value ih =>
    obtain ⟨inner, built, rfl⟩ := return_eq_ok.1 h
    exact .dict (keyBuilds_ofType fun r inKey => classified r (List.mem_append_left _ inKey))
      (ih (fun r inValue => classified r (List.mem_append_right _ inValue)) built)
  | function => cases h

theorem builds_of_forBody {body : Body Classification} {decoder : Decoder}
    (tag : site.options.tagField = model.tagKey) (distinct : body.constructorNames.Nodup)
    (classified : ∀ r ∈ body.references, model.Classifies r)
    (h : site.forBody body = .ok decoder) : Builds model body.subject (.decoder decoder) := by
  rcases body with type | constructors | labels | restriction
  · exact builds_of_forType keys classified h
  · simp only [Body.references, TypeExpr.fieldReferences_eq, List.mem_flatMap] at classified
    obtain ⟨cases, built, rfl⟩ := return_eq_ok.1 h
    rw [forCases_eq_mapM] at built
    obtain ⟨case, rfl, each⟩ := exists_map_of_mapM built
    have shape : constructors.map case =
        constructors.map fun c => ⟨c.name, c.name, (case c).fields⟩ := by
      refine List.map_congr_left fun c among => ?_
      obtain ⟨_, _, same⟩ := return_eq_ok.1 (each c among)
      rw [← same]
    rw [tag, shape]
    refine .sum distinct fun c among => ?_
    obtain ⟨_, built, same⟩ := return_eq_ok.1 (each c among)
    rw [← same]
    refine builds_of_forFields keys (fun field member path decoder built => ?_) built
    refine builds_of_forType keys (fun r inField => ?_) built
    rw [TypeExpr.references_held] at inField
    exact classified r ⟨c, among, field, member, inField⟩
  · cases h
    exact .enum
  · cases h
    exact .restricted

end Builds

theorem fieldKey_eq_wireKey
    (unset : (site.defaults.of .field).values.get? Coding.fieldNameSlot = some (.absent .string))
    {label : FieldLabel} {key : String} (h : site.fieldKey label = .ok key) :
    key = label.wireKey := by
  unfold fieldKey at h
  split at h
  case h_2 => cases h
  case h_1 text read =>
    cases h
    exact FieldLabel.getD_eq_wireKey unset read

end Site

theorem Options.string_tagField {defaults : Defaults} {options : Options}
    (h : Options.ofModel defaults model = .ok options) :
    (defaults.topView model).string Coding.tagFieldSlot = .ok options.tagField := by
  obtain ⟨_, _, h⟩ := bind_eq_ok.1 h
  obtain ⟨tag, read, h⟩ := bind_eq_ok.1 h
  obtain ⟨_, _, h⟩ := bind_eq_ok.1 h
  cases h
  exact read

theorem Options.tagField_eq_tagKey {defaults : Defaults} {options : Options}
    (unset : (defaults.of .top).values.get? Coding.tagFieldSlot =
      some (.string Coding.defaultTagField))
    (h : Options.ofModel defaults model = .ok options) : options.tagField = model.tagKey :=
  Model.eq_tagKey unset (Options.string_tagField h)

abbrev Compiled.report (compiled : Compiled) (options : Options) : Report :=
  generate compiled.defaults options compiled.model

section Report

variable {defaults : Defaults} {options : Options}

theorem requestedFragment_eq_ok {declaration : Declaration Classification} {fragment : Fragment}
    (h : requestedFragment defaults options declaration = .ok fragment) :
    fragment.declaration = declaration.name ∧
      (Site.mk defaults options declaration.name).forBody declaration.body =
        .ok fragment.function.body := by
  unfold requestedFragment at h
  split at h
  · cases h
  · split at h
    · cases h
    · rw [decoderFragment_eq] at h
      obtain ⟨body, built, h⟩ := bind_eq_ok.1 h
      obtain ⟨doc, _, rfl⟩ := return_eq_ok.1 h
      exact ⟨rfl, built⟩
    · cases h

theorem requestedFragment_of_complete (complete : (generate defaults options model).isComplete)
    {declaration : Declaration Classification} (member : declaration ∈ model.declarations) :
    ∃ fragment, requestedFragment defaults options declaration = .ok fragment := by
  simp only [generate, Report.isComplete, List.filterMap_map, List.isEmpty_iff,
    List.filterMap_eq_nil_iff] at complete
  have noError := complete declaration member
  cases outcome : requestedFragment defaults options declaration with
  | ok fragment => exact ⟨fragment, rfl⟩
  | error error => simp [outcome, error?] at noError

theorem fragments_of_complete (complete : (generate defaults options model).isComplete) :
    List.Forall₂ (fun declaration fragment =>
        requestedFragment defaults options declaration = .ok fragment)
      model.declarations (generate defaults options model).fragments := by
  have all := @requestedFragment_of_complete model defaults options complete
  simp only [generate, List.filterMap_map, Function.comp_def]
  generalize model.declarations = declarations at all ⊢
  induction declarations with
  | nil => exact .nil
  | cons declaration rest ih =>
    obtain ⟨fragment, generated⟩ := all List.mem_cons_self
    rw [List.filterMap_cons, toOption_eq_some.2 generated]
    exact .cons generated (ih fun member => all (List.mem_cons_of_mem _ member))

private theorem findEntry_fragments {declarations : List (Declaration Classification)}
    {fragments : List Fragment}
    (each : List.Forall₂ (fun declaration fragment =>
      requestedFragment defaults options declaration = .ok fragment) declarations fragments)
    (name : String) :
    findEntry name (fragments.map fun fragment => (fragment.declaration, fragment.function.body)) =
      (findDeclaration? name declarations).bind fun d =>
        ((Site.mk defaults options d.name).forBody d.body).toOption := by
  induction each with
  | nil => rfl
  | @cons declaration fragment _ _ head _ ih =>
    obtain ⟨sameName, built⟩ := requestedFragment_eq_ok head
    rw [List.map_cons, findEntry, ih, sameName]
    by_cases same : name = declaration.name
    · subst same
      simp [findDeclaration?, toOption_eq_some.2 built]
    · simp [findDeclaration?, same, Ne.symm same]

theorem declarations_of_fragments {declarations : List (Declaration Classification)}
    {fragments : List Fragment}
    (each : List.Forall₂ (fun declaration fragment =>
      requestedFragment defaults options declaration = .ok fragment) declarations fragments) :
    fragments.map (·.declaration) = declarations.map (·.name) := by
  induction each with
  | nil => rfl
  | cons head _ ih => rw [List.map_cons, List.map_cons, ih, (requestedFragment_eq_ok head).1]

theorem fragments_sublist :
    ((generate defaults options model).fragments.map (·.declaration)).Sublist
      (model.declarations.map (·.name)) := by
  simp only [generate, List.filterMap_map, Function.comp_def]
  induction model.declarations with
  | nil => exact .slnil
  | cons declaration rest ih =>
    rw [List.map_cons]
    cases outcome : requestedFragment defaults options declaration with
    | error error =>
      rw [List.filterMap_cons, outcome]
      exact .cons _ ih
    | ok fragment =>
      rw [List.filterMap_cons, outcome, ← (requestedFragment_eq_ok outcome).1]
      exact .cons_cons _ ih

theorem nodup_fragmentKeys (defaults : Defaults) (options : Options)
    (names : (model.declarations.map (·.name)).Nodup) :
    (((generate defaults options model).fragments.map fun fragment =>
      (fragment.declaration, fragment.function.body)).map Prod.fst).Nodup := by
  rw [List.map_map]
  exact names.sublist fragments_sublist

theorem get?_ofFragments (names : (model.declarations.map (·.name)).Nodup)
    (complete : (generate defaults options model).isComplete) (name : String) :
    (DecoderTable.ofFragments (generate defaults options model).fragments).get? name =
      (model.find? name).bind fun d =>
        ((Site.mk defaults options d.name).forBody d.body).toOption := by
  have each := fragments_of_complete complete
  have distinct := nodup_fragmentKeys defaults options names
  rw [DecoderTable.ofFragments, OrderedMap.ofList, OrderedMap.get?_insertAll_of_nodup _ distinct,
    OrderedMap.get?_empty, Option.or_none, findEntry_fragments each, Model.find?]

theorem exists_get?_of_complete (names : (model.declarations.map (·.name)).Nodup)
    (complete : (generate defaults options model).isComplete) {name : String}
    {declaration : Declaration Classification} (found : model.find? name = some declaration) :
    ∃ decoder, (DecoderTable.ofFragments (generate defaults options model).fragments).get? name =
      some decoder := by
  obtain ⟨fragment, generated⟩ :=
    requestedFragment_of_complete complete (List.mem_of_find?_eq_some found)
  refine ⟨fragment.function.body, ?_⟩
  rw [get?_ofFragments names complete, found]
  exact toOption_eq_some.2 (requestedFragment_eq_ok generated).2

/-- The table of a complete report implements the model, if the defaults of the coding processor are
in force. -/
theorem implements_of_complete (wellScoped : model.WellScoped)
    (unsetKey : (defaults.of .field).values.get? Coding.fieldNameSlot = some (.absent .string))
    (unsetTag : (defaults.of .top).values.get? Coding.tagFieldSlot =
      some (.string Coding.defaultTagField))
    (chosen : Options.ofModel defaults model = .ok options)
    (complete : (generate defaults options model).isComplete) :
    (DecoderTable.ofFragments (generate defaults options model).fragments).Implements model := by
  have builds : ∀ target ∈ model.declarations, ∀ decoder,
      (Site.mk defaults options target.name).forBody target.body = .ok decoder →
      Builds model target.body.subject (.decoder decoder) := by
    intro target member decoder built
    exact Site.builds_of_forBody (fun _ _ => Site.fieldKey_eq_wireKey unsetKey)
      (Options.tagField_eq_tagKey unsetTag chosen) (wellScoped.constructors target member)
      (wellScoped.references target member) built
  have table := get?_ofFragments wellScoped.names complete
  constructor
  · intro name decoder got
    rw [table] at got
    obtain ⟨target, found, built⟩ := Option.bind_eq_some_iff.1 got
    exact ⟨target, found, builds target (List.mem_of_find?_eq_some found) decoder
      (toOption_eq_some.1 built)⟩
  · intro name target found
    have member := List.mem_of_find?_eq_some found
    obtain ⟨fragment, generated⟩ := requestedFragment_of_complete complete member
    have built := (requestedFragment_eq_ok generated).2
    refine ⟨fragment.function.body, ?_, builds target member _ built⟩
    rw [table, found]
    exact toOption_eq_some.2 built

end Report

section Compiled

variable [Pattern.Engine] {draft : Draft} {properties : Properties} {processors : List Processor}
  {compiled : Compiled} {options : Options}

/-- Decoding with the decoders generated for a compiled model gives a value exactly if the input
conforms to the declaration as that value. -/
theorem decode_iff_conforms (coding : .coding ∈ processors)
    (compiles : compile draft properties processors = .ok compiled)
    (chosen : Options.ofModel compiled.defaults compiled.model = .ok options)
    (complete : (generate compiled.defaults options compiled.model).isComplete)
    (name : String) (input : Json) (value : Value) :
    Decoding.decode (.ofFragments (generate compiled.defaults options compiled.model).fragments)
        name input = .ok value ↔
      ∃ declaration, compiled.model.find? name = some declaration ∧
        Conforms compiled.model declaration.body.subject input value := by
  have defaults := compiled_defaults compiles
  refine (implements_of_complete (compiled_wellScoped compiles) ?_ ?_ chosen complete).decode_eq_ok
  · rw [defaults]
    exact Processor.values_mergedDefaults coding rfl
  · rw [defaults]
    exact Processor.values_mergedDefaults coding rfl

end Compiled

def seriesDraft : Draft where
  declarations := [
    { name := "Series"
      body := .sum [
        { name := "start" },
        { name := "more"
          fields := [
            { name := "points"
              type := .set {} (.basic {} .real)
              info := { properties := .ofList [
                (Coding.fieldNameSlot, .wrap (.string "values"))] } },
            { name := "before", type := .named {} "Series" () }] }]
      info := decodedInfo }]
  wellScoped := by decide

def seriesModel : Model where
  properties := .ofList [(Coding.tagFieldSlot, .string "kind")]
  declarations := seriesDraft.declarations.map (classifyReferences seriesDraft.declarations)

def powerOfTwo (negative : Bool) (field : Fin 2047) : Double where
  negative
  magnitude := ⟨field * Nat.pow 2 52, Nat.mul_lt_mul_of_pos_right field.isLt (Nat.two_pow_pos 52)⟩

section Program

attribute [local instance] Pattern.regexEngine

theorem decode_iff_conforms_series :
    ∃ compiled options,
      compile seriesDraft (.ofList [(Coding.tagFieldSlot, .string "kind")]) [.coding] =
        .ok compiled ∧
      Options.ofModel compiled.defaults compiled.model = .ok options ∧
      (generate compiled.defaults options compiled.model).isComplete ∧
      Decoding.decode (.ofFragments (generate compiled.defaults options compiled.model).fragments)
          "Series" (.object [("before", .object [("kind", .string "start")]),
            ("kind", .string "more"),
            ("values", .array [.number (.integer 9007199254740993),
              .number (.double (powerOfTwo false 1076)),
              .number (.double (powerOfTwo true 1022))])]) =
        .ok (.constructor "more" [("before", .constructor "start" []),
          ("points", .set [.real (powerOfTwo false 1076), .real (powerOfTwo true 1022)])]) := by
  have compiles : compile seriesDraft (.ofList [(Coding.tagFieldSlot, .string "kind")]) [.coding] =
      .ok ⟨seriesModel, Processor.mergedDefaults [.coding], [.coding]⟩ := rfl
  have start : ∀ info reference, Conforms seriesModel (.type (.named info "Series" reference))
      (.object [("kind", .string "start")]) (.constructor "start" []) := by
    intro info reference
    refine .named rfl (.sum List.mem_cons_self rfl ?_)
    exact @Conforms.fields _ _ [] _ [] rfl (by simp)
  -- The integer lies between two doubles, and the even one of them is in the list already.
  have rounded : (Number.integer 9007199254740993).Denotes (powerOfTwo false 1076) :=
    Number.denotes_iff.2 rfl
  have distinct : Value.distinct [.real (powerOfTwo false 1076), .real (powerOfTwo false 1076),
      .real (powerOfTwo true 1022)] =
      [.real (powerOfTwo false 1076), .real (powerOfTwo true 1022)] := by
    simp [Value.distinct, Value.distinctFrom, Value.same, Double.same, powerOfTwo]
  have points : ∀ info element, Conforms seriesModel (.type (.set info (.basic element .real)))
      (.array [.number (.integer 9007199254740993), .number (.double (powerOfTwo false 1076)),
        .number (.double (powerOfTwo true 1022))])
      (.set [.real (powerOfTwo false 1076), .real (powerOfTwo true 1022)]) := by
    intro info element
    rw [← distinct]
    refine .set rfl (fun item value pair => ?_) (firstOccurrences_distinct _)
    simp only [List.zip_cons_cons, List.zip_nil_right, List.mem_cons, List.not_mem_nil, or_false,
      Prod.mk.injEq] at pair
    obtain ⟨rfl, rfl⟩ | ⟨rfl, rfl⟩ | ⟨rfl, rfl⟩ := pair
    · exact .basic (.real rounded)
    · exact .basic (.real .double)
    · exact .basic (.real .double)
  refine ⟨_, ⟨.standalone, "kind", ["Generated"]⟩, compiles, rfl, rfl, ?_⟩
  refine (decode_iff_conforms (by decide) compiles rfl rfl _ _ _).2 ⟨_, rfl, ?_⟩
  refine .sum (List.mem_cons_of_mem _ List.mem_cons_self) rfl ?_
  refine @Conforms.fields _ _ _ _
    [.set [.real (powerOfTwo false 1076), .real (powerOfTwo true 1022)], .constructor "start" []]
    rfl ?_
  intro field value pair
  rcases List.mem_cons.1 pair with same | later
  · cases same
    exact .required (by simp [TypeExpr.mapReferences]) rfl (points _ _)
  · cases List.mem_singleton.1 later
    exact .required (by simp [TypeExpr.mapReferences]) rfl (start _ _)

end Program

end WireModel
