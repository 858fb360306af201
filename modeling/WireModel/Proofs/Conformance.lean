import WireModel.Proofs.Reading
import WireModel.Proofs.Scoping
import WireModel.Proofs.SetDecoding

/-! The meaning of a model: which JSON conforms to a type, and as which value. The rules look at
nothing but the declarations, so that a declaration that only leads back to itself has no
derivation. Decoders that are built by the shape of types read exactly what conforms. -/
namespace WireModel

/-- The key of a field on the wire: its own if it has one, else its name. -/
def FieldLabel.wireKey (label : FieldLabel) : String :=
  match label.info.properties.get? Coding.fieldNameSlot with
  | some (.present _ (.string key)) => key
  | _ => label.name

namespace Model

def tagKey (model : Model) : String :=
  match model.properties.get? Coding.tagFieldSlot with
  | some (.string tag) => tag
  | _ => Coding.defaultTagField

/-- A type that sets no rule for keys: it is no reference to an enumeration or a refinement. -/
def FreeKey (model : Model) (type : TypeExpr Classification) : Prop :=
  ∀ info name reference target, type = .named info name reference →
    model.find? name = some target → target.body.classify = .plain

private theorem not_freeKey {model : Model} {info : Info} {name : String}
    {reference : Classification}
    {target : Declaration Classification} (found : model.find? name = some target)
    (ruled : target.body.classify ≠ .plain) : ¬model.FreeKey (.named info name reference) :=
  fun free => ruled (free _ _ _ _ rfl found)

end Model

/-- What the text of a key conforms to, by the type of the keys. -/
inductive KeyConforms [Pattern.Engine] (model : Model) :
    TypeExpr Classification → String → Value → Prop
  | label {info name reference target labels raw} (found : model.find? name = some target)
      (body : target.body = .enum labels) (known : raw ∈ labels) :
      KeyConforms model (.named info name reference) raw (.label raw)
  | integer {info name reference target r value} (found : model.find? name = some target)
      (body : target.body = .restricted (.int r)) (admitted : r.Admits value) :
      KeyConforms model (.named info name reference) (Text.integerText value) (.int value)
  | string {info name reference target r raw} (found : model.find? name = some target)
      (body : target.body = .restricted (.string r)) (admitted : r.Admits raw) :
      KeyConforms model (.named info name reference) raw (.string raw)
  | free {type raw} (free : model.FreeKey type) : KeyConforms model type raw (.string raw)

/-- What inputs conform to: a type, what a declaration may hold besides a type, or one field or
several of the object that holds them. -/
inductive Subject where
  | type (type : TypeExpr Classification)
  | sum (constructors : List (Constructor Classification))
  | enum (labels : List String)
  | restricted (restriction : Restriction)
  | field (field : Field (TypeExpr Classification))
  | fields (fields : List (Field (TypeExpr Classification)))

def Body.subject : Body Classification → Subject
  | .alias type => .type type
  | .sum constructors => .sum constructors
  | .enum labels => .enum labels
  | .restricted restriction => .restricted restriction

/-- Which inputs conform to a subject, and as which values. -/
inductive Conforms [Pattern.Engine] (model : Model) : Subject → Json → Value → Prop
  | unit {info input} : Conforms model (.type (.unit info)) input .unit
  | basic {info scalar input value} (written : scalar.Writes input value) :
      Conforms model (.type (.basic info scalar)) input value
  | named {info name reference target input value} (found : model.find? name = some target)
      (body : Conforms model target.body.subject input value) :
      Conforms model (.type (.named info name reference)) input value
  | product {info fields members entries}
      (inside : Conforms model (.fields fields) (.object members) (.record entries)) :
      Conforms model (.type (.product info fields)) (.object members) (.record entries)
  | emptyProduct {info members} :
      Conforms model (.type (.emptyProduct info)) (.object members) (.record [])
  | list {info element items values} (length : items.length = values.length)
      (each : ∀ item value, (item, value) ∈ items.zip values →
        Conforms model (.type element) item value) :
      Conforms model (.type (.list info element)) (.array items) (.list values)
  | set {info element items values members} (length : items.length = values.length)
      (each : ∀ item value, (item, value) ∈ items.zip values →
        Conforms model (.type element) item value)
      (kept : FirstOccurrences values members) :
      Conforms model (.type (.set info element)) (.array items) (.set members)
  | null {info element} : Conforms model (.type (.optional info element)) .null .none
  | present {info element input value} (notNull : input ≠ .null)
      (inside : Conforms model (.type element) input value) :
      Conforms model (.type (.optional info element)) input (.some value)
  | dict {info keyType valueType members entries} (length : members.length = entries.length)
      (keys : ∀ raw item key value, ((raw, item), (key, value)) ∈ members.zip entries →
        KeyConforms model keyType raw key)
      (each : ∀ raw item key value, ((raw, item), (key, value)) ∈ members.zip entries →
        Conforms model (.type valueType) item value) :
      Conforms model (.type (.dict info keyType valueType)) (.object members) (.dict entries)
  | sum {constructors constructor members entries} (among : constructor ∈ constructors)
      (tag : findEntry model.tagKey members = some (.string constructor.name))
      (inside : Conforms model (.fields constructor.fields) (.object members) (.record entries)) :
      Conforms model (.sum constructors) (.object members) (.constructor constructor.name entries)
  | enum {labels label} (known : label ∈ labels) :
      Conforms model (.enum labels) (.string label) (.label label)
  | restricted {restriction input value} (admitted : restriction.Writes input value) :
      Conforms model (.restricted restriction) input value
  | fields {fields members values} (length : fields.length = values.length)
      (each : ∀ field value, (field, value) ∈ fields.zip values →
        Conforms model (.field field) (.object members) value) :
      Conforms model (.fields fields) (.object members)
        (.record (recordOf (fields.map (·.name)) values))
  | required {label type members item value}
      (needed : ∀ info element, type ≠ .optional info element)
      (found : findEntry label.wireKey members = some item)
      (inside : Conforms model (.type type) item value) :
      Conforms model (.field ⟨label, type⟩) (.object members) value
  | omitted {label info element members}
      (absent : findEntry label.wireKey members = none ∨
        findEntry label.wireKey members = some .null) :
      Conforms model (.field ⟨label, .optional info element⟩) (.object members) .none
  | supplied {label info element members item value}
      (found : findEntry label.wireKey members = some item) (notNull : item ≠ .null)
      (inside : Conforms model (.type element) item value) :
      Conforms model (.field ⟨label, .optional info element⟩) (.object members) (.some value)

open Decoding (Reader Reads KeyReads)

inductive KeyBuilds (model : Model) : TypeExpr Classification → KeyDecoder → Prop
  | label {info name reference target labels} (found : model.find? name = some target)
      (body : target.body = .enum labels) :
      KeyBuilds model (.named info name reference) (.enumeration name)
  | refined {info name reference target restriction} (found : model.find? name = some target)
      (body : target.body = .restricted restriction) :
      KeyBuilds model (.named info name reference) (.refined name restriction.basic)
  | free {type} (free : model.FreeKey type) : KeyBuilds model type .text

/-- The readers that go with a subject: they follow its shape, and hold the keys of the wire. -/
inductive Builds (model : Model) : Subject → Reader → Prop
  | unit {info} : Builds model (.type (.unit info)) (.decoder .unit)
  | basic {info scalar} : Builds model (.type (.basic info scalar)) (.decoder (.primitive scalar))
  | named {info name reference style} :
      Builds model (.type (.named info name reference)) (.decoder (.call name style))
  | product {info fields decoders} (inside : Builds model (.fields fields) (.fields decoders)) :
      Builds model (.type (.product info fields)) (.decoder (.object decoders))
  | emptyProduct {info} : Builds model (.type (.emptyProduct info)) (.decoder (.object []))
  | list {info element decoder} (inside : Builds model (.type element) (.decoder decoder)) :
      Builds model (.type (.list info element)) (.decoder (.list decoder))
  | set {info element decoder} (inside : Builds model (.type element) (.decoder decoder)) :
      Builds model (.type (.set info element)) (.decoder (.set decoder))
  | optional {info element decoder} (inside : Builds model (.type element) (.decoder decoder)) :
      Builds model (.type (.optional info element)) (.decoder (.nullable decoder))
  | dict {info keyType valueType keyDecoder decoder} (key : KeyBuilds model keyType keyDecoder)
      (inside : Builds model (.type valueType) (.decoder decoder)) :
      Builds model (.type (.dict info keyType valueType)) (.decoder (.dict keyDecoder decoder))
  | sum {constructors} {decoders : Constructor Classification → List (FieldDecoder Decoder)}
      (distinct : (constructors.map (·.name)).Nodup)
      (each : ∀ c ∈ constructors, Builds model (.fields c.fields) (.fields (decoders c))) :
      Builds model (.sum constructors)
        (.decoder (.tagged model.tagKey (constructors.map fun c => ⟨c.name, c.name, decoders c⟩)))
  | enum {name labels} : Builds model (.enum labels) (.decoder (.enumeration name labels))
  | restricted {name restriction} :
      Builds model (.restricted restriction) (.decoder (.refined name restriction))
  | fields {fields} {decoder : Field (TypeExpr Classification) → FieldDecoder Decoder}
      (each : ∀ field ∈ fields, Builds model (.field field) (.field (decoder field))) :
      Builds model (.fields fields) (.fields (fields.map decoder))
  | required {label type decoder} (needed : ∀ info element, type ≠ .optional info element)
      (inside : Builds model (.type type) (.decoder decoder)) :
      Builds model (.field ⟨label, type⟩) (.field ⟨label.name, label.wireKey, .required, decoder⟩)
  | optionalField {label info element decoder}
      (inside : Builds model (.type element) (.decoder decoder)) :
      Builds model (.field ⟨label, .optional info element⟩)
        (.field ⟨label.name, label.wireKey, .optional, decoder⟩)

namespace KeyBuilds

variable {model : Model} {info : Info} {name : String} {reference : Classification}
  {type : TypeExpr Classification} {keyDecoder : KeyDecoder}
  {target : Declaration Classification}

private theorem eq_enumeration {labels : List String}
    (builds : KeyBuilds model (.named info name reference) keyDecoder)
    (found : model.find? name = some target) (body : target.body = .enum labels) :
    keyDecoder = .enumeration name := by
  cases builds with
  | label => rfl
  | refined found' body' =>
    cases found.symm.trans found'
    cases body.symm.trans body'
  | free free => exact absurd free (Model.not_freeKey found (by simp [body, Body.classify]))

private theorem eq_refined {restriction : Restriction}
    (builds : KeyBuilds model (.named info name reference) keyDecoder)
    (found : model.find? name = some target) (body : target.body = .restricted restriction) :
    keyDecoder = .refined name restriction.basic := by
  cases builds with
  | label found' body' =>
    cases found.symm.trans found'
    cases body.symm.trans body'
  | refined found' body' =>
    cases found.symm.trans found'
    cases body.symm.trans body'
    rfl
  | free free => exact absurd free (Model.not_freeKey found (by simp [body, Body.classify]))

private theorem eq_text (builds : KeyBuilds model type keyDecoder) (free : model.FreeKey type) :
    keyDecoder = .text := by
  cases builds with
  | label found body | refined found body =>
    exact absurd free (Model.not_freeKey found (by simp [body, Body.classify]))
  | free => rfl

end KeyBuilds

private theorem Builds.field_name {model : Model} {field : Field (TypeExpr Classification)}
    {decoder : FieldDecoder Decoder} (builds : Builds model (.field field) (.field decoder)) :
    decoder.name = field.name := by
  cases builds <;> rfl

private theorem names_of_builds {model : Model} {fields : List (Field (TypeExpr Classification))}
    {decoder : Field (TypeExpr Classification) → FieldDecoder Decoder}
    (each : ∀ field ∈ fields, Builds model (.field field) (.field (decoder field))) :
    (fields.map decoder).map (·.name) = fields.map (·.name) := by
  rw [List.map_map]
  exact List.map_congr_left fun field member => (each field member).field_name

private theorem mem_zip_map {α β γ : Type} {f : α → β} {items : List α} {others : List γ}
    {result : β} {other : γ} :
    (result, other) ∈ (items.map f).zip others ↔
      ∃ item, (item, other) ∈ items.zip others ∧ f item = result := by
  simp [List.zip_map_left]

/-- A table with one decoder for each declaration, built by its shape. -/
structure DecoderTable.Implements (table : DecoderTable) (model : Model) : Prop where
  declared : ∀ name decoder, table.get? name = some decoder →
    ∃ target, model.find? name = some target ∧ Builds model target.body.subject (.decoder decoder)
  defined : ∀ name target, model.find? name = some target →
    ∃ decoder, table.get? name = some decoder ∧ Builds model target.body.subject (.decoder decoder)

namespace DecoderTable.Implements

variable {table : DecoderTable} {model : Model} (implements : table.Implements model)

include implements

theorem enumeration {name : String} {target : Declaration Classification} {labels : List String}
    (found : model.find? name = some target) (body : target.body = .enum labels) :
    ∃ own, table.get? name = some (.enumeration own labels) := by
  obtain ⟨decoder, got, builds⟩ := implements.defined name target found
  rw [body] at builds
  cases builds
  exact ⟨_, got⟩

theorem refined {name : String} {target : Declaration Classification} {restriction : Restriction}
    (found : model.find? name = some target) (body : target.body = .restricted restriction) :
    ∃ own, table.get? name = some (.refined own restriction) := by
  obtain ⟨decoder, got, builds⟩ := implements.defined name target found
  rw [body] at builds
  cases builds
  exact ⟨_, got⟩

variable [Pattern.Engine]

theorem keyConforms_of_keyReads {type : TypeExpr Classification} {keyDecoder : KeyDecoder}
    {raw : String} {value : Value} (builds : KeyBuilds model type keyDecoder)
    (reads : KeyReads table keyDecoder raw value) : KeyConforms model type raw value := by
  cases builds with
  | label found body =>
    obtain ⟨own, got⟩ := implements.enumeration found body
    cases reads with
    | label got' known =>
      rw [got] at got'
      cases got'
      exact .label found body known
  | @refined _ _ _ _ restriction found body =>
    obtain ⟨own, got⟩ := implements.refined found body
    generalize same : restriction.basic = basic at reads
    cases reads with
    | integer got' admitted =>
      rw [got] at got'
      cases got'
      exact .integer found body admitted
    | string _ got' admitted =>
      rw [got] at got'
      cases got'
      exact .string found body admitted
  | free free =>
    cases reads
    exact .free free

theorem keyReads_of_keyConforms {type : TypeExpr Classification} {keyDecoder : KeyDecoder}
    {raw : String} {value : Value} (builds : KeyBuilds model type keyDecoder)
    (conforms : KeyConforms model type raw value) : KeyReads table keyDecoder raw value := by
  cases conforms with
  | label found body known =>
    obtain rfl := builds.eq_enumeration found body
    obtain ⟨own, got⟩ := implements.enumeration found body
    exact .label got known
  | integer found body admitted =>
    obtain rfl := builds.eq_refined found body
    obtain ⟨own, got⟩ := implements.refined found body
    exact .integer got admitted
  | string found body admitted =>
    obtain rfl := builds.eq_refined found body
    obtain ⟨own, got⟩ := implements.refined found body
    exact .string nofun got admitted
  | free free =>
    obtain rfl := builds.eq_text free
    exact .text

theorem conforms_of_reads {reader : Reader} {input : Json} {value : Value}
    (reads : Reads table reader input value) {subject : Subject}
    (builds : Builds model subject reader) : Conforms model subject input value := by
  -- The reader of each rule fixes the shape of the subject, up to the empty product.
  induction reads generalizing subject with
  | unit =>
    cases builds
    exact .unit
  | primitive scalar =>
    cases builds
    exact .basic scalar
  | enumeration known =>
    cases builds
    exact .enum known
  | refined admitted =>
    cases builds
    exact .restricted admitted
  | call got _ ih =>
    cases builds
    obtain ⟨target, found, body⟩ := implements.declared _ _ got
    exact .named found (ih body)
  | list length _ ih =>
    cases builds with
    | list inside => exact .list length fun item value pair => ih item value pair inside
  | set length _ ih =>
    cases builds with
    | set inside =>
      exact .set length (fun item value pair => ih item value pair inside)
        (firstOccurrences_distinct _)
  | null =>
    cases builds
    exact .null
  | present notNull _ ih =>
    cases builds with
    | optional inside => exact .present notNull (ih inside)
  | dict length keys _ ih =>
    cases builds with
    | dict key inside =>
      exact .dict length
        (fun _ _ _ _ pair => implements.keyConforms_of_keyReads key (keys _ _ _ _ pair))
        fun _ _ _ _ pair => ih _ _ _ _ pair inside
  | object reads ih =>
    cases builds with
    | product inside => exact .product (ih inside)
    | emptyProduct =>
      cases reads with
      | fields length =>
        obtain rfl := List.eq_nil_of_length_eq_zero length.symm
        exact .emptyProduct
  | tagged foundTag foundCase _ ih =>
    cases builds with
    | sum distinct each =>
      rw [List.find?_map] at foundCase
      obtain ⟨c, found, rfl⟩ := Option.map_eq_some_iff.1 foundCase
      have among := List.mem_of_find?_eq_some found
      obtain rfl : c.name = _ := by simpa using List.find?_some found
      exact .sum among foundTag (ih (each c among))
  | fields length _ ih =>
    cases builds with
    | fields each =>
      rw [names_of_builds each]
      refine .fields (by simpa using length) fun field value pair => ?_
      exact ih _ value (mem_zip_map.2 ⟨field, pair, rfl⟩) (each field (List.of_mem_zip pair).1)
  | required needed found _ ih =>
    cases builds with
    | required notOptional inside => exact .required notOptional found (ih inside)
    | optionalField => cases needed
  | omitted optional absent =>
    cases builds with
    | required => cases optional
    | optionalField => exact .omitted absent
  | supplied optional found notNull _ ih =>
    cases builds with
    | required => cases optional
    | optionalField inside => exact .supplied found notNull (ih inside)

theorem reads_of_conforms {subject : Subject} {input : Json} {value : Value}
    (conforms : Conforms model subject input value) {reader : Reader}
    (builds : Builds model subject reader) : Reads table reader input value := by
  induction conforms generalizing reader with
  | unit =>
    cases builds
    exact .unit
  | basic written =>
    cases builds
    exact .primitive written
  | named found _ ih =>
    cases builds
    obtain ⟨decoder, got, body⟩ := implements.defined _ _ found
    exact .call got (ih body)
  | product _ ih =>
    cases builds with
    | product inside => exact .object (ih inside)
  | emptyProduct =>
    cases builds
    exact .object (@Reads.fields _ table [] _ [] rfl (by simp))
  | list length _ ih =>
    cases builds with
    | list inside => exact .list length fun item value pair => ih item value pair inside
  | set length _ kept ih =>
    cases builds with
    | set inside =>
      rw [kept.eq_distinct]
      exact .set length fun item value pair => ih item value pair inside
  | null =>
    cases builds
    exact .null
  | present notNull _ ih =>
    cases builds with
    | optional inside => exact .present notNull (ih inside)
  | dict length keys _ ih =>
    cases builds with
    | dict key inside =>
      exact .dict length
        (fun _ _ _ _ pair => implements.keyReads_of_keyConforms key (keys _ _ _ _ pair))
        fun _ _ _ _ pair => ih _ _ _ _ pair inside
  | @sum constructors c _ _ among tag _ ih =>
    cases builds with
    | @sum _ decoders distinct each =>
      have foundCase : (constructors.map fun c => Case.mk c.name c.name (decoders c)).find?
          (·.tag = c.name) = some ⟨c.name, c.name, decoders c⟩ := by
        rw [List.find?_map]
        exact congrArg (Option.map _) (find?_of_nodup distinct among)
      exact .tagged tag foundCase (ih (each c among))
  | enum known =>
    cases builds
    exact .enumeration known
  | restricted admitted =>
    cases builds
    exact .refined admitted
  | @fields fields members values length _ ih =>
    cases builds with
    | @fields _ decoder each =>
      rw [← names_of_builds each]
      refine .fields (by simpa using length) fun field value pair => ?_
      obtain ⟨field, before, rfl⟩ := mem_zip_map.1 pair
      exact ih field value before (each field (List.of_mem_zip before).1)
  | required needed found _ ih =>
    cases builds with
    | required _ inside => exact .required rfl found (ih inside)
    | optionalField => exact absurd rfl (needed _ _)
  | omitted absent =>
    cases builds with
    | required needed => exact absurd rfl (needed _ _)
    | optionalField => exact .omitted rfl absent
  | supplied found notNull _ ih =>
    cases builds with
    | required needed => exact absurd rfl (needed _ _)
    | optionalField inside => exact .supplied rfl found notNull (ih inside)

theorem decode_eq_ok {name : String} {input : Json} {value : Value} :
    Decoding.decode table name input = .ok value ↔
      ∃ target, model.find? name = some target ∧
        Conforms model target.body.subject input value := by
  rw [Decoding.decode_eq_ok]
  constructor
  · intro reads
    cases reads with
    | call got inside =>
      obtain ⟨target, found, builds⟩ := implements.declared _ _ got
      exact ⟨target, found, implements.conforms_of_reads inside builds⟩
  · rintro ⟨target, found, conforms⟩
    obtain ⟨decoder, got, builds⟩ := implements.defined _ _ found
    exact .call got (implements.reads_of_conforms conforms builds)

end DecoderTable.Implements

end WireModel
