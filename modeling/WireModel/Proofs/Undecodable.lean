import WireModel.Pattern.Compiled
import WireModel.Proofs.CheckedSlots
import WireModel.Proofs.Places
import Mathlib.Data.List.Lex

/-! Declarations that cannot be decoded. Values are decoded at the types of fields, at the elements
of lists, sets and optional types and at the values of maps; a function there has no decoder, while
keys of maps are never looked into. Generation fails exactly if such a function is there, and blames
the first one from left to right, a type before its parts. -/
namespace WireModel

section First

variable {α β γ ε : Type} {lookup : Place → Option α} {P : α → Prop} {blame : α → ε}

/-- The item with a property that stands before all others, in the order of places. -/
def FirstAt (lookup : Place → Option α) (P : α → Prop) (item : α) : Prop :=
  ∃ place, lookup place = some item ∧ P item ∧
    ∀ earlier other, earlier.Before place → lookup earlier = some other → ¬P other

theorem FirstAt.holds {item : α} (h : FirstAt lookup P item) : P item :=
  let ⟨_, _, holds, _⟩ := h
  holds

theorem FirstAt.unique {item item' : α} (h : FirstAt lookup P item) (h' : FirstAt lookup P item') :
    item = item' := by
  obtain ⟨place, there, holds, first⟩ := h
  obtain ⟨place', there', holds', first'⟩ := h'
  have same : place = place' := by
    apply Std.Trichotomous.trichotomous (r := Place.Before)
    · intro before
      exact first' place item before there holds
    · intro before
      exact first place' item' before there' holds'
  subst same
  exact Option.some.inj (there.symm.trans there')

/-- Succeeds exactly if no item has a property, and otherwise blames the first that has it. -/
def BlamesFirst (lookup : Place → Option α) (P : α → Prop) (blame : α → ε) : Except ε β → Prop
  | .ok _ => ∀ place item, lookup place = some item → ¬P item
  | .error error => ∃ item, FirstAt lookup P item ∧ blame item = error

namespace BlamesFirst

private theorem error_iff {outcome : Except ε β} (h : BlamesFirst lookup P blame outcome)
    {error : ε} : outcome = .error error ↔ ∃ item, FirstAt lookup P item ∧ blame item = error := by
  cases outcome with
  | ok result =>
    refine iff_of_false (by simp) ?_
    rintro ⟨item, ⟨place, there, holds, _⟩, _⟩
    exact h place item there holds
  | error cause =>
    obtain ⟨item, first, rfl⟩ := h
    constructor
    · rintro ⟨rfl⟩
      exact ⟨item, first, rfl⟩
    · rintro ⟨item', first', rfl⟩
      rw [first.unique first']

theorem fails_iff {outcome : Except ε β} (h : BlamesFirst lookup P blame outcome) :
    (∃ error, outcome = .error error) ↔ ∃ place item, lookup place = some item ∧ P item := by
  cases outcome with
  | ok result =>
    refine iff_of_false (by simp) ?_
    rintro ⟨place, item, there, holds⟩
    exact h place item there holds
  | error cause =>
    refine iff_of_true ⟨cause, rfl⟩ ?_
    obtain ⟨item, ⟨place, there, holds, _⟩, _⟩ := h
    exact ⟨place, item, there, holds⟩

theorem return_iff {outcome : Except ε β} (f : β → γ) :
    BlamesFirst lookup P blame (do return f (← outcome)) ↔
      BlamesFirst lookup P blame outcome := by
  cases outcome <;> exact Iff.rfl

theorem root {outcome : Except ε β} {own : α} {inside : γ → Place → Option α} {parts : List γ}
    (here : lookup [] = some own) (clear : ¬P own)
    (below : ∀ index rest, lookup (index :: rest) = parts[index]?.bind (inside · rest))
    (h : BlamesFirst (enter inside parts) P blame outcome) :
    BlamesFirst lookup P blame outcome := by
  have agree (place : Place) {item : α} (there : lookup place = some item) (holds : P item) :
      enter inside parts place = some item := by
    cases place with
    | nil =>
      cases here.symm.trans there
      exact absurd holds clear
    | cons index rest => rwa [below] at there
  cases outcome with
  | ok result =>
    intro place item there holds
    exact h place item (agree place there holds) holds
  | error error =>
    obtain ⟨item, ⟨place, there, holds, first⟩, same⟩ := h
    cases place with
    | nil => cases there
    | cons index rest =>
      refine ⟨item, ⟨index :: rest, (below index rest).trans there, holds, ?_⟩, same⟩
      intro earlier other before there' holds'
      exact first earlier other before (agree earlier there' holds') holds'

theorem clear {outcome : Except ε β} (h : BlamesFirst lookup P blame outcome) {result : β}
    (passed : outcome = .ok result) (place : Place) (item : α) (there : lookup place = some item) :
    ¬P item := by
  subst passed
  exact h place item there

theorem mapM {f : γ → Except ε β} {parts : List γ} {inside : γ → Place → Option α}
    (each : ∀ part ∈ parts, BlamesFirst (inside part) P blame (f part)) :
    BlamesFirst (enter inside parts) P blame (parts.mapM f) := by
  cases outcome : parts.mapM f with
  | ok results =>
    intro place item there
    obtain ⟨index, rest, part, rfl, found, there⟩ := enter_eq_some.1 there
    have member := List.mem_of_getElem? found
    obtain ⟨result, passed⟩ := ok_of_mapM_eq_ok outcome member
    exact (each part member).clear passed rest item there
  | error error =>
    obtain ⟨before, part, after, rfl, passed, failed⟩ := mapM_eq_error_iff.1 outcome
    have blamed := each part (by simp)
    rw [failed] at blamed
    obtain ⟨item, ⟨place, there, holds, first⟩, same⟩ := blamed
    refine ⟨item, ⟨before.length :: place, by simp [enter, there], holds, ?_⟩, same⟩
    intro earlier other isBefore there'
    obtain ⟨index, rest, part', rfl, found, there'⟩ := enter_eq_some.1 there'
    cases isBefore with
    | rel left =>
      rw [List.getElem?_append_left left] at found
      have member := List.mem_of_getElem? found
      obtain ⟨result, passed⟩ := passed part' member
      exact (each part' (List.mem_append_left _ member)).clear passed rest other there'
    | cons isBefore =>
      obtain rfl : part = part' := by simpa using found
      exact first rest other isBefore there'

theorem nil {inside : γ → Place → Option α} {result : β} :
    BlamesFirst (enter inside []) P blame (.ok result) := by
  intro place item there
  cases place <;> simp [enter] at there

theorem single {inside : γ → Place → Option α} {part : γ} {outcome : Except ε β}
    (h : BlamesFirst (inside part) P blame outcome) :
    BlamesFirst (enter inside [part]) P blame outcome := by
  have only : [part].mapM (fun _ => outcome) = (do return [← outcome]) := by simp
  rw [← return_iff fun result => [result], ← only]
  apply mapM
  simpa using h

end BlamesFirst

end First

namespace TypeExpr

variable {ρ : Type}

def IsFunction : TypeExpr ρ → Prop
  | .function .. => True
  | _ => False

private theorem isFunction_iff {type : TypeExpr ρ} :
    type.IsFunction ↔ ∃ info argument result, type = .function info argument result := by
  cases type <;> simp [IsFunction]

end TypeExpr

/-- A type that values are decoded at, with the path that messages name it by. -/
structure ValuePart (ρ : Type) where
  path : String
  /-- Whether it is the type of a field. -/
  ofField : Bool
  type : TypeExpr ρ

namespace ValuePart

variable {ρ : Type}

def ofFields (scope : String) (fields : List (Field (TypeExpr ρ))) : List (ValuePart ρ) :=
  fields.map fun field => ⟨scope ++ "." ++ field.name, true, field.type⟩

/-- The types right inside a type that values are decoded at: not the keys of a map, and nothing in
a function. The optional layer of a field does not show in the path. -/
def children : ValuePart ρ → List (ValuePart ρ)
  | ⟨path, _, .product _ fields⟩ => ofFields path fields
  | ⟨path, true, .optional _ element⟩ => [⟨path, false, element⟩]
  | ⟨path, false, .optional _ element⟩ | ⟨path, _, .list _ element⟩ | ⟨path, _, .set _ element⟩ =>
    [⟨path ++ "<element>", false, element⟩]
  | ⟨path, _, .dict _ _ value⟩ => [⟨path ++ "<value>", false, value⟩]
  | _ => []

def at? : ValuePart ρ → Place → Option (String × TypeExpr ρ)
  | part, [] => some (part.path, part.type)
  | part, index :: rest => part.children[index]?.bind (at? · rest)

end ValuePart

/-- The path and the type at a place of a body, where values are decoded. In an alias a place leads
down from the type, and in a sum it begins with the numbers of a constructor and a field. -/
def Body.valueAt? {ρ : Type} (declaration : String) :
    Body ρ → Place → Option (String × TypeExpr ρ)
  | .alias type => ValuePart.at? ⟨declaration, false, type⟩
  | .sum constructors =>
    enter (fun constructor => enter ValuePart.at?
      (ValuePart.ofFields (declaration ++ "." ++ constructor.name) constructor.fields)) constructors
  | .enum _ | .restricted _ => fun _ => none

def Declaration.valueAt? {ρ : Type} (declaration : Declaration ρ) :
    Place → Option (String × TypeExpr ρ) :=
  declaration.body.valueAt? declaration.name

namespace Site

variable {site : Site}

def undecodable (site : Site) (found : String × TypeExpr Classification) : GenerateError :=
  .undecodable site.declaration found.1 found.2.info.position

/-- What building a decoder says about the functions that values would be decoded at. -/
abbrev Blames {β : Type} (site : Site) (lookup : Place → Option (String × TypeExpr Classification))
    (outcome : Except GenerateError β) : Prop :=
  BlamesFirst lookup (·.2.IsFunction) site.undecodable outcome

theorem Blames.type {β : Type} {part : ValuePart Classification} {outcome : Except GenerateError β}
    (clear : ¬part.type.IsFunction)
    (h : site.Blames (enter ValuePart.at? part.children) outcome) :
    site.Blames part.at? outcome :=
  h.root rfl clear fun _ _ => rfl

/-- What stands in a field is what stands in the type that its decoder is built from, below the
optional layer if there is one. -/
theorem Blames.field {β : Type} {path : String} {type : TypeExpr Classification}
    {outcome : Except GenerateError β}
    (h : site.Blames (ValuePart.at? ⟨path, false, type.held⟩) outcome) :
    site.Blames (ValuePart.at? ⟨path, true, type⟩) outcome := by
  cases type with
  | optional info element => exact .type (by simp [TypeExpr.IsFunction]) (.single h)
  | unit | basic | named | product | emptyProduct | list | set | dict | function =>
    convert h using 1
    funext place
    cases place <;> rfl

private theorem forFields_blames {scope : String} {fields : List (Field (TypeExpr Classification))}
    (keys : ∀ field ∈ fields, ∃ key, site.fieldKey field.toFieldLabel = .ok key)
    (each : ∀ field ∈ fields, ∀ path, site.Blames (ValuePart.at? ⟨path, false, field.type.held⟩)
      (site.forType path field.type.held)) :
    site.Blames (enter ValuePart.at? (ValuePart.ofFields scope fields))
      (site.forFields scope fields) := by
  rw [forFields_eq_mapM, ValuePart.ofFields, enter_map]
  refine .mapM fun field member => Blames.field ?_
  obtain ⟨key, read⟩ := keys field member
  rw [forField, read]
  exact (BlamesFirst.return_iff _).2 (each field member _)

/-- Where every key can be read, a decoder is built from a type unless values would be decoded at a
function, and the first such function is blamed. -/
theorem forType_blames {path : String} {type : TypeExpr Classification}
    (keys : ∀ label ∈ type.fieldLabels, ∃ key, site.fieldKey label = .ok key) :
    site.Blames (ValuePart.at? ⟨path, false, type⟩) (site.forType path type) := by
  induction type using TypeExpr.decodingInduction generalizing path with
  | unit | basic | named | emptyProduct => exact .type (by simp [TypeExpr.IsFunction]) .nil
  | product info fields ih =>
    simp only [TypeExpr.fieldLabels, TypeExpr.fieldListLabels_eq, List.mem_flatMap] at keys
    refine .type (by simp [TypeExpr.IsFunction]) ((BlamesFirst.return_iff _).2 ?_)
    refine forFields_blames (fun field member => keys _ ⟨field, member, List.mem_cons_self⟩) ?_
    intro field member path
    refine ih field member fun label inside => keys label ⟨field, member, ?_⟩
    rw [TypeExpr.fieldLabels_held] at inside
    exact List.mem_cons_of_mem _ inside
  | list info element ih | set info element ih | optional info element ih =>
    exact .type (by simp [TypeExpr.IsFunction]) (.single ((BlamesFirst.return_iff _).2 (ih keys)))
  | dict info key value ih =>
    refine .type (by simp [TypeExpr.IsFunction]) (.single ((BlamesFirst.return_iff _).2 (ih ?_)))
    exact fun label member => keys label (List.mem_append_right _ member)
  | function info argument result =>
    refine ⟨(path, .function info argument result), ⟨[], rfl, trivial, ?_⟩, rfl⟩
    intro earlier other before
    cases before

theorem forBody_blames {body : Body Classification}
    (keys : ∀ label ∈ body.fieldLabels, ∃ key, site.fieldKey label = .ok key) :
    site.Blames (body.valueAt? site.declaration) (site.forBody body) := by
  rcases body with type | constructors | labels | restriction
  · exact forType_blames keys
  · simp only [Body.fieldLabels, TypeExpr.fieldListLabels_eq, List.mem_flatMap] at keys
    refine (BlamesFirst.return_iff _).2 ?_
    rw [forCases_eq_mapM]
    refine .mapM fun constructor among => (BlamesFirst.return_iff _).2 ?_
    refine forFields_blames
      (fun field member => keys _ ⟨constructor, among, field, member, List.mem_cons_self⟩) ?_
    intro field member path
    refine forType_blames fun label inside => keys label ⟨constructor, among, field, member, ?_⟩
    rw [TypeExpr.fieldLabels_held] at inside
    exact List.mem_cons_of_mem _ inside
  · intro place item there
    cases there
  · intro place item there
    cases there

end Site

section Runs

variable [Pattern.Engine] {draft : Draft} {properties : Properties} {processors : List Processor}
  {compiled : Compiled} {declaration : Declaration Classification}

theorem decoderFragment_blames (coding : .coding ∈ processors) (docs : .docs ∈ processors)
    (compiles : compile draft properties processors = .ok compiled)
    (member : declaration ∈ compiled.model.declarations) (options : Options) :
    (Site.mk compiled.defaults options declaration.name).Blames declaration.valueAt?
      (decoderFragment compiled.defaults options declaration) := by
  obtain ⟨doc, read⟩ := documentation_eq_ok docs compiles member
  have body := Site.forBody_blames fun label inside =>
    fieldKey_eq_ok coding compiles member inside options
  rw [decoderFragment_eq, read]
  exact (BlamesFirst.return_iff _).2 body

/-- In a model with coding and documentation, the decoder of a declaration cannot be generated
exactly if values would be decoded at a function, and the error names the first such function. -/
theorem undecodable_exact (coding : .coding ∈ processors) (docs : .docs ∈ processors)
    (compiles : compile draft properties processors = .ok compiled)
    (member : declaration ∈ compiled.model.declarations) (options : Options) :
    ((∃ error, decoderFragment compiled.defaults options declaration = .error error) ↔
      ∃ place path info argument result,
        declaration.valueAt? place = some (path, .function info argument result)) ∧
    ∀ error, decoderFragment compiled.defaults options declaration = .error error ↔
      ∃ path info argument result,
        FirstAt declaration.valueAt? (·.2.IsFunction) (path, .function info argument result) ∧
        error = .undecodable declaration.name path info.position := by
  have blames := decoderFragment_blames coding docs compiles member options
  refine ⟨blames.fails_iff.trans ⟨?_, ?_⟩, fun error => blames.error_iff.trans ⟨?_, ?_⟩⟩
  · rintro ⟨place, ⟨path, type⟩, there, isFunction⟩
    obtain ⟨info, argument, result, rfl⟩ := TypeExpr.isFunction_iff.1 isFunction
    exact ⟨place, path, info, argument, result, there⟩
  · rintro ⟨place, path, info, argument, result, there⟩
    exact ⟨place, _, there, trivial⟩
  · rintro ⟨⟨path, type⟩, first, rfl⟩
    obtain ⟨info, argument, result, rfl⟩ := TypeExpr.isFunction_iff.1 first.holds
    exact ⟨path, info, argument, result, first, rfl⟩
  · rintro ⟨path, info, argument, result, first, rfl⟩
    exact ⟨_, first, rfl⟩

end Runs

def hooks : List (Declaration Unit) :=
  let function (line : UInt32) : TypeExpr Unit :=
    .function { position := { line } } (.unit {}) (.unit {})
  [{ name := "Table"
     body := .alias (.dict {} (function 1) (.basic {} .int))
     info := decodedInfo },
   { name := "Hooks"
     body := .alias (.product {} [
      { name := "onError"
        type := .optional {} (.list {} (.product {} [
          { name := "callback", type := .optional {} (.optional {} (function 2)) }])) },
      { name := "onExit", type := function 3 }])
     info := decodedInfo }]

section Program

attribute [local instance] Pattern.regexEngine

theorem undecodable_exact_hooks :
    ∃ draft compiled table callbacks, Draft.ofDeclarations hooks = .ok draft ∧
      compile draft ∅ [.coding, .docs] = .ok compiled ∧
      compiled.model.declarations = [table, callbacks] ∧
      ∀ options,
        (∃ fragment, decoderFragment compiled.defaults options table = .ok fragment) ∧
        (¬∃ place path info argument result,
          table.valueAt? place = some (path, .function info argument result)) ∧
        decoderFragment compiled.defaults options callbacks =
          .error (.undecodable "Hooks" "Hooks.onError<element>.callback<element>" { line := 2 }) ∧
        ∃ info argument result,
          FirstAt callbacks.valueAt? (·.2.IsFunction)
            ("Hooks.onError<element>.callback<element>", .function info argument result) ∧
          info.position = { line := 2 } := by
  obtain ⟨draft, compiled, table, callbacks, isDraft, compiles, all, generated⟩ :
      ∃ draft compiled table callbacks, Draft.ofDeclarations hooks = .ok draft ∧
        compile draft ∅ [.coding, .docs] = .ok compiled ∧
        compiled.model.declarations = [table, callbacks] ∧ ∀ options,
        (∃ fragment, decoderFragment compiled.defaults options table = .ok fragment) ∧
        decoderFragment compiled.defaults options callbacks =
          .error (.undecodable "Hooks" "Hooks.onError<element>.callback<element>" { line := 2 }) :=
    ⟨_, _, _, _, rfl, rfl, rfl, fun _ => ⟨⟨_, rfl⟩, rfl⟩⟩
  refine ⟨draft, compiled, table, callbacks, isDraft, compiles, all, fun options => ?_⟩
  obtain ⟨⟨fragment, decodable⟩, failed⟩ := generated options
  obtain ⟨undecodable, _⟩ :=
    undecodable_exact (by simp) (by simp) compiles (by simp [all] : table ∈ _) options
  obtain ⟨_, blamed⟩ :=
    undecodable_exact (by simp) (by simp) compiles (by simp [all] : callbacks ∈ _) options
  refine ⟨⟨fragment, decodable⟩, ?_, failed, ?_⟩
  · rw [← undecodable, decodable]
    simp
  · obtain ⟨path, info, argument, result, first, same⟩ := (blamed _).1 failed
    obtain ⟨-, rfl, position⟩ := GenerateError.undecodable.inj same
    exact ⟨info, argument, result, first, position.symm⟩

end Program

end WireModel
