import WireModel.Proofs.Types
import Mathlib.Data.List.FinRange

/-! Places of nodes. A node stands at an address: the numbers of the children on the way down to
it. Nodes are met from left to right, a node before its parts, exactly if their addresses
increase, so that a traversal is right if it lists what stands at each address once and in
increasing order. -/
namespace WireModel

variable {ρ σ α β γ κ : Type}

/-- The numbers of the children on the way down to a node. -/
abbrev Place := List Nat

/-- Further left where the ways part, or on the way to the other. -/
abbrev Place.Before : Place → Place → Prop := List.Lex (· < ·)

def enter (inside : γ → Place → Option α) (parts : List γ) : Place → Option α
  | [] => none
  | index :: rest => parts[index]?.bind (inside · rest)

theorem enter_eq_some {inside : γ → Place → Option α} {parts : List γ} {place : Place} {item : α} :
    enter inside parts place = some item ↔
      ∃ index rest part, place = index :: rest ∧ parts[index]? = some part ∧
        inside part rest = some item := by
  cases place <;> simp [enter, Option.bind_eq_some_iff, and_assoc]

@[simp]
theorem enter_map (inside : γ → Place → Option α) (f : β → γ) (parts : List β) :
    enter inside (parts.map f) = enter (fun part => inside (f part)) parts := by
  funext place
  cases place with
  | nil => rfl
  | cons index rest => simp [enter, Option.bind_map]

/-- What a look-up finds, once for each key where it finds something, in the order of the keys. -/
def ListsBy (before : κ → κ → Prop) (lookup : κ → Option α) (items : List α) : Prop :=
  ∃ keys : List κ, keys.Pairwise before ∧ (∀ key, (lookup key).isSome → key ∈ keys) ∧
    keys.map lookup = items.map some

namespace ListsBy

variable {before : κ → κ → Prop} {lookup : κ → Option α} {items : List α}

theorem exists_key (h : ListsBy before lookup items) {item : α} (member : item ∈ items) :
    ∃ key, lookup key = some item := by
  obtain ⟨keys, _, _, found⟩ := h
  have among : some item ∈ keys.map lookup := by
    rw [found]
    exact List.mem_map_of_mem member
  obtain ⟨key, _, there⟩ := List.mem_map.1 among
  exact ⟨key, there⟩

theorem mem_of_lookup (h : ListsBy before lookup items) {key : κ} {item : α}
    (there : lookup key = some item) : item ∈ items := by
  obtain ⟨keys, _, complete, found⟩ := h
  have among : some item ∈ items.map some := by
    rw [← found, ← there]
    exact List.mem_map_of_mem (complete key (by rw [there]; rfl))
  simpa using among

end ListsBy

/-- The items that a look-up finds, each once, in the order of their places. -/
def Enumerates (lookup : Place → Option α) (items : List α) : Prop :=
  ∃ places : List Place, places.Pairwise Place.Before ∧
    (∀ place, (lookup place).isSome → place ∈ places) ∧ places.map lookup = items.map some

namespace Enumerates

variable {lookup : Place → Option α} {items : List α}

theorem exists_place (h : Enumerates lookup items) {item : α} (member : item ∈ items) :
    ∃ place, lookup place = some item :=
  ListsBy.exists_key h member

theorem mem_of_lookup (h : Enumerates lookup items) {place : Place} {item : α}
    (there : lookup place = some item) : item ∈ items :=
  ListsBy.mem_of_lookup h there

theorem filterMap (h : Enumerates lookup items) (f : α → Option β) :
    Enumerates (fun place => (lookup place).bind f) (items.filterMap f) := by
  obtain ⟨places, increasing, complete, found⟩ := h
  refine ⟨places.filter fun place => ((lookup place).bind f).isSome, increasing.filter _, ?_, ?_⟩
  · intro place there
    refine List.mem_filter.2 ⟨complete place ?_, there⟩
    cases absent : lookup place with
    | none => simp [absent] at there
    | some item => rfl
  · calc (places.filter fun place => ((lookup place).bind f).isSome).map
          (fun place => (lookup place).bind f)
        = (places.map fun place => (lookup place).bind f).filter Option.isSome := by
          rw [List.filter_map]
          rfl
      _ = (places.filterMap fun place => (lookup place).bind f).map some := by
          rw [List.map_filterMap_some_eq_filter_map_isSome]
      _ = ((places.map lookup).filterMap (·.bind f)).map some := by
          rw [List.filterMap_map]
          rfl
      _ = (items.filterMap f).map some := by
          rw [found, List.filterMap_map]
          rfl

theorem enter {inside : γ → Place → Option α} {listed : γ → List α} {parts : List γ}
    (each : ∀ part ∈ parts, Enumerates (inside part) (listed part)) :
    Enumerates (enter inside parts) (parts.flatMap listed) := by
  choose places increasing complete found using each
  let below : Fin parts.length → List Place := fun index =>
    (places parts[index.val] (List.getElem_mem _)).map (index.val :: ·)
  refine ⟨(List.finRange parts.length).flatMap below, ?_, ?_, ?_⟩
  · refine List.pairwise_flatMap.2 ⟨fun index _ => ?_, ?_⟩
    · exact List.pairwise_map.2 ((increasing _ _).imp .cons)
    · refine (List.pairwise_lt_finRange _).imp fun {first second} left => ?_
      intro place before place' after
      obtain ⟨_, _, rfl⟩ := List.mem_map.1 before
      obtain ⟨_, _, rfl⟩ := List.mem_map.1 after
      exact .rel left
  · intro place there
    cases place with
    | nil => cases there
    | cons index rest =>
      rw [WireModel.enter] at there
      by_cases inRange : index < parts.length
      · rw [List.getElem?_eq_getElem inRange] at there
        refine List.mem_flatMap.2 ⟨⟨index, inRange⟩, List.mem_finRange _, ?_⟩
        exact List.mem_map_of_mem (complete _ _ rest there)
      · rw [List.getElem?_eq_none (by omega)] at there
        cases there
  · have inPart : ∀ index : Fin parts.length,
        (below index).map (WireModel.enter inside parts) = (listed parts[index.val]).map some := by
      intro index
      rw [List.map_map, ← found parts[index.val] (List.getElem_mem _)]
      apply List.map_congr_left
      intro place _
      simp [WireModel.enter]
    rw [List.map_flatMap]
    simp only [inPart]
    rw [← List.flatMap_map (fun index : Fin parts.length => parts[index.val])
      (fun part => (listed part).map some), List.map_getElem_finRange, List.map_flatMap]

theorem root {own : α} {inside : γ → Place → Option α} {listed : γ → List α} {parts : List γ}
    (here : lookup [] = some own)
    (below : ∀ index rest, lookup (index :: rest) = parts[index]?.bind (inside · rest))
    (each : ∀ part ∈ parts, Enumerates (inside part) (listed part)) :
    Enumerates lookup (own :: parts.flatMap listed) := by
  obtain ⟨places, increasing, complete, found⟩ := Enumerates.enter each
  have proper : ∀ place ∈ places, ∃ index rest, place = index :: rest := by
    intro place among
    cases place with
    | nil =>
      have there := List.mem_map_of_mem (f := WireModel.enter inside parts) among
      simp [found, WireModel.enter] at there
    | cons index rest => exact ⟨index, rest, rfl⟩
  refine ⟨[] :: places, List.pairwise_cons.2 ⟨fun place among => ?_, increasing⟩, ?_, ?_⟩
  · obtain ⟨index, rest, rfl⟩ := proper place among
    exact .nil
  · intro place there
    cases place with
    | nil => exact List.mem_cons_self
    | cons index rest =>
      rw [below] at there
      exact List.mem_cons_of_mem _ (complete _ there)
  · have same : places.map lookup = places.map (WireModel.enter inside parts) := by
      refine List.map_congr_left fun place among => ?_
      obtain ⟨index, rest, rfl⟩ := proper place among
      exact below index rest
    rw [List.map_cons, List.map_cons, here, same, found]

end Enumerates

namespace TypeExpr

def children : TypeExpr ρ → List (TypeExpr ρ)
  | .unit _ | .basic .. | .named .. | .emptyProduct _ => []
  | .product _ fields => fields.map (·.type)
  | .list _ element | .set _ element | .optional _ element => [element]
  | .dict _ key value => [key, value]
  | .function _ argument result => [argument, result]

theorem childInduction {motive : TypeExpr ρ → Prop}
    (step : ∀ type, (∀ child ∈ type.children, motive child) → motive type) (type : TypeExpr ρ) :
    motive type := by
  induction type using TypeExpr.induction with
  | unit | basic | named | emptyProduct => exact step _ (by simp [children])
  | product info fields ih => exact step _ (by simpa [children] using ih)
  | list info element ih | set info element ih | optional info element ih =>
    exact step _ (by simpa [children] using ih)
  | dict info first second ihFirst ihSecond | function info first second ihFirst ihSecond =>
    exact step _ (by simp [children, ihFirst, ihSecond])

def at? : TypeExpr ρ → Place → Option (TypeExpr ρ)
  | type, [] => some type
  | type, index :: rest => type.children[index]?.bind (at? · rest)

def ownReference? : TypeExpr ρ → Option (Reference ρ)
  | .named info name reference => some ⟨name, reference, info.position⟩
  | _ => none

private theorem references_of_children {type : TypeExpr ρ} (h : type.ownReference? = none) :
    type.references = type.children.flatMap (·.references) := by
  cases type with
  | named => cases h
  | product => simp [references, children, List.flatMap_map]
  | _ => simp [references, children]

theorem enumerates_references (type : TypeExpr ρ) :
    Enumerates (fun place => (type.at? place).bind ownReference?) type.references := by
  induction type using childInduction with
  | step type ih =>
    cases own : type.ownReference? with
    | none =>
      have lookup : (fun place => (type.at? place).bind ownReference?) =
          enter (fun child place => (child.at? place).bind ownReference?) type.children := by
        funext place
        cases place with
        | nil => exact own
        | cons index rest => simp [at?, enter, Option.bind_assoc]
      rw [lookup, references_of_children own]
      exact .enter ih
    | some reference =>
      cases type with
      | named info name payload =>
        refine ⟨[[]], List.pairwise_singleton _ _, fun place there => ?_, rfl⟩
        cases place with
        | nil => exact List.mem_singleton_self _
        | cons index rest => simp [at?, children] at there
      | _ => cases own

@[simp]
private theorem children_mapReferences (f : String → ρ → Position → σ) (type : TypeExpr ρ) :
    (type.mapReferences f).children = type.children.map (·.mapReferences f) := by
  cases type with
  | product => simp [mapReferences, children]
  | _ => simp [mapReferences, children]

@[simp]
theorem at?_mapReferences (f : String → ρ → Position → σ) (type : TypeExpr ρ) (place : Place) :
    (type.mapReferences f).at? place = (type.at? place).map (·.mapReferences f) := by
  induction place generalizing type with
  | nil => rfl
  | cons index rest ih =>
    rw [at?, at?, children_mapReferences, List.getElem?_map]
    cases type.children[index]? with
    | none => rfl
    | some child => exact ih child

end TypeExpr

namespace Body

def parts : Body ρ → List (TypeExpr ρ)
  | .alias type => [type]
  | .sum constructors => constructors.flatMap fun c => c.fields.map (·.type)
  | .enum _ | .restricted _ => []

theorem references_eq_parts (body : Body ρ) :
    body.references = body.parts.flatMap (·.references) := by
  cases body with
  | «alias» => simp [references, parts]
  | sum =>
    simp [references, parts, List.flatMap_assoc, List.flatMap_map]
  | enum | restricted => rfl

@[simp]
theorem parts_mapReferences (f : String → ρ → Position → σ) (body : Body ρ) :
    (body.mapReferences f).parts = body.parts.map (·.mapReferences f) := by
  cases body with
  | «alias» | enum | restricted => rfl
  | sum =>
    simp [mapReferences, parts, List.flatMap_map, List.map_flatMap, Function.comp_def]

end Body

/-- The node at a place of declarations: in the declaration and the part of its body that the
place begins with. -/
def nodeAt? : List (Declaration ρ) → Place → Option (TypeExpr ρ) :=
  enter fun declaration => enter TypeExpr.at? declaration.body.parts

theorem enumerates_references (declarations : List (Declaration ρ)) :
    Enumerates (fun place => (nodeAt? declarations place).bind TypeExpr.ownReference?)
      (declarations.flatMap (·.body.references)) := by
  have inBody : ∀ body : Body ρ,
      Enumerates (enter (fun part place => (part.at? place).bind TypeExpr.ownReference?) body.parts)
        body.references := by
    intro body
    rw [body.references_eq_parts]
    exact .enter fun part _ => part.enumerates_references
  have lookup : (fun place => (nodeAt? declarations place).bind TypeExpr.ownReference?) =
      enter (fun declaration => enter (fun part place =>
        (part.at? place).bind TypeExpr.ownReference?) declaration.body.parts) declarations := by
    funext place
    rcases place with _ | ⟨index, _ | ⟨part, rest⟩⟩
    · rfl
    · simp [nodeAt?, enter]
    · simp [nodeAt?, enter, Option.bind_assoc]
  rw [lookup]
  exact .enter fun declaration _ => inBody declaration.body

theorem nodeAt?_mapReferences (f : String → ρ → Position → σ)
    {map : Declaration ρ → Declaration σ} (body : ∀ d, (map d).body = d.body.mapReferences f)
    (declarations : List (Declaration ρ)) (place : Place) :
    nodeAt? (declarations.map map) place =
      (nodeAt? declarations place).map (·.mapReferences f) := by
  rcases place with _ | ⟨index, _ | ⟨part, rest⟩⟩
  · rfl
  · simp [nodeAt?, enter]
  · simp only [nodeAt?, enter, List.getElem?_map]
    cases declarations[index]? with
    | none => rfl
    | some declaration =>
      simp only [Option.map_some, Option.bind_some, body, Body.parts_mapReferences,
        List.getElem?_map]
      cases declaration.body.parts[part]? with
      | none => rfl
      | some type => exact type.at?_mapReferences f rest

end WireModel
