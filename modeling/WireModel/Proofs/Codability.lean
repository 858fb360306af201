import WireModel.Proofs.Inhabitants
import WireModel.Proofs.KeyScopes

/-! The coding check is exact. What it asks of a model is said of the keys of fields that stand
together and of restrictions; the rules that a model breaks are given by look-ups, and the errors
are those of the broken rules, one for each, in the order of declarations and of the places in
them. -/
namespace WireModel

variable {ρ : Type}

private theorem Body.walk_eq_parts (body : Body ρ) : body.walk = body.parts.flatMap (·.walk) := by
  cases body with
  | «alias» => simp [walk, parts]
  | sum => simp [walk, parts, List.flatMap_assoc, List.flatMap_map]
  | enum | restricted => rfl

private theorem enumerates_walks (declarations : List (Declaration ρ)) :
    Enumerates (nodeAt? declarations) (declarations.flatMap (·.body.walk)) := by
  refine .enter fun declaration _ => ?_
  rw [declaration.body.walk_eq_parts]
  exact .enter fun part _ => part.enumerates_walk

structure StringRestriction.Checked [Pattern.Engine] (r : StringRestriction) : Prop where
  ordered : ∀ min max, r.minLength = some min → r.maxLength = some max → min ≤ max
  compiles : ∀ pattern, r.regex = some pattern → ∃ regex, Pattern.Engine.compile pattern = .ok regex

namespace Coding

def boundsError? (declaration : String) (position : Position) : Restriction → Option Error
  | .int ⟨some min, some max, _⟩ =>
    if min ≤ max then none else some (.emptyRange declaration min max position)
  | .string ⟨some min, some max, _⟩ =>
    if min ≤ max then none else some (.emptyLength declaration min max position)
  | _ => none

def restriction? : Body ρ → Option Restriction
  | .restricted restriction => some restriction
  | _ => none

/-- What a declaration must keep: the key of each field is new and is not the tag, and a restriction
can be met and checked. -/
inductive Rule where
  | newKey (place : Place) (index : Nat)
  | notTag (place : Place) (index : Nat)
  | bounds
  | form

namespace Rule

/-- Where a rule is looked at. A declaration has fields or a restriction, so that no two rules that
it can break share a rank. -/
def rank : Rule → Place × Nat × Bool
  | .newKey place index => (place, index, false)
  | .notTag place index => (place, index, true)
  | .bounds => ([], 0, false)
  | .form => ([], 0, true)

def Before : Rule → Rule → Prop :=
  InvImage (Prod.Lex Place.Before (Prod.Lex (· < ·) (· < ·))) rank

def ofField : Place × Nat × Bool → Rule
  | (place, index, false) => .newKey place index
  | (place, index, true) => .notTag place index

@[simp]
private theorem rank_ofField (key : Place × Nat × Bool) : (ofField key).rank = key := by
  obtain ⟨place, index, flag⟩ := key
  cases flag <;> rfl

end Rule

theorem productErrors_eq (name : String) (type : TypeExpr ρ) :
    productErrors name type =
      (type.walk.map (KeyScope.ofType name)).flatMap fun scope =>
        keyErrors scope.name scope.tag [] scope.fields := by
  rw [productErrors, List.flatMap_map]
  refine List.flatMap_congr fun part _ => ?_
  cases part <;> rfl

variable [Pattern.Engine]

/-- The error of a width that no integer has, or of a pattern that does not compile. -/
def formError? (declaration : String) (position : Position) : Restriction → Option Error
  | .int ⟨_, _, some width⟩ =>
    if 1 ≤ width.toNat ∧ width.toNat ≤ 64 then none
    else some (.invalidWidth declaration width position)
  | .string ⟨_, _, some pattern⟩ =>
    match Pattern.Engine.compile pattern with
    | .ok _ => none
    | .error fault => some (.invalidPattern declaration fault position)
  | _ => none

def brokenAt? (tag : String) (declaration : Declaration ρ) : Rule → Option Error
  | .newKey place index => (keyScopeAt? tag declaration place).bind (·.repeatAt? index)
  | .notTag place index => (keyScopeAt? tag declaration place).bind (·.clashAt? index)
  | .bounds =>
    (restriction? declaration.body).bind (boundsError? declaration.name declaration.info.position)
  | .form =>
    (restriction? declaration.body).bind (formError? declaration.name declaration.info.position)

def breachAt? (model : Model) (key : Nat × Rule) : Option Error :=
  model.declarations[key.1]?.bind fun declaration => brokenAt? model.tagKey declaration key.2

/-- A model that can be coded: its slots are right, fields that stand together have keys of their
own, no field of a constructor hides the tag, and every restriction can be met and checked. -/
structure Codable (model : Model) : Prop where
  slots : slotErrors defaults model = []
  constructors : ∀ d ∈ model.declarations, ∀ c ∈ d.body.constructors,
    (c.fields.map (·.wireKey)).Nodup ∧ ∀ field ∈ c.fields, field.wireKey ≠ model.tagKey
  products : ∀ place info fields, nodeAt? model.declarations place = some (.product info fields) →
    (fields.map (·.wireKey)).Nodup
  ints : ∀ d ∈ model.declarations, ∀ r, d.body = .restricted (.int r) → r.Checked
  strings : ∀ d ∈ model.declarations, ∀ r, d.body = .restricted (.string r) → r.Checked

section Listings

private theorem declarationErrors_of_free {tag : String} {declaration : Declaration ρ}
    (free : restriction? declaration.body = none) :
    declarationErrors tag declaration = (keyScopes tag declaration).flatMap fun scope =>
      keyErrors scope.name scope.tag [] scope.fields := by
  obtain ⟨name, body, info⟩ := declaration
  cases body with
  | «alias» type => exact productErrors_eq name type
  | sum constructors =>
    simp only [declarationErrors, keyScopes, List.flatMap_assoc, List.flatMap_cons,
      productErrors_eq]
  | enum => rfl
  | restricted => cases free

private theorem intErrors_eq (declaration : String) (position : Position) (r : IntRestriction) :
    intErrors declaration position r =
      (boundsError? declaration position (.int r)).toList ++
        (formError? declaration position (.int r)).toList := by
  obtain ⟨min, max, width⟩ := r
  unfold intErrors
  congr 1
  · rcases min with _ | min
    · rfl
    rcases max with _ | max
    · rfl
    by_cases ordered : min ≤ max
    · simp [boundsError?, ordered]
    · simp [boundsError?, ordered, Int64.not_le.1 ordered]
  · rcases width with _ | width
    · rfl
    have inRange : ¬(width = 0 || 64 < width) ↔ 1 ≤ width.toNat ∧ width.toNat ≤ 64 := by
      simp [UInt32.le_iff_toNat_le, ← UInt32.toNat_inj]
      omega
    by_cases right : 1 ≤ width.toNat ∧ width.toNat ≤ 64
    · simp only [formError?, if_pos right, if_neg (inRange.2 right)]
      rfl
    · simp only [formError?, if_neg right, if_pos (not_not.1 (mt inRange.1 right))]
      rfl

private theorem stringErrors_eq (declaration : String) (position : Position)
    (r : StringRestriction) : stringErrors declaration position r =
      (boundsError? declaration position (.string r)).toList ++
        (formError? declaration position (.string r)).toList := by
  obtain ⟨min, max, pattern⟩ := r
  unfold stringErrors
  congr 1
  · rcases min with _ | min
    · rfl
    rcases max with _ | max
    · rfl
    by_cases ordered : min ≤ max
    · simp [boundsError?, ordered]
    · simp [boundsError?, ordered, UInt64.not_le.1 ordered]
  · rcases pattern with _ | pattern
    · rfl
    simp only [formError?]
    cases Pattern.Engine.compile pattern <;> rfl

private theorem listsBy_of_free {tag : String} {declaration : Declaration ρ}
    (keyed : ∀ label ∈ declaration.body.fieldLabels, fieldKey defaults label = label.wireKey)
    (free : restriction? declaration.body = none) :
    ListsBy Rule.Before (brokenAt? tag declaration) (declarationErrors tag declaration) := by
  have scopes := ListsBy.flatMap (enumerates_keyScopes tag declaration) fun scope among =>
    listsBy_keyErrors fun field member =>
      keyed field.toFieldLabel (mem_fieldLabels_of_mem_keyScopes among member)
  have lookups : (fun key => brokenAt? tag declaration (.ofField key)) = fun key =>
      (keyScopeAt? tag declaration key.1).bind (·.breachAt? key.2) := by
    funext ⟨place, index, flag⟩
    cases flag <;> rfl
  rw [← declarationErrors_of_free free, ← lookups] at scopes
  refine .rename Rule.ofField (fun key key' before => ?_) (fun rule there => ?_) scopes
  · rw [Rule.Before, InvImage, Rule.rank_ofField, Rule.rank_ofField]
    exact before
  · cases rule with
    | newKey place index => exact ⟨(place, index, false), rfl⟩
    | notTag place index => exact ⟨(place, index, true), rfl⟩
    | bounds | form => simp [brokenAt?, free] at there

private theorem listsBy_of_restricted (tag name : String) (info : Info)
    (restriction : Restriction) :
    ListsBy Rule.Before (brokenAt? tag (⟨name, .restricted restriction, info⟩ : Declaration ρ))
      (restrictionErrors name info.position restriction) := by
  let rule : Bool → Rule := fun flag => bif flag then .form else .bounds
  have listed := ListsBy.flags fun flag =>
    brokenAt? tag (⟨name, .restricted restriction, info⟩ : Declaration ρ) (rule flag)
  have errors : restrictionErrors name info.position restriction =
      (boundsError? name info.position restriction).toList ++
        (formError? name info.position restriction).toList := by
    cases restriction with
    | int r => exact intErrors_eq name info.position r
    | string r => exact stringErrors_eq name info.position r
  rw [errors]
  refine .rename rule (fun flag flag' before => ?_) (fun rule there => ?_) listed
  · obtain ⟨rfl, rfl⟩ := Bool.lt_iff.1 before
    exact .right _ (.right _ before)
  · cases rule with
    | newKey | notTag => cases there
    | bounds => exact ⟨false, rfl⟩
    | form => exact ⟨true, rfl⟩

theorem listsBy_declarationErrors (tag : String) {declaration : Declaration ρ}
    (keyed : ∀ label ∈ declaration.body.fieldLabels, fieldKey defaults label = label.wireKey) :
    ListsBy Rule.Before (brokenAt? tag declaration) (declarationErrors tag declaration) := by
  obtain ⟨name, body, info⟩ := declaration
  cases body with
  | restricted restriction => exact listsBy_of_restricted tag name info restriction
  | _ => exact listsBy_of_free keyed rfl

theorem listsBy_breaches {model : Model} (slots : slotErrors defaults model = []) :
    ListsBy (Prod.Lex (· < ·) Rule.Before) (breachAt? model)
      (model.declarations.flatMap (declarationErrors (tagField model))) := by
  rw [tagField_eq_tagKey]
  exact (ListsBy.positions model.declarations).flatMap fun declaration member =>
    listsBy_declarationErrors model.tagKey fun label inside =>
      fieldKey_eq_wireKey_of_slots slots member inside

end Listings

section Codable

private theorem int_checked_iff {declaration : String} {position : Position} {r : IntRestriction} :
    r.Checked ↔ boundsError? declaration position (.int r) = none ∧
      formError? declaration position (.int r) = none := by
  obtain ⟨min, max, width⟩ := r
  have bounds : boundsError? declaration position (.int ⟨min, max, width⟩) = none ↔
      ∀ low high, min = some low → max = some high → low ≤ high := by
    cases min <;> cases max <;> simp [boundsError?]
  have form : formError? declaration position (.int ⟨min, max, width⟩) = none ↔
      ∀ bits, width = some bits → 1 ≤ bits.toNat ∧ bits.toNat ≤ 64 := by
    cases width <;> simp [formError?]
  rw [bounds, form]
  exact ⟨fun ⟨ordered, width⟩ => ⟨ordered, width⟩, fun ⟨ordered, width⟩ => ⟨ordered, width⟩⟩

private theorem string_checked_iff {declaration : String} {position : Position}
    {r : StringRestriction} : r.Checked ↔ boundsError? declaration position (.string r) = none ∧
      formError? declaration position (.string r) = none := by
  obtain ⟨min, max, pattern⟩ := r
  have bounds : boundsError? declaration position (.string ⟨min, max, pattern⟩) = none ↔
      ∀ low high, min = some low → max = some high → low ≤ high := by
    cases min <;> cases max <;> simp [boundsError?]
  have form : formError? declaration position (.string ⟨min, max, pattern⟩) = none ↔
      ∀ text, pattern = some text → ∃ regex, Pattern.Engine.compile text = .ok regex := by
    cases pattern with
    | none => simp [formError?]
    | some text => cases compiled : Pattern.Engine.compile text <;> simp [formError?, compiled]
  rw [bounds, form]
  exact ⟨fun ⟨ordered, compiles⟩ => ⟨ordered, compiles⟩,
    fun ⟨ordered, compiles⟩ => ⟨ordered, compiles⟩⟩

theorem declarationErrors_eq_nil {tag : String} {declaration : Declaration ρ}
    (keyed : ∀ label ∈ declaration.body.fieldLabels, fieldKey defaults label = label.wireKey) :
    declarationErrors tag declaration = [] ↔
      ((∀ c ∈ declaration.body.constructors, (c.fields.map (·.wireKey)).Nodup ∧
          ∀ field ∈ c.fields, field.wireKey ≠ tag) ∧
        ∀ type ∈ declaration.body.walk, (type.productFields.map (·.wireKey)).Nodup) ∧
      (∀ r, declaration.body = .restricted (.int r) → r.Checked) ∧
      ∀ r, declaration.body = .restricted (.string r) → r.Checked := by
  rw [← keyScopes_eq_nil keyed]
  obtain ⟨name, body, info⟩ := declaration
  rcases body with type | constructors | labels | r | r
  case restricted.int =>
    simp [declarationErrors, restrictionErrors, intErrors_eq, keyScopes, ← int_checked_iff]
  case restricted.string =>
    simp [declarationErrors, restrictionErrors, stringErrors_eq, keyScopes, ← string_checked_iff]
  all_goals
    rw [declarationErrors_of_free rfl]
    simp

theorem codable_iff {model : Model} (slots : slotErrors defaults model = []) :
    Codable model ↔ model.declarations.flatMap (declarationErrors (tagField model)) = [] := by
  have products : (∀ d ∈ model.declarations, ∀ type ∈ d.body.walk,
      (type.productFields.map (·.wireKey)).Nodup) ↔
      ∀ place info fields, nodeAt? model.declarations place = some (.product info fields) →
        (fields.map (·.wireKey)).Nodup := by
    have nodes := enumerates_walks model.declarations
    constructor
    · intro distinct place info fields there
      obtain ⟨d, member, inside⟩ := List.mem_flatMap.1 (nodes.mem_of_lookup there)
      exact distinct d member _ inside
    · intro distinct d member type inside
      obtain ⟨place, there⟩ := nodes.exists_place (List.mem_flatMap.2 ⟨d, member, inside⟩)
      cases type with
      | product info fields => exact distinct place info fields there
      | _ => exact List.nodup_nil
  have keyed : ∀ d ∈ model.declarations, ∀ label ∈ d.body.fieldLabels,
      fieldKey defaults label = label.wireKey :=
    fun _ member _ inside => fieldKey_eq_wireKey_of_slots slots member inside
  rw [List.flatMap_eq_nil_iff, tagField_eq_tagKey,
    forall₂_congr fun d member => declarationErrors_eq_nil (keyed d member)]
  constructor
  · rintro ⟨_, constructors, distinct, ints, strings⟩ d member
    exact ⟨⟨constructors d member, products.2 distinct d member⟩, ints d member, strings d member⟩
  · intro kept
    exact ⟨slots, fun d member => (kept d member).1.1,
      products.1 fun d member => (kept d member).1.2, fun d member => (kept d member).2.1,
      fun d member => (kept d member).2.2⟩

end Codable

/-- The check accepts exactly the models that can be coded, and leaves them as they are. Wrong slots
are reported alone; where there are none, the errors are those of the broken rules, one for each,
in the order of declarations. -/
theorem coding_check_exact (model : Model) :
    (∀ result, check model = .ok result ↔ result = model ∧ Codable model) ∧
    (slotErrors defaults model ≠ [] →
      check model = .error ((slotErrors defaults model).map .slot)) ∧
    (slotErrors defaults model = [] → ∀ errors, check model = .error errors →
      ListsBy (Prod.Lex (· < ·) Rule.Before) (breachAt? model) errors) := by
  refine ⟨fun result => ?_, fun wrong => ?_, fun slots errors failed => ?_⟩
  · rw [check_eq_ok]
    constructor
    · rintro ⟨slots, noErrors, same⟩
      exact ⟨same, (codable_iff slots).2 noErrors⟩
    · rintro ⟨same, codable⟩
      exact ⟨codable.slots, (codable_iff codable.slots).1 codable, same⟩
  · unfold check
    simp [wrong]
  · have listed := listsBy_breaches slots
    simp only [check, slots, List.isEmpty_nil, Bool.not_true, Bool.false_eq_true, if_false]
      at failed
    split at failed
    · cases failed
    · cases failed
      exact listed

example :
    let renamed : Info := { properties := .ofList [(fieldNameSlot, .present .string (.string "a"))] }
    let element := TypeExpr.product {} [⟨⟨"a", {}⟩, .unit {}⟩, ⟨⟨"b", renamed⟩, .unit {}⟩]
    check
      { declarations := [
          { name := "T"
            body := .sum [{ name := "C", fields := [⟨⟨"tag", {}⟩, .list {} element⟩] }] }] } =
      .error [.tagFieldClash "T.C" "tag" {}, .duplicateWireKey "T.C" "a" {}] := rfl

end Coding

end WireModel
