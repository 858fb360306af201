import WireModel.Decoding.Run
import WireModel.Pattern.Compiled
import WireModel.Proofs.Listings
import WireModel.Proofs.Outcomes
import WireModel.Proofs.ValueEquality

/-! Sets are decoded as lists are, and then every item that equals an earlier one is left out. An
item is compared with the items kept so far only; since equality is an equivalence, that is as good
as comparing it with all items before it. -/
namespace WireModel

namespace ListsBy

variable {α κ : Type}

theorem pairwise {before : κ → κ → Prop} {lookup : κ → Option α} {items : List α}
    {R : α → α → Prop} (h : ListsBy before lookup items)
    (related : ∀ key key' item item', before key key' → lookup key = some item →
      lookup key' = some item' → R item item') : items.Pairwise R := by
  obtain ⟨keys, increasing, _, found⟩ := h
  have lookups : (keys.map lookup).Pairwise fun first second =>
      ∀ item item', first = some item → second = some item' → R item item' := by
    refine List.pairwise_map.2 (increasing.imp fun {key key'} first item item' => ?_)
    exact related key key' item item' first
  rw [found, List.pairwise_map] at lookups
  exact lookups.imp fun related => related _ _ rfl rfl

theorem cons {lookup : Nat → Option α} {items : List α}
    (rest : ListsBy (· < ·) (fun index => lookup (index + 1)) items) :
    ListsBy (· < ·) lookup ((lookup 0).toList ++ items) := by
  obtain ⟨keys, increasing, complete, found⟩ := rest
  have later : (keys.map (· + 1)).Pairwise (· < ·) :=
    List.pairwise_map.2 (increasing.imp Nat.succ_lt_succ)
  have found : (keys.map (· + 1)).map lookup = items.map some := by
    rw [List.map_map]
    exact found
  cases first : lookup 0 with
  | none =>
    refine ⟨keys.map (· + 1), later, fun key there => ?_, found⟩
    cases key with
    | zero => simp [first] at there
    | succ index => exact List.mem_map_of_mem (complete index there)
  | some item =>
    refine ⟨0 :: keys.map (· + 1), List.pairwise_cons.2 ⟨by simp, later⟩, fun key there => ?_, ?_⟩
    · cases key with
      | zero => exact List.mem_cons_self
      | succ index => exact List.mem_cons_of_mem _ (List.mem_map_of_mem (complete index there))
    · rw [List.map_cons, first, found]
      rfl

end ListsBy

section FirstOccurrences

variable (before : List Value) (item : Value) (rest : List Value)

/-- The item at a position, if it equals nothing in `before` and no item ahead of it. -/
def newAt? (before items : List Value) (index : Nat) : Option Value :=
  items[index]?.filter fun item => !(before ++ items.take index).any (·.same item)

theorem newAt?_eq_some {items : List Value} {index : Nat} {item : Value} :
    newAt? [] items index = some item ↔
      items[index]? = some item ∧
        ∀ index' < index, ∀ earlier, items[index']? = some earlier → ¬earlier.same item := by
  have ahead : (∀ earlier ∈ items.take index, ¬earlier.same item) ↔
      ∀ index' < index, ∀ earlier, items[index']? = some earlier → ¬earlier.same item := by
    simp only [List.mem_take_iff_getElem, List.getElem?_eq_some_iff]
    grind
  rw [← ahead]
  simp [newAt?, Option.filter_eq_some_iff]

@[simp]
theorem newAt?_zero :
    newAt? before (item :: rest) 0 = if before.any (·.same item) then none else some item := by
  by_cases known : before.any (·.same item) <;> simp [newAt?, Option.filter, known]

theorem newAt?_succ :
    (fun index => newAt? before (item :: rest) (index + 1)) = newAt? (before ++ [item]) rest := by
  funext index
  simp [newAt?]

theorem any_same_of_known {seen : List Value} {item : Value} (known : seen.any (·.same item))
    (other : Value) : (seen.any (·.same other) || item.same other) = seen.any (·.same other) := by
  apply Bool.or_eq_left_iff_imp.2
  intro same
  obtain ⟨earlier, among, sameItem⟩ := List.any_eq_true.1 known
  exact List.any_eq_true.2 ⟨earlier, among, Value.same_equivalence.trans sameItem same⟩

/-- As long as the items seen equal all that the items before them equal, the scan keeps exactly
the items that are new. -/
theorem listsBy_distinctFrom {before seen : List Value}
    (covers : ∀ item, before.any (·.same item) = seen.any (·.same item)) (items : List Value) :
    ListsBy (· < ·) (newAt? before items) (Value.distinctFrom seen items) := by
  induction items generalizing before seen with
  | nil => exact ⟨[], .nil, by simp [newAt?], rfl⟩
  | cons item rest ih =>
    have later {seen' : List Value}
        (covers' : ∀ other, (before ++ [item]).any (·.same other) = seen'.any (·.same other)) :
        ListsBy (· < ·) (newAt? before (item :: rest))
          ((newAt? before (item :: rest) 0).toList ++ Value.distinctFrom seen' rest) := by
      apply ListsBy.cons
      rw [newAt?_succ]
      exact ih covers'
    rw [newAt?_zero, covers] at later
    by_cases known : seen.any (·.same item)
    · rw [if_pos known] at later
      rw [Value.distinctFrom, if_pos known]
      apply later
      intro other
      simp [covers, any_same_of_known known]
    · rw [if_neg known] at later
      rw [Value.distinctFrom, if_neg known]
      apply later
      intro other
      simp [covers, Bool.or_comm]

/-- The members of a set, made from the items of a list. -/
structure FirstOccurrences (items members : List Value) : Prop where
  kept : ListsBy (· < ·) (newAt? [] items) members
  apart : members.Pairwise fun first second => ¬first.same second
  covered : ∀ item ∈ items, ∃ member ∈ members, member.same item

theorem firstOccurrences_of_listsBy {items members : List Value}
    (kept : ListsBy (· < ·) (newAt? [] items) members) : FirstOccurrences items members := by
  refine ⟨kept, ?_, ?_⟩
  · apply kept.pairwise
    intro index index' first second before there there'
    exact (newAt?_eq_some.1 there').2 index before first (newAt?_eq_some.1 there).1
  · -- By induction on the position: an item is new, or it equals one at an earlier position.
    have covered (index : Nat) : ∀ item, items[index]? = some item →
        ∃ member ∈ members, member.same item := by
      induction index using Nat.strong_induction_on with
      | _ index ih =>
        intro item there
        by_cases new : newAt? [] items index = some item
        · exact ⟨item, kept.mem_of_lookup new, Value.same_equivalence.refl item⟩
        · simp only [newAt?_eq_some, there, true_and, not_forall, not_not] at new
          obtain ⟨index', before, earlier, there', same⟩ := new
          obtain ⟨member, among, same'⟩ := ih index' before earlier there'
          exact ⟨member, among, Value.same_equivalence.trans same' same⟩
    intro item among
    obtain ⟨index, there⟩ := List.mem_iff_getElem?.1 among
    exact covered index item there

theorem firstOccurrences_distinct (items : List Value) :
    FirstOccurrences items (Value.distinct items) :=
  firstOccurrences_of_listsBy (listsBy_distinctFrom (fun _ => rfl) items)

theorem FirstOccurrences.eq_distinct {items members : List Value}
    (first : FirstOccurrences items members) : members = Value.distinct items :=
  first.kept.unique (firstOccurrences_distinct items).kept

end FirstOccurrences

namespace Decoding

section Items

variable [Pattern.Engine] (table : DecoderTable) (entered : List String) (path : Path)
  (element : Decoder)

/-- What the decoders of lists and of sets have in common. -/
def arrayItems (input : Json) : Except DecodeError (List Value) :=
  match input with
  | .array items => elements table path element 0 items
  | input => .error (expected path .array input)

@[simp]
theorem run_list (input : Json) :
    run table entered path (.list element) input =
      (do return .list (← arrayItems table path element input)) := by
  rw [run.eq_def]
  cases input <;> rfl

@[simp]
theorem run_set (input : Json) :
    run table entered path (.set element) input =
      (do return .set (Value.distinct (← arrayItems table path element input))) := by
  rw [run.eq_def]
  cases input <;> rfl

/-- The decoder of a set rejects what the decoder of a list with the same items rejects, for the
same reason. Where the list is decoded, the members of the set are the items that equal no item
before them: no two members are equal, every item equals a member, and the members come in the order
of their first occurrences. Equality is an equivalence, structural at every depth, where doubles are
compared as numbers. -/
theorem set_keeps_first_occurrences (input : Json) :
    (∀ error, run table entered path (.set element) input = .error error ↔
      run table entered path (.list element) input = .error error) ∧
    (∀ value, run table entered path (.list element) input = .ok value →
      ∃ items members, value = .list items ∧
        run table entered path (.set element) input = .ok (.set members) ∧
        FirstOccurrences items members) ∧
    (Equivalence fun a b : Value => a.same b) ∧
    (∀ a b : Value, a.same b ↔ a.canonical = b.canonical) ∧
    ∀ x y : Double, x.same y ↔ x.number = y.number := by
  refine ⟨fun error => ?_, fun value decoded => ?_, Value.same_equivalence, Value.same_iff,
    Double.same_iff_number⟩
  · rw [run_set, run_list, return_eq_error, return_eq_error]
  · rw [run_list] at decoded
    obtain ⟨items, each, rfl⟩ := return_eq_ok.1 decoded
    refine ⟨items, Value.distinct items, rfl, ?_, firstOccurrences_distinct items⟩
    rw [run_set]
    exact return_eq_ok.2 ⟨items, each, rfl⟩

end Items

def leastDouble : Double := ⟨false, ⟨1, by decide⟩⟩

def repeatedDoubles : List Double :=
  [.zero, Double.zero.neg, leastDouble, .zero, leastDouble]

section Program

attribute [local instance] Pattern.regexEngine

theorem set_keeps_first_occurrences_doubles :
    let input := Json.array (repeatedDoubles.map fun x => .number (.double x))
    run ∅ [] {} (.set (.primitive .real)) input = .ok (.set [.real .zero, .real leastDouble]) ∧
      FirstOccurrences (repeatedDoubles.map .real) [.real .zero, .real leastDouble] := by
  intro input
  have items : arrayItems ∅ {} (.primitive .real) input = .ok (repeatedDoubles.map .real) := by
    simp only [input, repeatedDoubles, arrayItems, List.map_cons, List.map_nil, elements, run,
      scalar]
    rfl
  have list : run ∅ [] {} (.list (.primitive .real)) input =
      .ok (.list (repeatedDoubles.map .real)) := by
    rw [run_list, items]
    rfl
  have set : run ∅ [] {} (.set (.primitive .real)) input =
      .ok (.set [.real .zero, .real leastDouble]) := by
    have distinct : Value.distinct (repeatedDoubles.map .real) =
        [.real .zero, .real leastDouble] := by
      simp [Value.distinct, Value.distinctFrom, Value.same, Double.same, repeatedDoubles,
        leastDouble, Double.zero, Double.neg]
    rw [run_set, items]
    exact congrArg (fun members => Except.ok (Value.set members)) distinct
  obtain ⟨_, _, same, members, occurrences⟩ :=
    (set_keeps_first_occurrences ∅ [] {} (.primitive .real) input).2.1 _ list
  cases same
  cases members.symm.trans set
  exact ⟨set, occurrences⟩

end Program

end Decoding

end WireModel
