import WireModel.Model.Validation
import WireModel.Proofs.Places
import Mathlib.Data.List.Lex
import Mathlib.Data.List.Perm.Basic
import Mathlib.Logic.Equiv.Defs

/-! Listings of what a look-up finds: nothing is missing and nothing is listed twice, in whatever
order or in the order of the keys. Scans that report every repetition of a name list the
repetitions. -/
namespace WireModel

variable {α β κ μ : Type}

/-- Up to order, what a look-up finds, once for each key where it finds something. -/
def Lists (lookup : κ → Option α) (items : List α) : Prop :=
  ∃ keys : List κ, keys.Nodup ∧ (∀ key, (lookup key).isSome → key ∈ keys) ∧
    items.Perm (keys.filterMap lookup)

namespace Lists

variable {lookup : κ → Option α} {items items' : List α}

theorem of_perm (h : Lists lookup items) (same : items'.Perm items) : Lists lookup items' := by
  obtain ⟨keys, distinct, complete, found⟩ := h
  exact ⟨keys, distinct, complete, same.trans found⟩

theorem of_enumerates {lookup : Place → Option α} (h : Enumerates lookup items) :
    Lists lookup items := by
  obtain ⟨places, increasing, complete, found⟩ := h
  refine ⟨places, increasing.imp fun {place place'} before => ?_, complete, ?_⟩
  · exact (List.Lex.imp (fun _ _ => Nat.ne_of_lt) place place' before).to_ne
  · have same : places.filterMap lookup = items := by
      calc places.filterMap lookup = (places.map lookup).filterMap id := by
            rw [List.filterMap_map, Function.id_comp]
        _ = items := by rw [found, List.filterMap_map, Function.id_comp, List.filterMap_some]
    rw [same]

theorem eq_nil_iff (h : Lists lookup items) : items = [] ↔ ∀ key, lookup key = none := by
  obtain ⟨keys, _, complete, found⟩ := h
  constructor
  · rintro rfl key
    have none := List.filterMap_eq_nil_iff.1 found.symm.eq_nil
    by_contra there
    exact there (none key (complete key (Option.isSome_iff_ne_none.2 there)))
  · intro none
    rw [List.filterMap_eq_nil_iff.2 fun key _ => none key] at found
    exact found.eq_nil

theorem filterMap (h : Lists lookup items) (f : α → Option β) :
    Lists (fun key => (lookup key).bind f) (items.filterMap f) := by
  obtain ⟨keys, distinct, complete, found⟩ := h
  refine ⟨keys, distinct, fun key there => complete key ?_, ?_⟩
  · cases absent : lookup key with
    | none => simp [absent] at there
    | some item => rfl
  · rw [← List.filterMap_filterMap]
    exact found.filterMap f

theorem map (h : Lists lookup items) (f : α → β) :
    Lists (fun key => (lookup key).map f) (items.map f) := by
  simpa [Option.map_eq_bind, List.filterMap_eq_map] using h.filterMap (some ∘ f)

theorem flatMap (h : Lists lookup items) {inside : α → μ → Option β} {listed : α → List β}
    (each : ∀ item, Lists (inside item) (listed item)) :
    Lists (fun key : κ × μ => (lookup key.1).bind (inside · key.2)) (items.flatMap listed) := by
  obtain ⟨keys, distinct, complete, found⟩ := h
  choose within distinctWithin completeWithin foundWithin using each
  let below : κ → List (κ × μ) := fun key =>
    ((lookup key).toList.flatMap within).map fun inner => (key, inner)
  refine ⟨keys.flatMap below, ?_, ?_, ?_⟩
  · refine List.nodup_flatMap.2 ⟨fun key _ => ?_, distinct.imp fun {key key'} differ => ?_⟩
    · refine List.Nodup.map (fun inner inner' same => (Prod.mk.inj same).2) ?_
      cases lookup key with
      | none => exact List.nodup_nil
      | some item => simpa using distinctWithin item
    · intro pair first second
      obtain ⟨_, _, rfl⟩ := List.mem_map.1 first
      obtain ⟨_, _, same⟩ := List.mem_map.1 second
      exact differ (Prod.mk.inj same).1.symm
  · rintro ⟨key, inner⟩ there
    cases absent : lookup key with
    | none => simp [absent] at there
    | some item =>
      simp only [absent, Option.bind_some] at there
      refine List.mem_flatMap.2 ⟨key, complete key (by rw [absent]; rfl), ?_⟩
      refine List.mem_map.2 ⟨inner, ?_, rfl⟩
      rw [absent]
      simpa using completeWithin item inner there
  · have inItem : ∀ key, ((lookup key).toList.flatMap listed).Perm
        ((below key).filterMap fun key => (lookup key.1).bind (inside · key.2)) := by
      intro key
      simp only [below, List.filterMap_map]
      cases there : lookup key with
      | none => exact .refl _
      | some item => simpa [Function.comp_def, there] using foundWithin item
    calc List.Perm (items.flatMap listed) ((keys.filterMap lookup).flatMap listed) :=
          found.flatMap_right listed
      _ = keys.flatMap fun key => (lookup key).toList.flatMap listed := by
          rw [List.filterMap_eq_flatMap_toList, List.flatMap_assoc]
      List.Perm _ (keys.flatMap fun key =>
          (below key).filterMap fun key => (lookup key.1).bind (inside · key.2)) :=
          .flatMap_left _ fun key _ => inItem key
      _ = (keys.flatMap below).filterMap fun key => (lookup key.1).bind (inside · key.2) := by
          rw [List.filterMap_flatMap]

theorem sum {other : μ → Option α} (h : Lists lookup items) (h' : Lists other items') :
    Lists (Sum.elim lookup other) (items ++ items') := by
  obtain ⟨keys, distinct, complete, found⟩ := h
  obtain ⟨keys', distinct', complete', found'⟩ := h'
  refine ⟨keys.map .inl ++ keys'.map .inr, ?_, ?_, ?_⟩
  · refine List.nodup_append.2 ⟨distinct.map Sum.inl_injective, distinct'.map Sum.inr_injective, ?_⟩
    simp
  · rintro (key | key) there
    · exact List.mem_append_left _ (List.mem_map_of_mem (complete key there))
    · exact List.mem_append_right _ (List.mem_map_of_mem (complete' key there))
  · rw [List.filterMap_append, List.filterMap_map, List.filterMap_map]
    exact found.append found'

theorem of_equiv {lookup : μ → Option α} (rename : κ ≃ μ)
    (h : Lists (fun key => lookup (rename key)) items) : Lists lookup items := by
  obtain ⟨keys, distinct, complete, found⟩ := h
  refine ⟨keys.map rename, distinct.map rename.injective, fun key there => ?_, ?_⟩
  · refine List.mem_map.2 ⟨rename.symm key, complete _ ?_, rename.apply_symm_apply key⟩
    simpa using there
  · rw [List.filterMap_map]
    exact found

theorem succ {lookup : Nat → Option α} (h : Lists (fun index => lookup (index + 1)) items) :
    Lists lookup ((lookup 0).toList ++ items) := by
  obtain ⟨keys, distinct, complete, found⟩ := h
  refine ⟨0 :: keys.map (· + 1), ?_, ?_, ?_⟩
  · refine List.nodup_cons.2 ⟨by simp, distinct.map fun index index' same => ?_⟩
    exact Nat.succ.inj same
  · intro key there
    cases key with
    | zero => exact List.mem_cons_self
    | succ index =>
      exact List.mem_cons_of_mem _ (List.mem_map_of_mem (complete index there))
  · have tail : (keys.map (· + 1)).filterMap lookup =
        keys.filterMap fun index => lookup (index + 1) := List.filterMap_map
    rw [List.filterMap_cons, tail]
    cases lookup 0 with
    | none => exact found
    | some item => exact found.cons item

theorem positions (items : List α) : Lists (fun index : Nat => items[index]?) items := by
  induction items with
  | nil => exact ⟨[], List.nodup_nil, by simp, .refl _⟩
  | cons item rest ih => exact succ ih

end Lists

namespace ListsBy

variable {before : κ → κ → Prop} {lookup : κ → Option α} {items items' : List α}

theorem eq_nil_iff (h : ListsBy before lookup items) : items = [] ↔ ∀ key, lookup key = none := by
  constructor
  · rintro rfl key
    cases there : lookup key with
    | none => rfl
    | some item => cases h.mem_of_lookup there
  · intro none
    cases items with
    | nil => rfl
    | cons item rest =>
      obtain ⟨key, there⟩ := h.exists_key List.mem_cons_self
      cases (none key).symm.trans there

/-- Order and look-up leave no choice. -/
theorem unique [Std.Asymm before] (h : ListsBy before lookup items)
    (h' : ListsBy before lookup items') : items = items' := by
  obtain ⟨keys, increasing, complete, found⟩ := h
  obtain ⟨keys', increasing', complete', found'⟩ := h'
  have some_of_mem : ∀ {keys : List κ} {items : List α}, keys.map lookup = items.map some →
      ∀ key ∈ keys, (lookup key).isSome := by
    intro keys items found key among
    have there := List.mem_map_of_mem (f := lookup) among
    rw [found] at there
    obtain ⟨item, _, there⟩ := List.mem_map.1 there
    rw [← there]
    rfl
  have same : keys = keys' := by
    refine List.Perm.eq_of_pairwise ?_ increasing increasing' ((List.perm_ext_iff_of_nodup
      increasing.nodup increasing'.nodup).2 fun key => ⟨fun among => ?_, fun among => ?_⟩)
    · intro key key' _ _ first second
      exact absurd second (Std.Asymm.asymm _ _ first)
    · exact complete' key (some_of_mem found key among)
    · exact complete key (some_of_mem found' key among)
  subst same
  exact List.map_injective_iff.2 (Option.some_injective α) (found.symm.trans found')

theorem rename {before' : μ → μ → Prop} {lookup : μ → Option α} (rename : κ → μ)
    (monotone : ∀ key key', before key key' → before' (rename key) (rename key'))
    (onto : ∀ key, (lookup key).isSome → ∃ key', rename key' = key)
    (h : ListsBy before (fun key => lookup (rename key)) items) : ListsBy before' lookup items := by
  obtain ⟨keys, increasing, complete, found⟩ := h
  refine ⟨keys.map rename, List.pairwise_map.2 (increasing.imp (monotone _ _)), ?_, ?_⟩
  · intro key there
    obtain ⟨key, rfl⟩ := onto key there
    exact List.mem_map_of_mem (complete key there)
  · rw [List.map_map]
    exact found

theorem positions (items : List α) : ListsBy (· < ·) (fun index : Nat => items[index]?) items := by
  refine ⟨List.range items.length, List.pairwise_lt_range, fun index there => ?_, ?_⟩
  · simpa using there
  · apply List.ext_getElem
    · simp
    · intro index _ inRange
      simp at inRange
      simp [inRange]

theorem flags (lookup : Bool → Option α) :
    ListsBy (· < ·) lookup ((lookup false).toList ++ (lookup true).toList) := by
  refine ⟨[false, true].filter fun flag => (lookup flag).isSome, ?_, fun flag there => ?_, ?_⟩
  · exact List.Pairwise.filter _ (by decide)
  · cases flag <;> simp [there]
  · cases first : lookup false <;> cases second : lookup true <;> simp [first, second]

theorem flatMap {before' : μ → μ → Prop} (h : ListsBy before lookup items)
    {inside : α → μ → Option β} {listed : α → List β}
    (each : ∀ item ∈ items, ListsBy before' (inside item) (listed item)) :
    ListsBy (Prod.Lex before before') (fun key => (lookup key.1).bind (inside · key.2))
      (items.flatMap listed) := by
  have member {key : κ} {item : α} : lookup key = some item → item ∈ items := h.mem_of_lookup
  obtain ⟨keys, increasing, complete, found⟩ := h
  have each' : ∀ item, ∃ within : List μ, item ∈ items → within.Pairwise before' ∧
      (∀ inner, (inside item inner).isSome → inner ∈ within) ∧
      within.map (inside item) = (listed item).map some := by
    intro item
    by_cases among : item ∈ items
    · obtain ⟨within, listing⟩ := each item among
      exact ⟨within, fun _ => listing⟩
    · exact ⟨[], fun here => absurd here among⟩
  choose within listing using each'
  let below : κ → List (κ × μ) := fun key =>
    ((lookup key).toList.flatMap within).map fun inner => (key, inner)
  refine ⟨keys.flatMap below, ?_, ?_, ?_⟩
  · refine List.pairwise_flatMap.2 ⟨fun key _ => ?_, increasing.imp fun {key key'} first => ?_⟩
    · refine List.pairwise_map.2 (List.Pairwise.imp (fun second => .right key second) ?_)
      cases there : lookup key with
      | none => exact .nil
      | some item => simpa using (listing item (member there)).1
    · intro pair inFirst pair' inSecond
      obtain ⟨_, _, rfl⟩ := List.mem_map.1 inFirst
      obtain ⟨_, _, rfl⟩ := List.mem_map.1 inSecond
      exact .left _ _ first
  · rintro ⟨key, inner⟩ there
    cases here : lookup key with
    | none => simp [here] at there
    | some item =>
      simp only [here, Option.bind_some] at there
      refine List.mem_flatMap.2 ⟨key, complete key (by rw [here]; rfl), ?_⟩
      refine List.mem_map.2 ⟨inner, ?_, rfl⟩
      rw [here]
      simpa using (listing item (member here)).2.1 inner there
  · have inItem : ∀ key, (below key).map (fun key => (lookup key.1).bind (inside · key.2)) =
        (lookup key).toList.flatMap fun item => (listed item).map some := by
      intro key
      simp only [below, List.map_map]
      cases there : lookup key with
      | none => rfl
      | some item =>
        simpa [Function.comp_def, there] using (listing item (member there)).2.2
    calc (keys.flatMap below).map (fun key => (lookup key.1).bind (inside · key.2))
        = keys.flatMap fun key => (lookup key).toList.flatMap fun item =>
            (listed item).map some := by simp only [List.map_flatMap, inItem]
      _ = (keys.map lookup).flatMap fun found => found.toList.flatMap fun item =>
            (listed item).map some := by rw [List.flatMap_map]
      _ = (items.flatMap listed).map some := by
          rw [found, List.flatMap_map, List.map_flatMap]
          simp

theorem succ {lookup : Nat × μ → Option α} {before' : μ → μ → Prop}
    (first : ListsBy before' (fun inner => lookup (0, inner)) items)
    (rest : ListsBy (Prod.Lex (· < ·) before') (fun key => lookup (key.1 + 1, key.2)) items') :
    ListsBy (Prod.Lex (· < ·) before') lookup (items ++ items') := by
  obtain ⟨keys, increasing, complete, found⟩ := first
  obtain ⟨keys', increasing', complete', found'⟩ := rest
  refine ⟨keys.map (0, ·) ++ keys'.map fun key => (key.1 + 1, key.2), ?_, ?_, ?_⟩
  · refine List.pairwise_append.2 ⟨?_, ?_, ?_⟩
    · exact List.pairwise_map.2 (increasing.imp fun second => .right 0 second)
    · refine List.pairwise_map.2 (increasing'.imp fun {key key'} below => ?_)
      cases below with
      | left inner inner' below => exact .left _ _ (Nat.succ_lt_succ below)
      | right index below => exact .right _ below
    · intro key inFirst key' inRest
      obtain ⟨_, _, rfl⟩ := List.mem_map.1 inFirst
      obtain ⟨_, _, rfl⟩ := List.mem_map.1 inRest
      exact .left _ _ (Nat.succ_pos _)
  · rintro ⟨index, inner⟩ there
    cases index with
    | zero => exact List.mem_append_left _ (List.mem_map_of_mem (complete inner there))
    | succ index =>
      refine List.mem_append_right _ (List.mem_map.2 ⟨(index, inner), ?_, rfl⟩)
      exact complete' (index, inner) there
  · rw [List.map_append, List.map_append, List.map_map, List.map_map]
    exact congrArg₂ (· ++ ·) found found'

end ListsBy

section Names

variable (name : α → String)

def repeatAt? (items : List α) (index : Nat) : Option α :=
  items[index]?.filter fun item => name item ∈ (items.take index).map name

/-- The items whose names have been seen, or occur before them. -/
def repeats (seen : List String) : List α → List α
  | [] => []
  | item :: rest => ifRepeated seen (name item) item ++ repeats (name item :: seen) rest

private theorem lists_repeats_seen (seen : List String) (items : List α) :
    Lists (fun index : Nat => items[index]?.filter fun item =>
      name item ∈ seen ∨ name item ∈ (items.take index).map name) (repeats name seen items) := by
  induction items generalizing seen with
  | nil => exact ⟨[], List.nodup_nil, by simp, .refl _⟩
  | cons item rest ih =>
    have first : ifRepeated seen (name item) item =
        (Option.filter (fun item => name item ∈ seen ∨ name item ∈ [].map name)
          (some item)).toList := by
      by_cases again : name item ∈ seen <;> simp [ifRepeated, Option.filter, again]
    rw [repeats, first]
    refine Lists.succ ?_
    have later := ih (name item :: seen)
    simp only [List.mem_cons, or_assoc] at later
    simp only [List.getElem?_cons_succ, List.take_succ_cons, List.map_cons, List.mem_cons,
      or_left_comm]
    exact later

theorem lists_repeats (items : List α) : Lists (repeatAt? name items) (repeats name [] items) := by
  have listed := lists_repeats_seen name [] items
  simp only [List.not_mem_nil, false_or] at listed
  exact listed

theorem repeatAt?_eq_none {items : List α} :
    (∀ index, repeatAt? name items index = none) ↔ (items.map name).Nodup := by
  simp only [repeatAt?, Option.filter_eq_none_iff, decide_eq_true_eq]
  constructor
  · intro none
    rw [List.Nodup, List.pairwise_map, List.pairwise_iff_getElem]
    intro first second inRange _ before same
    refine none second _ (List.getElem?_eq_getElem _) (List.mem_map.2 ⟨items[first], ?_, same⟩)
    exact List.mem_take_iff_getElem.2 ⟨first, by omega, rfl⟩
  · intro distinct index item there again
    rw [← List.take_append_drop index items, List.map_append] at distinct
    refine List.disjoint_of_nodup_append distinct again (List.mem_map_of_mem ?_)
    exact List.mem_of_getElem? (i := 0) (by simpa using there)

private theorem map_ifRepeated (seen : List String) (own : String) (error : α → β) (item : α) :
    (ifRepeated seen own item).map error = ifRepeated seen own (error item) := by
  unfold ifRepeated
  split <;> rfl

/-- A scan that reports repeated names reports the repetitions. -/
theorem eq_map_repeats (scan : List String → List α → List β) (error : α → β)
    (nil : ∀ seen, scan seen [] = [])
    (cons : ∀ seen item rest, scan seen (item :: rest) =
      ifRepeated seen (name item) (error item) ++ scan (name item :: seen) rest)
    (seen : List String) (items : List α) :
    scan seen items = (repeats name seen items).map error := by
  induction items generalizing seen with
  | nil => exact nil seen
  | cons item rest ih => rw [cons, repeats, List.map_append, map_ifRepeated, ih]

/-- A scan that also looks at each item reports the repetitions, and what is in the items. -/
theorem perm_of_scan (scan : List String → List α → List β) (error : α → β) (inside : α → List β)
    (nil : ∀ seen, scan seen [] = [])
    (cons : ∀ seen item rest, scan seen (item :: rest) =
      ifRepeated seen (name item) (error item) ++ inside item ++ scan (name item :: seen) rest)
    (seen : List String) (items : List α) :
    (scan seen items).Perm ((repeats name seen items).map error ++ items.flatMap inside) := by
  induction items generalizing seen with
  | nil => simp [nil, repeats]
  | cons item rest ih =>
    rw [cons, repeats, List.map_append, map_ifRepeated, List.flatMap_cons, List.append_assoc,
      List.append_assoc]
    refine .append_left _ ?_
    calc List.Perm (inside item ++ scan (name item :: seen) rest)
          (inside item ++ ((repeats name (name item :: seen) rest).map error ++
            rest.flatMap inside)) := (ih _).append_left _
      List.Perm _ ((repeats name (name item :: seen) rest).map error ++
          (inside item ++ rest.flatMap inside)) := List.perm_append_comm_assoc _ _ _

end Names

end WireModel
