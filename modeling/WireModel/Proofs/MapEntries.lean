import WireModel.Pattern.Compiled
import WireModel.Proofs.Reading

/-! Maps are decoded member by member. Every member gives one entry and entries keep the order of
the members; since no two texts are read as one key, they never meet in the result. The first member
that fails decides the error, and of a member the key is asked before the value. -/
namespace WireModel

section Related

variable {α β : Type} {R : α → β → Prop} {items : List α} {results : List β}

private theorem exists_related (related : List.Forall₂ R items results) {item : α}
    (member : item ∈ items) : ∃ result ∈ results, R item result := by
  induction related with
  | nil => cases member
  | cons head _ ih =>
    rcases List.mem_cons.1 member with rfl | member
    · exact ⟨_, List.mem_cons_self, head⟩
    · obtain ⟨result, among, holds⟩ := ih member
      exact ⟨result, List.mem_cons_of_mem _ among, holds⟩

private theorem pairwise_of_forall₂ {P : α → α → Prop} {Q : β → β → Prop}
    (related : List.Forall₂ R items results) (apart : items.Pairwise P)
    (step : ∀ item item' result result', R item result → R item' result' → P item item' →
      Q result result') : results.Pairwise Q := by
  induction related with
  | nil => exact .nil
  | cons head tail ih =>
    obtain ⟨first, rest⟩ := List.pairwise_cons.1 apart
    refine List.pairwise_cons.2 ⟨fun result member => ?_, ih rest⟩
    obtain ⟨item, among, holds⟩ := exists_related tail.flip member
    exact step _ _ _ _ head holds (first item among)

end Related

namespace Decoding

section Entries

variable [Pattern.Engine] {table : DecoderTable} {path : Path} {keyDecoder : KeyDecoder}
  {value : Decoder}

/-- No two texts are read as the same key, whatever the key decoder. -/
theorem KeyReads.raw_eq {raw raw' : String} {first second : Value}
    (read : KeyReads table keyDecoder raw first) (read' : KeyReads table keyDecoder raw' second)
    (same : first.same second) : raw = raw' := by
  cases read with
  | text | label =>
    cases read'
    simpa [Value.same] using same
  | @integer _ _ _ n =>
    cases read' with
    | @integer _ _ _ m =>
      have equal : n = m := by simpa [Value.same] using same
      rw [equal]
    | string => simp [Value.same] at same
  | string =>
    cases read' with
    | integer => simp [Value.same] at same
    | string => simpa [Value.same] using same

private theorem KeyReads.same_self {raw : String} {key : Value}
    (read : KeyReads table keyDecoder raw key) : key.same key := by
  cases read <;> simp [Value.same]

section Member

variable (table path keyDecoder value)

def MemberDecodes (member : String × Json) (entry : Value × Value) : Prop :=
  key table path member.1 keyDecoder = .ok entry.1 ∧
    run table [] (path.push (.entry member.1)) value member.2 = .ok entry.2

/-- The key of a member is rejected, or it is accepted and the value is rejected. -/
def MemberFails (member : String × Json) (error : DecodeError) : Prop :=
  key table path member.1 keyDecoder = .error error ∨
    (∃ decoded, key table path member.1 keyDecoder = .ok decoded) ∧
      run table [] (path.push (.entry member.1)) value member.2 = .error error

def memberEntry (member : String × Json) : Except DecodeError (Value × Value) := do
  let first ← key table path member.1 keyDecoder
  return (first, ← run table [] (path.push (.entry member.1)) value member.2)

end Member

private theorem memberEntry_eq_ok {member : String × Json} {entry : Value × Value} :
    memberEntry table path keyDecoder value member = .ok entry ↔
      MemberDecodes table path keyDecoder value member entry := by
  rw [memberEntry, bind_eq_ok]
  constructor
  · rintro ⟨first, read, rest⟩
    obtain ⟨second, ran, rfl⟩ := return_eq_ok.1 rest
    exact ⟨read, ran⟩
  · rintro ⟨read, ran⟩
    exact ⟨entry.1, read, return_eq_ok.2 ⟨entry.2, ran, rfl⟩⟩

private theorem memberEntry_eq_error {member : String × Json} {error : DecodeError} :
    memberEntry table path keyDecoder value member = .error error ↔
      MemberFails table path keyDecoder value member error := by
  rw [memberEntry, bind_eq_error, MemberFails]
  refine or_congr_right ⟨?_, ?_⟩
  · rintro ⟨decoded, read, rest⟩
    exact ⟨⟨decoded, read⟩, return_eq_error.1 rest⟩
  · rintro ⟨⟨decoded, read⟩, rejected⟩
    exact ⟨decoded, read, return_eq_error.2 rejected⟩

private theorem entries_eq_mapM (members : List (String × Json)) :
    entries table path keyDecoder value members =
      members.mapM (memberEntry table path keyDecoder value) := by
  induction members with
  | nil =>
    rw [entries, List.mapM_nil]
    rfl
  | cons member rest ih =>
    obtain ⟨raw, item⟩ := member
    rw [entries, List.mapM_cons, memberEntry, ih]
    simp only [bind_assoc, pure_bind]

theorem run_dict (entered : List String) (members : List (String × Json)) :
    run table entered path (.dict keyDecoder value) (.object members) =
      do return .dict (← members.mapM (memberEntry table path keyDecoder value)) := by
  rw [run, entries_eq_mapM]

theorem keys_apart {members : List (String × Json)} {entries : List (Value × Value)}
    (object : Increasing members)
    (decoded : List.Forall₂ (MemberDecodes table path keyDecoder value) members entries) :
    (entries.map Prod.fst).Pairwise fun first second => first ≠ second ∧ ¬first.same second := by
  rw [List.pairwise_map]
  refine pairwise_of_forall₂ decoded object ?_
  intro member member' entry entry' gives gives' below
  have read := key_eq_ok.1 gives.1
  have read' := key_eq_ok.1 gives'.1
  have apart : ¬entry.1.same entry'.1 := fun same =>
    String.lt_irrefl _ (read.raw_eq read' same ▸ below)
  refine ⟨fun equal => apart ?_, apart⟩
  rw [← equal]
  exact read.same_self

/-- Decoding a map loses, merges and duplicates nothing. It gives a value exactly if every member
gives an entry, and the value holds these entries in the order of the members; their keys are
different. It fails if the key or the value of any member does, and the error is exactly that of the
first member that fails, where the key comes before the value. -/
theorem map_entries_exact (table : DecoderTable) (entered : List String) (path : Path)
    (keyDecoder : KeyDecoder) (value : Decoder) {members : List (String × Json)}
    (object : Increasing members) :
    (∀ result, run table entered path (.dict keyDecoder value) (.object members) = .ok result ↔
      ∃ entries, result = .dict entries ∧
        List.Forall₂ (MemberDecodes table path keyDecoder value) members entries) ∧
    (∀ entries,
      run table entered path (.dict keyDecoder value) (.object members) = .ok (.dict entries) →
        (entries.map Prod.fst).Pairwise fun first second => first ≠ second ∧ ¬first.same second) ∧
    (∀ raw item, (raw, item) ∈ members →
      (∃ error, key table path raw keyDecoder = .error error) ∨
        (∃ error, run table [] (path.push (.entry raw)) value item = .error error) →
      ∃ error, run table entered path (.dict keyDecoder value) (.object members) = .error error) ∧
    ∀ error, run table entered path (.dict keyDecoder value) (.object members) = .error error ↔
      ∃ before member after, members = before ++ member :: after ∧
        (∀ earlier ∈ before, ∃ entry, MemberDecodes table path keyDecoder value earlier entry) ∧
        MemberFails table path keyDecoder value member error := by
  have succeeds : ∀ result,
      run table entered path (.dict keyDecoder value) (.object members) = .ok result ↔
        ∃ entries, result = .dict entries ∧
          List.Forall₂ (MemberDecodes table path keyDecoder value) members entries := by
    intro result
    simp only [run_dict, return_eq_ok, mapM_eq_ok, memberEntry_eq_ok]
    exact exists_congr fun entries => by rw [and_comm, eq_comm]
  refine ⟨succeeds, fun entries gives => ?_, fun raw item member fails => ?_, fun error => ?_⟩
  · obtain ⟨_, same, decoded⟩ := (succeeds _).1 gives
    cases same
    exact keys_apart object decoded
  · cases answer : run table entered path (.dict keyDecoder value) (.object members) with
    | error error => exact ⟨error, rfl⟩
    | ok result =>
      obtain ⟨entries, rfl, decoded⟩ := (succeeds _).1 answer
      obtain ⟨entry, _, read, ran⟩ := exists_related decoded member
      obtain ⟨error, rejected⟩ | ⟨error, rejected⟩ := fails
      · cases read.symm.trans rejected
      · cases ran.symm.trans rejected
  · simp only [run_dict, return_eq_error, mapM_eq_error_iff, memberEntry_eq_ok,
      memberEntry_eq_error]

end Entries

section Program

attribute [local instance] Pattern.regexEngine

theorem map_entries_exact_ports :
    ∃ (table : DecoderTable) (members spelled : List (String × Json))
      (entries : List (Value × Value)),
      Increasing members ∧ Increasing spelled ∧ entries.length = 2 ∧
      run table [] {} (.dict (.refined "Port" .int) (.primitive .int)) (.object members) =
        .ok (.dict entries) ∧
      ((entries.map Prod.fst).Pairwise fun first second => first ≠ second ∧ ¬first.same second) ∧
      run table [] {} (.dict (.refined "Port" .int) (.primitive .int)) (.object spelled) =
        .error (.invalidKey {} "080" .notCanonical) := by
  let table : DecoderTable :=
    (∅ : DecoderTable).insert "Port" (.refined "Port" (.int { min := some 1 }))
  have members : Increasing [("443", Json.number (.integer 2)), ("80", .number (.integer 1))] :=
    List.pairwise_pair.2 (by decide)
  have spelled : Increasing [("080", Json.null), ("80", .null)] := List.pairwise_pair.2 (by decide)
  obtain ⟨succeeds, apart, _, _⟩ :=
    map_entries_exact table [] {} (.refined "Port" .int) (.primitive .int) members
  obtain ⟨_, _, _, fails⟩ :=
    map_entries_exact table [] {} (.refined "Port" .int) (.primitive .int) spelled
  have gives := (succeeds _).2 ⟨[(.int 443, .int 2), (.int 80, .int 1)], rfl,
    .cons ⟨rfl, by rw [run]; rfl⟩ (.cons ⟨rfl, by rw [run]; rfl⟩ .nil)⟩
  refine ⟨table, _, _, _, members, spelled, rfl, gives, apart _ gives, ?_⟩
  exact (fails _).2 ⟨[], _, _, rfl, by simp, .inl rfl⟩

end Program

end Decoding

end WireModel
