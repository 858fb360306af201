import Mathlib.Data.List.Forall2

/-! Taking apart computations that may fail. -/
namespace WireModel

variable {ε α β : Type}

theorem bind_eq_ok {first : Except ε α} {rest : α → Except ε β} {result : β} :
    first >>= rest = .ok result ↔ ∃ value, first = .ok value ∧ rest value = .ok result := by
  cases first <;> simp [bind, Except.bind]

theorem bind_eq_error {first : Except ε α} {rest : α → Except ε β} {error : ε} :
    first >>= rest = .error error ↔
      first = .error error ∨ ∃ value, first = .ok value ∧ rest value = .error error := by
  cases first <;> simp [bind, Except.bind]

@[simp]
theorem return_eq_ok {first : Except ε α} {f : α → β} {result : β} :
    (do return f (← first)) = .ok result ↔ ∃ value, first = .ok value ∧ f value = result := by
  rw [bind_eq_ok]
  simp [pure, Except.pure]

@[simp]
theorem return_eq_error {first : Except ε α} {f : α → β} {error : ε} :
    (do return f (← first)) = .error error ↔ first = .error error := by
  rw [bind_eq_error]
  simp [pure, Except.pure]

theorem mapM_eq_ok {f : α → Except ε β} {items : List α} {results : List β} :
    items.mapM f = .ok results ↔
      List.Forall₂ (fun item result => f item = .ok result) items results := by
  induction items generalizing results with
  | nil =>
    rw [List.mapM_nil, List.forall₂_nil_left_iff]
    exact ⟨fun h => (Except.ok.inj h).symm, fun h => congrArg _ h.symm⟩
  | cons item rest ih =>
    rw [List.mapM_cons, bind_eq_ok, List.forall₂_cons_left_iff]
    constructor
    · rintro ⟨first, head, h⟩
      obtain ⟨later, tail, rfl⟩ := return_eq_ok.1 h
      exact ⟨first, later, head, ih.1 tail, rfl⟩
    · rintro ⟨first, later, head, tail, rfl⟩
      exact ⟨first, head, return_eq_ok.2 ⟨later, ih.2 tail, rfl⟩⟩

theorem ok_of_mapM_eq_ok {f : α → Except ε β} {items : List α} {results : List β}
    (h : items.mapM f = .ok results) {item : α} (member : item ∈ items) :
    ∃ result, f item = .ok result := by
  induction mapM_eq_ok.1 h with
  | nil => cases member
  | cons head tail ih =>
    obtain rfl | later := List.mem_cons.1 member
    · exact ⟨_, head⟩
    · exact ih (mapM_eq_ok.2 tail) later

theorem mapM_eq_error {f : α → Except ε β} {items : List α} {error : ε}
    (h : items.mapM f = .error error) : ∃ item ∈ items, f item = .error error := by
  induction items with
  | nil => cases h
  | cons item rest ih =>
    rw [List.mapM_cons, bind_eq_error] at h
    obtain head | ⟨first, _, h⟩ := h
    · exact ⟨item, List.mem_cons_self, head⟩
    · obtain ⟨later, member, failed⟩ := ih (return_eq_error.1 h)
      exact ⟨later, List.mem_cons_of_mem _ member, failed⟩

/-- The first item that fails decides the error. -/
theorem mapM_eq_error_iff {f : α → Except ε β} {items : List α} {error : ε} :
    items.mapM f = .error error ↔
      ∃ before item after, items = before ++ item :: after ∧
        (∀ earlier ∈ before, ∃ result, f earlier = .ok result) ∧ f item = .error error := by
  induction items with
  | nil => exact iff_of_false nofun fun ⟨_, _, _, same, _⟩ => by simp at same
  | cons first rest ih =>
    rw [List.mapM_cons, bind_eq_error]
    simp only [return_eq_error, ih]
    constructor
    · rintro (failed | ⟨result, passed, before, item, after, rfl, earlier, failed⟩)
      · exact ⟨[], first, rest, rfl, by simp, failed⟩
      · refine ⟨first :: before, item, after, rfl, ?_, failed⟩
        exact List.forall_mem_cons.2 ⟨⟨result, passed⟩, earlier⟩
    · rintro ⟨before, item, after, same, earlier, failed⟩
      cases before with
      | nil =>
        cases same
        exact .inl failed
      | cons second before =>
        cases same
        obtain ⟨⟨result, passed⟩, earlier⟩ := List.forall_mem_cons.1 earlier
        exact .inr ⟨result, passed, before, item, after, rfl, earlier, failed⟩

theorem mapM_map_of_same {f : α → Except ε β} {g : α → α} {items : List α}
    (same : ∀ item ∈ items, f (g item) = f item) : (items.map g).mapM f = items.mapM f := by
  induction items with
  | nil => rfl
  | cons item rest ih =>
    obtain ⟨first, later⟩ := List.forall_mem_cons.1 same
    rw [List.map_cons, List.mapM_cons, List.mapM_cons, first, ih later]

theorem mapM_map_results {γ : Type} {f : α → Except ε β} {f' : α → Except ε γ} {g : β → γ}
    {items : List α} (each : ∀ item ∈ items, g <$> f item = f' item) :
    List.map g <$> items.mapM f = items.mapM f' := by
  induction items with
  | nil => rfl
  | cons item rest ih =>
    obtain ⟨first, later⟩ := List.forall_mem_cons.1 each
    rw [List.mapM_cons, List.mapM_cons, ← first, ← ih later]
    simp only [map_bind, map_pure, bind_map_left, List.map_cons]

/-- The results are those of a function, since equal items have equal results. -/
theorem exists_map_of_mapM [Nonempty β] {f : α → Except ε β} {items : List α}
    {results : List β} (h : items.mapM f = .ok results) :
    ∃ g : α → β, results = items.map g ∧ ∀ item ∈ items, f item = .ok (g item) := by
  obtain ⟨fallback⟩ := ‹Nonempty β›
  refine ⟨fun item => (f item).toOption.getD fallback, ?_⟩
  induction mapM_eq_ok.1 h with
  | nil => simp
  | cons head tail ih =>
    obtain ⟨same, each⟩ := ih (mapM_eq_ok.2 tail)
    simp only [List.map_cons, head, ← same, List.forall_mem_cons]
    exact ⟨rfl, rfl, each⟩

theorem map_eq_of_forall₂ {γ : Type} {R : α → β → Prop} {f : α → γ} {g : β → γ}
    {items : List α} {results : List β} (h : List.Forall₂ R items results)
    (same : ∀ item result, R item result → f item = g result) : items.map f = results.map g := by
  rw [← List.forall₂_eq_eq_eq, List.forall₂_map_left_iff, List.forall₂_map_right_iff]
  exact h.imp same

theorem map_eq_ok {f : α → β} {first : Except ε α} {result : β} :
    first.map f = .ok result ↔ ∃ value, first = .ok value ∧ f value = result := by
  cases first <;> simp [Except.map]

@[simp]
theorem map_eq_error {g : α → β} {first : Except ε α} {error : ε} :
    g <$> first = .error error ↔ first = .error error := by
  cases first <;> simp [Functor.map, Except.map]

@[simp]
theorem mapError_eq_ok {ε' : Type} {f : ε → ε'} {first : Except ε α} {result : α} :
    first.mapError f = .ok result ↔ first = .ok result := by
  cases first <;> simp [Except.mapError]

theorem mapError_eq_error {ε' : Type} {f : ε → ε'} {first : Except ε α} {error : ε'} :
    first.mapError f = .error error ↔ ∃ cause, first = .error cause ∧ f cause = error := by
  cases first <;> simp [Except.mapError]

@[simp]
theorem toOption_eq_some {outcome : Except ε α} {value : α} :
    outcome.toOption = some value ↔ outcome = .ok value := by
  cases outcome <;> simp [Except.toOption]

end WireModel
