import WireModel.Proofs.Builders

/-! How decoders are built from types. A field of an optional type is built from the type of the
value that it may hold, so that induction over the positions of decoders goes through that type. -/
namespace WireModel

namespace Site

variable {site : Site}

private theorem forFields_error {scope : String} {fields : List (Field (TypeExpr Classification))}
    {error : GenerateError}
    (keys : ∀ field ∈ fields, ∃ key, site.fieldKey field.toFieldLabel = .ok key)
    (h : site.forFields scope fields = .error error) :
    ∃ field ∈ fields, ∃ path, site.forType path field.type.held = .error error := by
  rw [forFields_eq_mapM] at h
  obtain ⟨field, member, h⟩ := mapM_eq_error h
  obtain ⟨key, read⟩ := keys field member
  rw [forField, bind_eq_error, read] at h
  obtain h | ⟨_, _, h⟩ := h
  · cases h
  obtain h | ⟨_, _, h⟩ := bind_eq_error.1 h
  · exact ⟨field, member, _, h⟩
  · cases h

/-- Where every key can be read, a decoder fails to be built at function types only. -/
theorem forType_error {path : String} {type : TypeExpr Classification} {error : GenerateError}
    (keys : ∀ label ∈ type.fieldLabels, ∃ key, site.fieldKey label = .ok key)
    (h : site.forType path type = .error error) :
    ∃ path position, error = .undecodable site.declaration path position := by
  induction type using TypeExpr.decodingInduction generalizing path with
  | unit | basic | named | emptyProduct => cases h
  | product info fields ih =>
    simp only [TypeExpr.fieldLabels, TypeExpr.fieldListLabels_eq, List.mem_flatMap] at keys
    obtain ⟨field, member, path, h⟩ := forFields_error
      (fun field member => keys _ ⟨field, member, List.mem_cons_self⟩) (return_eq_error.1 h)
    refine ih field member (fun label inside => keys label ⟨field, member, ?_⟩) h
    rw [TypeExpr.fieldLabels_held] at inside
    exact List.mem_cons_of_mem _ inside
  | list info element ih | set info element ih | optional info element ih =>
    exact ih keys (return_eq_error.1 h)
  | dict info key value ih =>
    exact ih (fun label member => keys label (List.mem_append_right _ member)) (return_eq_error.1 h)
  | function info argument result =>
    cases h
    exact ⟨path, info.position, rfl⟩

theorem forBody_error {body : Body Classification} {error : GenerateError}
    (keys : ∀ label ∈ body.fieldLabels, ∃ key, site.fieldKey label = .ok key)
    (h : site.forBody body = .error error) :
    ∃ path position, error = .undecodable site.declaration path position := by
  rcases body with type | constructors | labels | restriction
  · exact forType_error keys h
  · simp only [Body.fieldLabels, TypeExpr.fieldListLabels_eq, List.mem_flatMap] at keys
    have failed := return_eq_error.1 h
    rw [forCases_eq_mapM] at failed
    obtain ⟨constructor, among, failed⟩ := mapM_eq_error failed
    obtain ⟨field, member, path, failed⟩ := forFields_error
      (fun field member => keys _ ⟨constructor, among, field, member, List.mem_cons_self⟩)
      (return_eq_error.1 failed)
    refine forType_error (fun label inside => keys label ⟨constructor, among, field, member, ?_⟩)
      failed
    rw [TypeExpr.fieldLabels_held] at inside
    exact List.mem_cons_of_mem _ inside
  · cases h
  · cases h

end Site

end WireModel
