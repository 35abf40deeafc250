import SyntheticTable.Generate
import SyntheticTable.Proofs.Generators

/-!
# What is settled up front

A request that passes all checks has one kind for each column that is asked
for, values of every kind can be drawn, and the shape of the columns is a
possible one.
-/

namespace SyntheticTable

/-- Whether a shape is a possible one does not depend on the rows. -/
theorem DrawPlan.exists_of_eq_ok
    {params : ColumnParams}
    {plan : DrawPlan}
    {rows : Nat}
    (planned : DrawPlan.of params rows = .ok plan)
    (others : Nat) :
    ∃ plan, DrawPlan.of params others = .ok plan := by
  rcases DrawPlan.of_eq_ok_iff.1 planned with ⟨nulls, ruled, -⟩
  exact ⟨_, DrawPlan.of_eq_ok_iff.2 ⟨nulls, ruled, rfl⟩⟩

namespace TableSpec

theorem length_expandedTypes
    {spec : TableSpec}
    {types : List SemanticType}
    (expanded : spec.expandedTypes = .ok types) :
    types.length = spec.columnCount.toNat := by
  unfold expandedTypes at expanded
  split at expanded
  · next none =>
      cases expanded
      rw [none]
      rfl
  · split at expanded
    · cases expanded
    · cases expanded
      simp [cycled]

theorem outline_eq_ok_iff
    (spec : TableSpec)
    (outline : Outline) :
    spec.outline = .ok outline ↔
      spec.expandedTypes = .ok outline.types ∧
        (∀ type ∈ outline.types, type.isImplemented = true) ∧
        (∃ plan, DrawPlan.of spec.params 0 = .ok plan) ∧
        spec.rowCount = .ok outline.rows := by
  rcases outline with ⟨types, rows⟩
  simp only [TableSpec.outline, bind_eq_ok_iff, mapError_eq_ok_iff]
  constructor
  · rintro ⟨expandedTypes, expanded, others⟩
    cases found : expandedTypes.find? fun type => !type.isImplemented with
    | some type =>
        rw [found] at others
        cases others
    | none =>
        simp only [found, bind_eq_ok_iff, mapError_eq_ok_iff,
          pure_eq_ok_iff] at others
        rcases others with ⟨plan, planned, count, counted, equal⟩
        cases equal
        exact ⟨expanded, by simpa using found, ⟨plan, planned⟩, counted⟩
  · rintro ⟨expanded, implemented, ⟨plan, planned⟩, counted⟩
    have found : (types.find? fun type => !type.isImplemented) = none := by
      simpa using implemented
    refine ⟨types, expanded, ?_⟩
    simp only [found, bind_eq_ok_iff, mapError_eq_ok_iff, pure_eq_ok_iff]
    exact ⟨plan, planned, rows, counted, rfl⟩

/-- The shape of the columns is a possible one for any number of rows. -/
theorem exists_plan_of_outline
    {spec : TableSpec}
    {outline : Outline}
    (outlined : spec.outline = .ok outline)
    (rows : Nat) :
    ∃ plan, DrawPlan.of spec.params rows = .ok plan := by
  rcases ((outline_eq_ok_iff spec outline).1 outlined).2.2.1 with
    ⟨plan, planned⟩
  exact DrawPlan.exists_of_eq_ok planned rows

/-- A refused request names a fault of the request or of the shape of a column. -/
theorem outline_eq_error
    {spec : TableSpec}
    {error : GenerateError}
    (refused : spec.outline = .error error) :
    (∃ cause, error = .spec cause) ∨ ∃ cause, error = .build cause := by
  simp only [TableSpec.outline, bind_eq_error_iff, mapError_eq_error_iff] at refused
  rcases refused with ⟨cause, failed, rfl⟩ | ⟨types, expanded, others⟩
  · exact .inl ⟨cause, rfl⟩
  · cases found : types.find? fun type => !type.isImplemented with
    | some type =>
        rw [found] at others
        cases others
        exact .inr ⟨_, rfl⟩
    | none =>
        simp only [found, bind_eq_error_iff, mapError_eq_error_iff,
          pure_ne_error, and_false, exists_false, or_false] at others
        rcases others with ⟨cause, failed, rfl⟩ | ⟨plan, planned, cause, failed, rfl⟩
        · exact .inr ⟨cause, rfl⟩
        · exact .inl ⟨cause, rfl⟩

end TableSpec

end SyntheticTable
