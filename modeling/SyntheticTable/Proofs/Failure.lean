/-!
# Computations that can fail

A computation made of parts succeeds exactly when all of its parts do, and
fails with the error of the first part that fails.
-/

namespace SyntheticTable

variable {ε δ α β : Type}

section Computing

variable
    (error : ε)
    (value : α)

@[simp]
theorem bind_error (second : α → Except ε β) :
    (.error error >>= second) = .error error :=
  rfl

@[simp]
theorem bind_ok (second : α → Except ε β) :
    (.ok value >>= second) = second value :=
  rfl

@[simp]
theorem map_error (change : α → β) :
    (.error error : Except ε α).map change = .error error :=
  rfl

@[simp]
theorem map_ok (change : α → β) :
    (.ok value : Except ε α).map change = .ok (change value) :=
  rfl

@[simp]
theorem mapError_error (wrap : ε → δ) :
    (.error error : Except ε α).mapError wrap = .error (wrap error) :=
  rfl

@[simp]
theorem mapError_ok (wrap : ε → δ) :
    (.ok value : Except ε α).mapError wrap = .ok value :=
  rfl

@[simp]
theorem pure_eq_ok : (pure value : Except ε α) = .ok value :=
  rfl

end Computing

/-! ## Success and failure -/

@[simp]
theorem bind_eq_ok_iff
    (first : Except ε α)
    (second : α → Except ε β)
    (result : β) :
    (first >>= second) = .ok result ↔
      ∃ value, first = .ok value ∧ second value = .ok result := by
  cases first with
  | error error => simp
  | ok value => simp

@[simp]
theorem mapError_eq_ok_iff
    (computation : Except ε α)
    (wrap : ε → δ)
    (result : α) :
    computation.mapError wrap = .ok result ↔ computation = .ok result := by
  cases computation with
  | error error => simp
  | ok value => simp

@[simp]
theorem map_eq_ok_iff
    (computation : Except ε α)
    (change : α → β)
    (result : β) :
    computation.map change = .ok result ↔
      ∃ value, computation = .ok value ∧ change value = result := by
  cases computation with
  | error error => simp
  | ok value => simp

@[simp]
theorem pure_eq_ok_iff (value result : α) :
    (pure value : Except ε α) = .ok result ↔ value = result := by
  simp

@[simp]
theorem bind_eq_error_iff
    (first : Except ε α)
    (second : α → Except ε β)
    (error : ε) :
    (first >>= second) = .error error ↔
      first = .error error ∨
        ∃ value, first = .ok value ∧ second value = .error error := by
  cases first with
  | error cause => simp
  | ok value => simp

@[simp]
theorem mapError_eq_error_iff
    (computation : Except ε α)
    (wrap : ε → δ)
    (error : δ) :
    computation.mapError wrap = .error error ↔
      ∃ cause, computation = .error cause ∧ wrap cause = error := by
  cases computation with
  | error cause => simp
  | ok value => simp

@[simp]
theorem map_eq_error_iff
    (computation : Except ε α)
    (change : α → β)
    (error : ε) :
    computation.map change = .error error ↔ computation = .error error := by
  cases computation with
  | error cause => simp
  | ok value => simp

@[simp]
theorem pure_ne_error (value : α) (error : ε) :
    (pure value : Except ε α) ≠ .error error := by
  simp

/-- A computation for each entry succeeds exactly when all of them do. -/
theorem mapM_eq_ok_iff
    {compute : α → Except ε β}
    {entries : List α}
    {results : List β} :
    entries.mapM compute = .ok results ↔
      entries.map compute = results.map .ok := by
  induction entries generalizing results with
  | nil =>
      rw [List.mapM_nil, List.map_nil, pure_eq_ok_iff]
      cases results with
      | nil => simp
      | cons first others => simp
  | cons entry entries inductionHypothesis =>
      simp only [List.mapM_cons, bind_eq_ok_iff, pure_eq_ok_iff,
        inductionHypothesis]
      constructor
      · rintro ⟨first, computed, others, othersComputed, rfl⟩
        rw [List.map_cons, List.map_cons, computed, othersComputed]
      · intro allComputed
        cases results with
        | nil => cases allComputed
        | cons first others =>
            rcases List.cons.inj allComputed with ⟨computed, othersComputed⟩
            exact ⟨first, computed, others, othersComputed, rfl⟩

/-- A computation for each entry fails only where that for some entry does. -/
theorem exists_of_mapM_eq_error
    {compute : α → Except ε β}
    {entries : List α}
    {error : ε}
    (failed : entries.mapM compute = .error error) :
    ∃ entry ∈ entries, compute entry = .error error := by
  induction entries with
  | nil => cases failed
  | cons entry entries inductionHypothesis =>
      simp only [List.mapM_cons, bind_eq_error_iff, pure_ne_error, and_false,
        exists_false, or_false] at failed
      rcases failed with first | ⟨_, -, others⟩
      · exact ⟨entry, List.mem_cons_self .., first⟩
      · rcases inductionHypothesis others with ⟨other, member, otherFailed⟩
        exact ⟨other, List.mem_cons_of_mem entry member, otherFailed⟩

end SyntheticTable
