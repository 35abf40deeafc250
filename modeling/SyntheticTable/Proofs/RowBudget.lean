import Mathlib.Algebra.BigOperators.Group.List.Basic
import Mathlib.Algebra.Ring.Nat
import Mathlib.Data.List.Induction
import SyntheticTable.Proofs.Failure
import SyntheticTable.TableSpec

/-!
# Kinds in turn and the bytes of a row

A request lists kinds, and its columns take them in turn.  So the listed kinds
come first, as many as there are columns, and no other kind comes after them:
the first column with some property is found among the listed kinds.

A row is budgeted for the bytes of all its columns, unless one of them cannot
be drawn.
-/

namespace SyntheticTable

section Cycling

variable
    {α : Type}
    (first : α)
    (rest : List α)
    (count : Nat)

@[simp]
theorem length_cycled : (cycled first rest count).length = count := by
  simp [cycled]

theorem cycled_getElem?
    {place : Nat}
    (inside : place < count) :
    (cycled first rest count)[place]? =
      (first :: rest)[place % (first :: rest).length]? := by
  have listed : place % (first :: rest).length < (first :: rest).length :=
    Nat.mod_lt place (Nat.succ_pos rest.length)
  rw [cycled, List.getElem?_map, List.getElem?_range inside,
    List.getElem?_eq_getElem listed]
  simp only [Option.map_some, Array.getD_eq_getD_getElem?, List.size_toArray,
    List.getElem?_toArray, List.getElem?_eq_getElem listed, Option.getD_some]

theorem take_prefix_cycled :
    (first :: rest).take count <+: cycled first rest count := by
  apply List.prefix_iff_getElem?.2
  intro place inside
  rcases Nat.lt_min.1 (List.length_take ▸ inside) with ⟨within, listed⟩
  rw [cycled_getElem? first rest count within, Nat.mod_eq_of_lt listed,
    List.getElem?_eq_getElem listed, List.getElem_take]

/-- Only as many different entries are used as are asked for. -/
theorem mem_take_of_mem_cycled
    {entry : α}
    (member : entry ∈ cycled first rest count) :
    entry ∈ (first :: rest).take count := by
  rcases List.getElem?_of_mem member with ⟨place, found⟩
  rcases List.getElem?_eq_some_iff.1 found with ⟨inside, -⟩
  rw [length_cycled] at inside
  rw [cycled_getElem? first rest count inside] at found
  refine List.mem_of_getElem? (i := place % (first :: rest).length) ?_
  rw [List.getElem?_take_of_lt, found]
  exact Nat.lt_of_le_of_lt (Nat.mod_le place _) inside

/-- What is searched for is found in the list before it is repeated. -/
theorem find?_cycled (test : α → Bool) :
    (cycled first rest count).find? test =
      ((first :: rest).take count).find? test := by
  rcases take_prefix_cycled first rest count with ⟨others, whole⟩
  cases found : ((first :: rest).take count).find? test with
  | some entry => rw [← whole, List.find?_append, found, Option.some_or]
  | none =>
      rw [List.find?_eq_none] at found ⊢
      intro entry member
      exact found entry (mem_take_of_mem_cycled first rest count member)

end Cycling

/-! ## Bytes of a row -/

/-- The bytes that columns of some kinds are budgeted for, a row of each. -/
def budgetedBytes (types : List SemanticType) : Nat :=
  (types.map fun type => type.averageBytes?.getD 0).sum

/-- A row is refused over the first kind that cannot be drawn. -/
theorem rowBytes_eq (types : List SemanticType) :
    rowBytes types =
      (types.find? fun type => !type.isImplemented).elim
        (.ok (budgetedBytes types))
        fun type => .error (.notImplemented ⟨type⟩) := by
  induction types using List.reverseRecOn with
  | nil => rfl
  | append_singleton types type inductionHypothesis =>
      have oneMore :
          rowBytes (types ++ [type]) =
            rowBytes types >>= fun bytes =>
              type.averageBytes?.elim
                (.error (.notImplemented ⟨type⟩))
                fun more => .ok (bytes + more) := by
        rw [rowBytes, List.foldlM_append]
        cases budget : type.averageBytes? with
        | none => simp [rowBytes, budget]
        | some more => simp [rowBytes, budget]
      rw [oneMore, inductionHypothesis, List.find?_append]
      cases types.find? fun type => !type.isImplemented with
      | some unknown => rfl
      | none =>
          cases type <;>
            simp [budgetedBytes, SemanticType.isImplemented,
              SemanticType.averageBytes?]

theorem rowBytes_of_implemented
    {types : List SemanticType}
    (implemented : ∀ type ∈ types, type.isImplemented = true) :
    rowBytes types = .ok (budgetedBytes types) := by
  have allKnown : (types.find? fun type => !type.isImplemented) = none := by
    simpa using implemented
  rw [rowBytes_eq, allKnown]
  rfl

theorem SemanticType.averageBytes_pos
    {type : SemanticType}
    (implemented : type.isImplemented = true) :
    0 < type.averageBytes?.getD 0 := by
  cases type with
  | fixed type => cases type <;> exact Nat.succ_pos _
  | string => decide
  | dictionary32 => cases implemented
  | list => cases implemented
  | struct => cases implemented

theorem budgetedBytes_pos
    {types : List SemanticType}
    (implemented : ∀ type ∈ types, type.isImplemented = true)
    (inhabited : 0 < types.length) :
    0 < budgetedBytes types := by
  cases types with
  | nil => cases inhabited
  | cons type types =>
      rw [budgetedBytes, List.map_cons, List.sum_cons]
      apply Nat.add_pos_left
      exact SemanticType.averageBytes_pos (implemented type (List.mem_cons_self ..))

namespace TableSpec

/-- Columns are asked for, but no kinds are listed. -/
def LacksTypes (spec : TableSpec) : Prop :=
  0 < spec.columnCount.toNat ∧ spec.types = []

variable
    {spec : TableSpec}
    {types : List SemanticType}

/-- Only a request that lacks kinds has no kinds for its columns. -/
theorem expandedTypes_eq_error_iff
    {error : SpecError} :
    spec.expandedTypes = .error error ↔
      spec.LacksTypes ∧ error = .emptyTypeList spec.columnCount.toNat := by
  unfold expandedTypes LacksTypes
  by_cases none : spec.columnCount = 0
  · simp [none]
  · have positive : 0 < spec.columnCount.toNat :=
      Nat.pos_of_ne_zero fun zero => none (UInt64.toNat_inj.1 zero)
    cases listed : spec.types with
    | nil => simp [none, positive, eq_comm]
    | cons first rest => simp [none]

/-- The first column whose kind passes a test is one of the listed kinds. -/
theorem find?_expandedTypes
    (expanded : spec.expandedTypes = .ok types)
    (test : SemanticType → Bool) :
    types.find? test =
      (spec.types.take spec.columnCount.toNat).find? test := by
  unfold expandedTypes at expanded
  split at expanded
  · next none =>
      cases expanded
      rw [none]
      rfl
  · split at expanded
    · cases expanded
    · next first rest listed =>
        cases expanded
        rw [listed]
        exact find?_cycled first rest _ test

theorem averageRowBytes_of_expandedTypes
    (expanded : spec.expandedTypes = .ok types)
    (implemented : ∀ type ∈ types, type.isImplemented = true) :
    spec.averageRowBytes = .ok (budgetedBytes types) := by
  rw [averageRowBytes, expanded, bind_ok, rowBytes_of_implemented implemented]

/-- The rows of a budget are the bytes divided by it, none where it is zero. -/
theorem rowCount_of_averageRowBytes
    {bytes : Nat}
    (averaged : spec.averageRowBytes = .ok bytes) :
    spec.rowCount = .ok (spec.tableBytes.toNat / bytes) := by
  rw [rowCount, averaged, bind_ok]
  by_cases nothing : bytes = 0
  · rw [if_pos nothing, nothing, Nat.div_zero]
    rfl
  · rw [if_neg nothing]
    rfl

end TableSpec

end SyntheticTable
