import SyntheticTable.Build.Runs
import SyntheticTable.Proofs.Drawing

/-!
# How runs are drawn

Runs are drawn one after the other until the rows are filled: a pick, then a
length, which is cut to the rows that remain.  The derivations of `DrawsRuns`
follow these draws, so a fact about all runs is proved by induction on them.

Fewer rows drawn from the same engine have the picks of the first rows: the
runs agree until the shorter column ends, which may be in the middle of a run.
-/

namespace SyntheticTable

variable {α : Type}

/-- A drawn length cut to the rows that remain. -/
def cutLength (drawn remaining : Nat) : Nat :=
  max 1 (min drawn remaining)

theorem cutLength_pos (drawn remaining : Nat) :
    0 < cutLength drawn remaining := by
  unfold cutLength
  omega

theorem cutLength_le {remaining : Nat} (some : 0 < remaining) (drawn : Nat) :
    cutLength drawn remaining ≤ remaining := by
  unfold cutLength
  omega

/-- The runs that are drawn for some rows from an engine, and the last engine. -/
inductive DrawsRuns
    (pick : Draw (Pick α))
    (length : Draw Nat) :
    (remaining : Nat) → Engine → List (Run α) → Engine → Prop where
  | done (engine : Engine) : DrawsRuns pick length 0 engine [] engine
  | run
      {remaining cut : Nat}
      {engine afterPick afterLength last : Engine}
      {picked : Pick α}
      {drawn : Nat}
      {rest : List (Run α)}
      (pickDrawn : pick.run engine = (picked, afterPick))
      (lengthDrawn : length.run afterPick = (drawn, afterLength))
      (cutEqual : cut = cutLength drawn (remaining + 1))
      (others :
        DrawsRuns pick length (remaining + 1 - cut) afterLength rest last) :
      DrawsRuns pick length (remaining + 1) engine (⟨picked, cut⟩ :: rest) last

/-- Drawing runs follows a derivation, and puts the runs after the given ones. -/
theorem drawRunsInto_draws
    (pick : Draw (Pick α))
    (length : Draw Nat)
    (remaining : Nat)
    (runs : Array (Run α))
    (engine : Engine) :
    ∃ rest last,
      DrawsRuns pick length remaining engine rest last ∧
        (drawRunsInto pick length remaining runs).run engine =
          (runs ++ rest, last) := by
  fun_induction drawRunsInto pick length remaining runs generalizing engine with
  | case1 runs =>
      refine ⟨[], engine, .done engine, ?_⟩
      show (runs, engine) = (runs ++ [], engine)
      simp
  | case2 remaining runs inductionHypothesis =>
      rcases pickDrawn : pick.run engine with ⟨picked, afterPick⟩
      rcases lengthDrawn : length.run afterPick with ⟨drawn, afterLength⟩
      rcases inductionHypothesis picked drawn afterLength with
        ⟨rest, last, others, restEqual⟩
      refine ⟨_, last, .run pickDrawn lengthDrawn rfl others, ?_⟩
      rw [StateT.run_bind, pickDrawn]
      show StateT.run (length >>= _) afterPick = _
      rw [StateT.run_bind, lengthDrawn]
      refine restEqual.trans ?_
      simp [cutLength]

namespace DrawsRuns

variable
    {pick : Draw (Pick α)}
    {length : Draw Nat}
    {remaining : Nat}
    {engine last : Engine}
    {runs : List (Run α)}

theorem length_pos
    (draws : DrawsRuns pick length remaining engine runs last) :
    ∀ run ∈ runs, 0 < run.length := by
  induction draws with
  | done engine => simp
  | run pickDrawn lengthDrawn cutEqual others inductionHypothesis =>
      intro run member
      rcases List.mem_cons.1 member with rfl | member
      · rw [cutEqual]
        exact cutLength_pos _ _
      · exact inductionHypothesis run member

/-- What holds of every pick that can be drawn holds of the picks of all runs. -/
theorem pick_property
    (property : Pick α → Prop)
    (draws : DrawsRuns pick length remaining engine runs last)
    (picksHave : ∀ engine, property (pick.run engine).1) :
    ∀ run ∈ runs, property run.pick := by
  induction draws with
  | done engine => simp
  | @run _ _ engine _ _ _ _ _ _ pickDrawn lengthDrawn cutEqual others
      inductionHypothesis =>
      intro run member
      rcases List.mem_cons.1 member with rfl | member
      · have has := picksHave engine
        rw [pickDrawn] at has
        exact has
      · exact inductionHypothesis run member

end DrawsRuns

/-- The pick of every row, in row order. -/
def rowPicks (runs : List (Run α)) : List (Pick α) :=
  runs.flatMap fun run => List.replicate run.length run.pick

@[simp]
theorem rowPicks_nil : rowPicks ([] : List (Run α)) = [] :=
  rfl

@[simp]
theorem rowPicks_cons (run : Run α) (runs : List (Run α)) :
    rowPicks (run :: runs) =
      List.replicate run.length run.pick ++ rowPicks runs := by
  simp [rowPicks]

theorem mem_rowPicks
    {runs : List (Run α)}
    {picked : Pick α}
    (member : picked ∈ rowPicks runs) :
    ∃ run ∈ runs, run.pick = picked := by
  rcases List.mem_flatMap.1 member with ⟨run, runMember, pickMember⟩
  exact ⟨run, runMember, (List.eq_of_mem_replicate pickMember).symm⟩

namespace DrawsRuns

variable
    {pick : Draw (Pick α)}
    {length : Draw Nat}
    {remaining : Nat}
    {engine last : Engine}
    {runs : List (Run α)}

theorem length_rowPicks
    (draws : DrawsRuns pick length remaining engine runs last) :
    (rowPicks runs).length = remaining := by
  induction draws with
  | done engine => rfl
  | @run remaining cut _ _ _ _ _ drawn _ pickDrawn lengthDrawn cutEqual others
      inductionHypothesis =>
      have cutSmall : cut ≤ remaining + 1 := by
        rw [cutEqual]
        exact cutLength_le (Nat.succ_pos remaining) drawn
      rw [rowPicks_cons, List.length_append, List.length_replicate,
        inductionHypothesis]
      exact Nat.add_sub_of_le cutSmall

/-- Fewer rows drawn from the same engine have the picks of the first rows. -/
theorem rowPicks_take
    {rows more : Nat}
    {lastOfLong : Engine}
    {longRuns : List (Run α)}
    (short : DrawsRuns pick length rows engine runs last)
    (long : DrawsRuns pick length more engine longRuns lastOfLong)
    (fewer : rows ≤ more) :
    rowPicks runs = (rowPicks longRuns).take rows := by
  induction short generalizing more longRuns with
  | done engine => simp
  | @run remaining cut engine afterPick afterLength last picked drawn rest
      pickDrawn lengthDrawn cutEqual others inductionHypothesis =>
      cases long with
      | done => omega
      | @run longRemaining longCut _ longAfterPick longAfterLength _ longPicked
          longDrawn longRest longPickDrawn longLengthDrawn longCutEqual
          longOthers =>
          rw [pickDrawn] at longPickDrawn
          cases longPickDrawn
          rw [lengthDrawn] at longLengthDrawn
          cases longLengthDrawn
          simp only [rowPicks_cons]
          by_cases whole : drawn ≤ remaining + 1
          · -- The run ends inside the shorter column.
            have sameCut : longCut = cut := by
              rw [longCutEqual, cutEqual, cutLength, cutLength]
              omega
            have cutSmall : cut ≤ remaining + 1 := by
              rw [cutEqual]
              exact cutLength_le (Nat.succ_pos remaining) drawn
            subst sameCut
            have firstWhole :
                (List.replicate longCut picked).take (remaining + 1) =
                  List.replicate longCut picked :=
              List.take_of_length_le (by simpa using cutSmall)
            rw [inductionHypothesis longOthers (by omega), List.take_append,
              List.length_replicate, firstWhole]
          · -- The shorter column ends in the middle of the run.
            have cutAll : cut = remaining + 1 := by
              rw [cutEqual, cutLength]
              omega
            have cutMore : remaining + 1 ≤ longCut := by
              rw [longCutEqual, cutLength]
              omega
            have noMore : rowPicks rest = [] := by
              have counted := others.length_rowPicks
              rw [cutAll, Nat.sub_self] at counted
              exact List.eq_nil_of_length_eq_zero counted
            rw [noMore, cutAll, List.append_nil,
              List.take_append_of_le_length (by simpa using cutMore),
              List.take_replicate, Nat.min_eq_left cutMore]

/--
Where every run is a fresh cell of one row, the cells are drawn in sequence,
and nothing else is.
-/
theorem of_fresh
    {cell : Draw α}
    (fresh :
      ∀ engine,
        pick.run engine = (.fresh (cell.run engine).1, (cell.run engine).2))
    (draws : DrawsRuns pick (pure 1) remaining engine runs last) :
    rowPicks runs =
        ((Draw.repeated remaining cell).run engine).1.toList.map Pick.fresh ∧
      last = ((Draw.repeated remaining cell).run engine).2 := by
  induction draws with
  | done engine => exact ⟨rfl, rfl⟩
  | @run remaining cut engine afterPick afterLength last picked drawn rest
      pickDrawn lengthDrawn cutEqual others inductionHypothesis =>
      cases lengthDrawn
      rw [fresh engine] at pickDrawn
      cases pickDrawn
      have cutOne : cut = 1 := by
        rw [cutEqual, cutLength]
        omega
      subst cutOne
      rcases inductionHypothesis with ⟨othersEqual, lastEqual⟩
      rw [rowPicks_cons, othersEqual, Draw.repeated_succ_run]
      exact ⟨by simp, lastEqual⟩

end DrawsRuns

end SyntheticTable
