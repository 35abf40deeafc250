import SyntheticTable.Build.Error
import SyntheticTable.Column

/-!
# Passes of a filling loop

The rows of a column are filled by a loop: while the row that it has come to is
one of the rows, one more pass is made, which fills some rows from there on.
What stands at the head of the loop after a number of passes is a relation, and
nothing in it says that the loop ever ends.

It does if a pass keeps an invariant and fills one row at least and no more
than remain: then there are no more passes than rows, and the loop ends with
all rows filled, or in a pass that is refused.
-/

namespace SyntheticTable

/-- Why filling a column breaks off. -/
inductive FillFault where
  /-- A row, or a place of a buffer, is used that is not there. -/
  | access (fault : AccessFault)
  /-- A length is to be cut to the rows that remain, and none remains. -/
  | noRowRemains
  /-- The column is refused. -/
  | refused (error : BuildError)
deriving DecidableEq, Repr

/-- A computation that draws and may break off. -/
abbrev CheckedDraw (α : Type) := ExceptT FillFault Draw α

/-! ## Running a computation -/

namespace CheckedDraw

variable
    {ε α β : Type}
    {first : ExceptT ε Draw α}
    {engine rest : Engine}

theorem run_bind_of_ok
    {value : α}
    (ran : first.run.run engine = (.ok value, rest))
    (second : α → ExceptT ε Draw β) :
    (first >>= second).run.run engine = (second value).run.run rest := by
  rw [ExceptT.run_bind, StateT.run_bind, ran]
  rfl

theorem run_bind_of_error
    {error : ε}
    (ran : first.run.run engine = (.error error, rest))
    (second : α → ExceptT ε Draw β) :
    (first >>= second).run.run engine = (.error error, rest) := by
  rw [ExceptT.run_bind, StateT.run_bind, ran]
  rfl

theorem run_draw
    {draw : Draw α}
    {value : α}
    (drawn : draw.run engine = (value, rest)) :
    (liftM draw : ExceptT ε Draw α).run.run engine = (.ok value, rest) := by
  have lifted :
      (liftM draw : ExceptT ε Draw α).run.run engine =
        (fun result => (.ok result.1, result.2)) (draw.run engine) :=
    rfl
  rw [lifted, drawn]

theorem run_computed
    (computed : Except ε α)
    (engine : Engine) :
    (liftM computed : ExceptT ε Draw α).run.run engine = (computed, engine) :=
  rfl

theorem run_computed_map
    (computed : Except ε α)
    (result : α → β)
    (engine : Engine) :
    ((liftM computed : ExceptT ε Draw α) >>= fun value => pure (result value)).run.run
        engine =
      (computed.map result, engine) := by
  cases computed <;> rfl

end CheckedDraw

/-! ## The loop -/

/-- The row that a loop has come to, and the buffers that it fills. -/
structure Filling (Buffers : Type) where
  row : Nat
  buffers : Buffers

/-- One pass of a loop. -/
abbrev Pass (Buffers : Type) := Filling Buffers → CheckedDraw (Filling Buffers)

section Loop

variable
    {Buffers : Type}
    (pass : Pass Buffers)
    (rows : Nat)

/-- What stands at the head of a loop after some passes. -/
inductive Reaches
    (start : Filling Buffers)
    (engine : Engine) :
    (passes : Nat) → Filling Buffers → Engine → Prop where
  | start : Reaches start engine 0 start engine
  | pass
      {passes : Nat}
      {state next : Filling Buffers}
      {current rest : Engine}
      (reached : Reaches start engine passes state current)
      (goesOn : state.row < rows)
      (passed : (pass state).run.run current = (.ok next, rest)) :
      Reaches start engine (passes + 1) next rest

/-- How a loop ends: no row is left, or a pass breaks off. -/
inductive Ends
    (start : Filling Buffers)
    (engine : Engine) :
    Except FillFault (Filling Buffers) → Engine → Prop where
  | filled
      {passes : Nat}
      {state : Filling Buffers}
      {last : Engine}
      (reached : Reaches pass rows start engine passes state last)
      (full : rows ≤ state.row) :
      Ends start engine (.ok state) last
  | brokenOff
      {passes : Nat}
      {state : Filling Buffers}
      {current last : Engine}
      {fault : FillFault}
      (reached : Reaches pass rows start engine passes state current)
      (goesOn : state.row < rows)
      (failed : (pass state).run.run current = (.error fault, last)) :
      Ends start engine (.error fault) last

/--
A pass fills one row at least and no more than remain, and keeps what is to be
kept, or it is refused.
-/
inductive Advances
    (kept : Filling Buffers → Prop)
    (refusal : FillFault → Prop)
    (state : Filling Buffers)
    (engine : Engine) : Prop where
  | fills
      {next : Filling Buffers}
      {rest : Engine}
      {length : Nat}
      (passed : (pass state).run.run engine = (.ok next, rest))
      (someRow : 1 ≤ length)
      (remain : length ≤ rows - state.row)
      (row : next.row = state.row + length)
      (isKept : kept next)
  | refused
      {fault : FillFault}
      {last : Engine}
      (failed : (pass state).run.run engine = (.error fault, last))
      (isRefusal : refusal fault)

/--
A loop makes progress: at its head no more passes were made than rows are
filled, and no more rows than there are; a pass that is begun fills some of the
rows that remain, unless it is refused; and the loop ends.
-/
structure Progresses
    (kept : Filling Buffers → Prop)
    (refusal : FillFault → Prop)
    (start : Filling Buffers)
    (engine : Engine) : Prop where
  head :
    ∀ {passes : Nat} {state : Filling Buffers} {current : Engine},
      Reaches pass rows start engine passes state current →
        passes ≤ state.row ∧ state.row ≤ rows ∧ kept state
  advances :
    ∀ {passes : Nat} {state : Filling Buffers} {current : Engine},
      Reaches pass rows start engine passes state current →
        state.row < rows → Advances pass rows kept refusal state current
  ends : ∃ outcome last, Ends pass rows start engine outcome last

end Loop

section Running

variable
    {Buffers : Type}
    {pass : Pass Buffers}
    {rows : Nat}
    {start next : Filling Buffers}
    {engine rest : Engine}

/-- What is reached from behind the first pass is reached with it. -/
theorem Reaches.of_pass
    {passes : Nat}
    {state : Filling Buffers}
    {current : Engine}
    (goesOn : start.row < rows)
    (passed : (pass start).run.run engine = (.ok next, rest))
    (reached : Reaches pass rows next rest passes state current) :
    Reaches pass rows start engine (passes + 1) state current := by
  induction reached with
  | start => exact .pass .start goesOn passed
  | pass _ stateGoesOn statePassed inductionHypothesis =>
      exact .pass inductionHypothesis stateGoesOn statePassed

/-- A loop ends as it does from behind its first pass. -/
theorem Ends.of_pass
    {outcome : Except FillFault (Filling Buffers)}
    {last : Engine}
    (goesOn : start.row < rows)
    (passed : (pass start).run.run engine = (.ok next, rest))
    (ended : Ends pass rows next rest outcome last) :
    Ends pass rows start engine outcome last := by
  cases ended with
  | filled reached full => exact .filled (reached.of_pass goesOn passed) full
  | brokenOff reached stateGoesOn failed =>
      exact .brokenOff (reached.of_pass goesOn passed) stateGoesOn failed

/-- A pass that is not refused has filled some row and keeps what is to be kept. -/
theorem Advances.of_passed
    {kept : Filling Buffers → Prop}
    {refusal : FillFault → Prop}
    (advances : Advances pass rows kept refusal start engine)
    (passed : (pass start).run.run engine = (.ok next, rest)) :
    start.row < next.row ∧ kept next := by
  cases advances with
  | fills alsoPassed someRow remain row isKept =>
      cases passed.symm.trans alsoPassed
      exact ⟨by omega, isKept⟩
  | refused failed isRefusal => cases passed.symm.trans failed

section Invariant

variable
    {refusal : FillFault → Prop}
    (invariant : Filling Buffers → Prop)
    (step :
      ∀ {state current},
        invariant state →
          state.row < rows → Advances pass rows invariant refusal state current)

include step

/-- What every pass keeps stands at the head of the loop, and each filled a row. -/
theorem Reaches.keeps
    {passes : Nat}
    {state : Filling Buffers}
    {current : Engine}
    (reached : Reaches pass rows start engine passes state current)
    (atStart : invariant start) :
    passes ≤ state.row ∧ invariant state := by
  induction reached with
  | start => exact ⟨Nat.zero_le _, atStart⟩
  | pass reached goesOn passed inductionHypothesis =>
      rcases (step inductionHypothesis.2 goesOn).of_passed passed with
        ⟨filled, isKept⟩
      exact ⟨Nat.lt_of_le_of_lt inductionHypothesis.1 filled, isKept⟩

/--
Where every pass fills a row or is refused, the loop ends, since fewer rows remain
after each.
-/
theorem Ends.exists_of_invariant (atStart : invariant start) :
    ∃ outcome last, Ends pass rows start engine outcome last := by
  induction remaining : rows - start.row using Nat.strongRecOn
      generalizing start engine with
  | ind remaining inductionHypothesis =>
      rcases Nat.lt_or_ge start.row rows with goesOn | full
      · cases step atStart goesOn with
        | fills passed someRow remain row isKept =>
            rcases inductionHypothesis _ (by omega) isKept rfl with
              ⟨outcome, last, ended⟩
            exact ⟨outcome, last, ended.of_pass goesOn passed⟩
        | refused failed isRefusal =>
            exact ⟨_, _, .brokenOff .start goesOn failed⟩
      · exact ⟨_, _, .filled .start full⟩

/--
A loop makes progress if an invariant holds at its start, and every pass from
where it holds keeps it and fills some of the rows that remain or is refused.
-/
theorem Progresses.of_invariant
    {kept : Filling Buffers → Prop}
    (atStart : invariant start)
    (bounded : ∀ {state}, invariant state → state.row ≤ rows ∧ kept state) :
    Progresses pass rows kept refusal start engine where
  head := by
    intro passes state current reached
    rcases reached.keeps invariant step atStart with ⟨passesLe, holds⟩
    exact ⟨passesLe, bounded holds⟩
  advances := by
    intro passes state current reached goesOn
    have holds := (reached.keeps invariant step atStart).2
    cases step holds goesOn with
    | fills passed someRow remain row isKept =>
        exact .fills passed someRow remain row (bounded isKept).2
    | refused failed isRefusal => exact .refused failed isRefusal
  ends := Ends.exists_of_invariant invariant step atStart

end Invariant

end Running

end SyntheticTable
