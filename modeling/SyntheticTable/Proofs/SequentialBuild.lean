import SyntheticTable.Proofs.ChunkTiling
import SyntheticTable.Proofs.Drawing
import SyntheticTable.Proofs.Failure
import SyntheticTable.Proofs.TaskOrder

/-!
# Sequential builds

A table may as well be built column by column, without chunks and tasks: the
columns are taken in turn, each is drawn from the engine of its own seed, and
the first that fails decides the error.

However many workers there are and in whatever order their tasks finish, the
outcome is that of the sequential build.  Only the number of a task that broke
off depends on how the columns were cut.
-/

namespace SyntheticTable

/-- The error with the number of a task that broke off left out. -/
def GenerateError.withoutTask : GenerateError → GenerateError
  | taskFailed _ => taskFailed 0
  | error => error

/--
The error of a table with a column that cannot be built.  A buffer that is too
large breaks off the task.
-/
def GenerateError.ofBuild : BuildError → GenerateError
  | .bufferTooLarge => taskFailed 0
  | error => build error

/-! ## Chunks put together -/

section Gathering

variable
    (rows : Nat)
    (params : ColumnParams)

theorem buildChunk_append
    (left right : List (SemanticType × UInt32)) :
    buildChunk rows params (left ++ right) =
      (do
        let first ← buildChunk rows params left
        let second ← buildChunk rows params right
        return first ++ second) := by
  exact List.mapM_append

/--
The chunks that were built, put together, are what one chunk of all columns
gives, up to the number of a task that broke off.
-/
theorem gather_buildChunk
    (pieces : List (List (SemanticType × UInt32)))
    (chunk : Nat) :
    (gather chunk
        (pieces.map fun piece => some (buildChunk rows params piece))).mapError
          GenerateError.withoutTask =
      (buildChunk rows params pieces.flatten).mapError
        GenerateError.ofBuild := by
  induction pieces generalizing chunk with
  | nil => rfl
  | cons piece pieces inductionHypothesis =>
      have later := inductionHypothesis (chunk + 1)
      rw [List.flatten_cons, buildChunk_append, List.map_cons]
      cases first : buildChunk rows params piece with
      | error error => cases error <;> rfl
      | ok columns =>
          cases others :
              gather (chunk + 1)
                (pieces.map fun piece => some (buildChunk rows params piece)) with
          | error error =>
              rw [others] at later
              cases second : buildChunk rows params pieces.flatten with
              | error cause =>
                  rw [second] at later
                  simpa [gather, others] using later
              | ok rest =>
                  rw [second] at later
                  cases later
          | ok columnsOfOthers =>
              rw [others] at later
              cases second : buildChunk rows params pieces.flatten with
              | error cause =>
                  rw [second] at later
                  cases later
              | ok rest =>
                  rw [second] at later
                  cases later
                  simp [gather, others]

/-- Where chunks can be put together, every one of them was built. -/
theorem gather_eq_ok
    {chunk : Nat}
    {results : List (Option (Except BuildError (List Column)))}
    {columns : List Column}
    (gathered : gather chunk results = .ok columns) :
    ∃ built : List (List Column),
      results = (built.map Except.ok).map some ∧ columns = built.flatten := by
  induction results generalizing chunk columns with
  | nil =>
      cases gathered
      exact ⟨[], rfl, rfl⟩
  | cons result results inductionHypothesis =>
      rcases result with _ | error | first
      · cases gathered
      · cases error <;> cases gathered
      · rw [gather] at gathered
        cases others : gather (chunk + 1) results with
        | error error =>
            rw [others] at gathered
            cases gathered
        | ok rest =>
            rw [others] at gathered
            cases gathered
            rcases inductionHypothesis others with
              ⟨built, resultsEqual, restEqual⟩
            exact ⟨first :: built, by simp [resultsEqual], by simp [restEqual]⟩

/-- Where chunks cannot be put together, a task broke off or a chunk was not built. -/
theorem gather_eq_error
    {chunk : Nat}
    {results : List (Option (Except BuildError (List Column)))}
    {error : GenerateError}
    (failed : gather chunk results = .error error) :
    (∃ number, error = .taskFailed number) ∨
      ∃ cause,
        some (.error cause) ∈ results ∧
          cause ≠ .bufferTooLarge ∧ error = .build cause := by
  induction results generalizing chunk with
  | nil => cases failed
  | cons result results inductionHypothesis =>
      rcases result with _ | cause | first
      · cases failed
        exact .inl ⟨chunk, rfl⟩
      · cases cause with
        | bufferTooLarge =>
            cases failed
            exact .inl ⟨chunk, rfl⟩
        | notImplemented | invalidDistribution | invalidNullFrequency | textOverflow =>
            cases failed
            exact .inr ⟨_, List.mem_cons_self .., nofun, rfl⟩
      · rw [gather] at failed
        cases others : gather (chunk + 1) results with
        | ok rest =>
            rw [others] at failed
            cases failed
        | error cause =>
            rw [others] at failed
            cases failed
            rcases inductionHypothesis others with broken | ⟨cause, member, notBuilt⟩
            · exact .inl broken
            · exact .inr ⟨cause, List.mem_cons_of_mem _ member, notBuilt⟩

/-- Chunks that could be built give, put together, the chunk of all their columns. -/
theorem buildChunk_flatten
    {pieces : List (List (SemanticType × UInt32))}
    {built : List (List Column)}
    (eachBuilt : built.map Except.ok = pieces.map (buildChunk rows params)) :
    buildChunk rows params pieces.flatten = .ok built.flatten := by
  induction pieces generalizing built with
  | nil =>
      rw [List.map_eq_nil_iff.1 eachBuilt]
      rfl
  | cons piece pieces inductionHypothesis =>
      rcases built with _ | ⟨columns, built⟩
      · cases eachBuilt
      · rcases List.cons.inj eachBuilt with ⟨first, others⟩
        rw [List.flatten_cons, buildChunk_append, ← first,
          inductionHypothesis others]
        rfl

end Gathering

/-! ## Columns in turn -/

namespace TableSpec

variable
    (spec : TableSpec)
    (outline : Outline)

/-- Builds the column at a place from the engine of its own seed. -/
def buildColumnAt
    (place : Nat)
    (inside : place < outline.types.length) :
    Except BuildError Column :=
  let seed := (columnSeeds spec.seed outline.types.length).getD place 0
  ((buildColumn outline.types[place] outline.rows spec.params).run.run
    (Engine.seeded seed)).1

/--
Builds the columns from a place on, one after the other, and puts them after
the given ones.  The first column that fails decides the error.
-/
def buildInTurn
    (place : Nat)
    (built : Array Column) :
    Except GenerateError (Array Column) :=
  if inside : place < outline.types.length then
    match spec.buildColumnAt outline place inside with
    | .ok column => buildInTurn (place + 1) (built.push column)
    | .error error => .error (.ofBuild error)
  else
    .ok built
termination_by outline.types.length - place

/-- Generates a table column by column, after the same checks. -/
def generateInTurn : Except GenerateError Table := do
  let outline ← spec.outline
  let columns ← spec.buildInTurn outline 0 #[]
  return { columns, rowCount := outline.rows }

/-- The kinds and seeds of all columns. -/
def seededTypes : Array (SemanticType × UInt32) :=
  outline.types.toArray.zip (columnSeeds spec.seed outline.types.length)

@[simp]
theorem size_seededTypes :
    (spec.seededTypes outline).size = outline.types.length := by
  simp [seededTypes, columnSeeds]

theorem seededTypes_getElem?
    {place : Nat}
    (inside : place < outline.types.length) :
    (spec.seededTypes outline)[place]? =
      some
        (outline.types[place],
          (columnSeeds spec.seed outline.types.length).getD place 0) := by
  have seedInside :
      place < (columnSeeds spec.seed outline.types.length).size := by
    simpa [columnSeeds] using inside
  refine Array.getElem?_eq_some_iff.2 ⟨by simpa using inside, ?_⟩
  simp [seededTypes, Array.getD, seedInside]

/-- The columns from a place on are the column there and those that follow. -/
theorem buildChunk_drop
    {place : Nat}
    (inside : place < outline.types.length) :
    buildChunk outline.rows spec.params
        ((spec.seededTypes outline).toList.drop place) =
      (do
        let column ← spec.buildColumnAt outline place inside
        let others ←
          buildChunk outline.rows spec.params
            ((spec.seededTypes outline).toList.drop (place + 1))
        return column :: others) := by
  rcases
      List.getElem?_eq_some_iff.1
        (Array.getElem?_toList.trans (seededTypes_getElem? spec outline inside)) with
    ⟨insideList, entry⟩
  rw [List.drop_eq_getElem_cons insideList, entry]
  exact List.mapM_cons

theorem buildInTurn_eq_buildChunk
    (place : Nat)
    (built : Array Column) :
    spec.buildInTurn outline place built =
      ((buildChunk outline.rows spec.params
          ((spec.seededTypes outline).toList.drop place)).mapError
            GenerateError.ofBuild).map (built ++ ·.toArray) := by
  fun_induction buildInTurn spec outline place built with
  | case1 place built inside column columnBuilt inductionHypothesis =>
      rw [inductionHypothesis, buildChunk_drop spec outline inside, columnBuilt]
      cases buildChunk outline.rows spec.params
          ((spec.seededTypes outline).toList.drop (place + 1)) with
      | error error => rfl
      | ok others =>
          simp
  | case2 place built inside error failed =>
      rw [buildChunk_drop spec outline inside, failed]
      rfl
  | case3 place built outside =>
      have nothing : (spec.seededTypes outline).toList.drop place = [] := by
        rw [List.drop_eq_nil_iff, Array.length_toList, size_seededTypes]
        omega
      rw [nothing]
      show Except.ok built = Except.ok (built ++ #[])
      rw [Array.append_empty]

theorem buildChunk_eq_ok_iff (columns : List Column) :
    buildChunk outline.rows spec.params (spec.seededTypes outline).toList =
        .ok columns ↔
      columns.length = outline.types.length ∧
        ∀ place (inside : place < outline.types.length),
          ∃ column,
            columns[place]? = some column ∧
              spec.buildColumnAt outline place inside = .ok column := by
  let build := fun (seeded : SemanticType × UInt32) =>
    ((buildColumn seeded.1 outline.rows spec.params).run.run
      (Engine.seeded seeded.2)).1
  have entry :
      ∀ place (inside : place < outline.types.length),
        ((spec.seededTypes outline).toList.map build)[place]? =
          some (spec.buildColumnAt outline place inside) := by
    intro place inside
    rw [List.getElem?_map, Array.getElem?_toList,
      seededTypes_getElem? spec outline inside]
    rfl
  refine mapM_eq_ok_iff.trans ?_
  show (spec.seededTypes outline).toList.map build = _ ↔ _
  constructor
  · intro allBuilt
    have count : columns.length = outline.types.length := by
      simpa using (congrArg List.length allBuilt).symm
    refine ⟨count, ?_⟩
    intro place inside
    have built := entry place inside
    rw [allBuilt, List.getElem?_map, Option.map_eq_some_iff] at built
    rcases built with ⟨column, found, columnBuilt⟩
    exact ⟨column, found, columnBuilt.symm⟩
  · rintro ⟨count, eachBuilt⟩
    refine List.ext_getElem? ?_
    intro place
    by_cases inside : place < outline.types.length
    · rcases eachBuilt place inside with ⟨column, found, columnBuilt⟩
      rw [entry place inside, List.getElem?_map, found, columnBuilt]
      rfl
    · rw [List.getElem?_eq_none (by simpa using inside),
        List.getElem?_eq_none (by simpa [count] using inside)]

/-- The error of the columns in turn is that of the first that cannot be built. -/
theorem buildInTurn_eq_error_iff
    (place : Nat)
    (built : Array Column)
    (error : GenerateError) :
    spec.buildInTurn outline place built = .error error ↔
      ∃ failing inside cause,
        place ≤ failing ∧
          spec.buildColumnAt outline failing inside = .error cause ∧
          error = .ofBuild cause ∧
          ∀ earlier (before : earlier < failing),
            place ≤ earlier →
              ∃ column,
                spec.buildColumnAt outline earlier (Nat.lt_trans before inside) =
                  .ok column := by
  fun_induction buildInTurn spec outline place built with
  | case1 place built inside column columnBuilt inductionHypothesis =>
      rw [inductionHypothesis]
      constructor
      · rintro ⟨failing, failingInside, cause, after, failed, equal, others⟩
        refine
          ⟨failing, failingInside, cause, by omega, failed, equal, ?_⟩
        intro earlier before notBefore
        rcases Nat.eq_or_lt_of_le notBefore with same | later
        · subst same
          exact ⟨column, columnBuilt⟩
        · exact others earlier before later
      · rintro ⟨failing, failingInside, cause, after, failed, equal, others⟩
        have different : place ≠ failing := by
          rintro rfl
          have := failed.symm.trans columnBuilt
          cases this
        refine
          ⟨failing, failingInside, cause, by omega, failed, equal, ?_⟩
        intro earlier before notBefore
        exact others earlier before (by omega)
  | case2 place built inside cause failed =>
      constructor
      · intro equal
        cases equal
        refine ⟨place, inside, cause, Nat.le_refl place, failed, rfl, ?_⟩
        intro earlier before notBefore
        omega
      · rintro ⟨failing, failingInside, other, after, otherFailed, rfl, others⟩
        rcases Nat.eq_or_lt_of_le after with same | later
        · subst same
          have same := failed.symm.trans otherFailed
          cases same
          rfl
        · rcases others place later (Nat.le_refl place) with ⟨column, built⟩
          have := failed.symm.trans built
          cases this
  | case3 place built outside =>
      constructor
      · intro impossible
        cases impossible
      · rintro ⟨failing, failingInside, cause, after, failed, equal, others⟩
        omega

end TableSpec

end SyntheticTable
