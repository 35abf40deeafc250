import SyntheticTable.Generate

/-!
# Tasks in any order

A task shares nothing with the others, and its result is filed under its own
number.  So what is filed after a number of tasks have finished depends on
which tasks these are, but not on the order in which they finished.
-/

namespace SyntheticTable

variable {α : Type}

/-- The results that are filed when the tasks of a list have finished. -/
def filedResults
    (tasks : Array (Unit → α))
    (finished : List Nat) :
    Array (Option α) :=
  tasks.mapIdx fun number task =>
    if number ∈ finished then some (task ()) else none

/-- The results after one more task has finished. -/
def fileResult
    (tasks : Array (Unit → α))
    (results : Array (Option α))
    (number : Nat) :
    Array (Option α) :=
  match tasks[number]? with
  | some task => results.setIfInBounds number (some (task ()))
  | none => results

@[simp]
theorem size_filedResults
    (tasks : Array (Unit → α))
    (finished : List Nat) :
    (filedResults tasks finished).size = tasks.size := by
  simp [filedResults]

/-- Finishing one more task files its result and leaves the others alone. -/
theorem fileResult_filedResults
    (tasks : Array (Unit → α))
    (finished : List Nat)
    (number : Nat) :
    fileResult tasks (filedResults tasks finished) number =
      filedResults tasks (finished ++ [number]) := by
  apply Array.ext_getElem?
  intro place
  unfold fileResult
  by_cases same : number = place
  · subst same
    cases found : tasks[number]? with
    | none =>
        simp [filedResults, found]
    | some task =>
        have inside : number < tasks.size :=
          (Array.getElem?_eq_some_iff.1 found).1
        rw [Array.getElem?_setIfInBounds_self_of_lt (by simpa using inside)]
        simp [filedResults, found]
  · have kept :
        (match tasks[number]? with
          | some task =>
              (filedResults tasks finished).setIfInBounds number (some (task ()))
          | none => filedResults tasks finished)[place]? =
          (filedResults tasks finished)[place]? := by
      split
      · exact Array.getElem?_setIfInBounds_ne same
      · rfl
    rw [kept]
    simp [filedResults, Ne.symm same]

/-- After tasks have run, exactly their own results are filed. -/
theorem runTasks_eq_filedResults
    (tasks : Array (Unit → α))
    (order : List Nat) :
    runTasks tasks order = filedResults tasks order := by
  have run :
      ∀ finished : List Nat,
        order.foldl (fileResult tasks) (filedResults tasks finished) =
          filedResults tasks (finished ++ order) := by
    induction order with
    | nil => simp
    | cons number order inductionHypothesis =>
        intro finished
        rw [List.foldl_cons, fileResult_filedResults, inductionHypothesis]
        simp
  have nothing :
      filedResults tasks [] = Array.replicate tasks.size none := by
    refine Array.ext (by simp) ?_
    intro place _ _
    simp [filedResults]
  calc
    runTasks tasks order =
        order.foldl (fileResult tasks) (Array.replicate tasks.size none) := rfl
    _ = order.foldl (fileResult tasks) (filedResults tasks []) := by
      rw [nothing]
    _ = filedResults tasks order := by
      rw [run, List.nil_append]

theorem exists_task_of_mem_runTasks
    {tasks : Array (Unit → α)}
    {order : List Nat}
    {result : α}
    (member : some result ∈ (runTasks tasks order).toList) :
    ∃ task ∈ tasks, task () = result := by
  rw [runTasks_eq_filedResults] at member
  rcases Array.mem_mapIdx.1 (Array.mem_toList_iff.1 member) with
    ⟨number, inside, filed⟩
  split at filed
  · exact ⟨tasks[number], Array.getElem_mem inside, Option.some.inj filed⟩
  · cases filed

/-- Once every task has run, the results are those of the tasks in their own order. -/
theorem toList_runTasks_of_complete
    {tasks : Array (Unit → α)}
    {order : List Nat}
    (complete : ∀ number, number < tasks.size → number ∈ order) :
    (runTasks tasks order).toList =
      tasks.toList.map fun task => some (task ()) := by
  rw [runTasks_eq_filedResults, ← Array.toList_map]
  congr 1
  refine Array.ext (by simp [filedResults]) ?_
  intro place placeInside _
  have member : place ∈ order :=
    complete place (by simpa [filedResults] using placeInside)
  simp [filedResults, member]

theorem eq_map_of_runTasks
    {tasks : Array (Unit → α)}
    {order : List Nat}
    {results : List α}
    (filed : (runTasks tasks order).toList = results.map some) :
    results = tasks.toList.map fun task => task () := by
  rw [runTasks_eq_filedResults] at filed
  have sizes : results.length = tasks.size := by
    simpa [filedResults] using (congrArg List.length filed).symm
  refine List.ext_getElem (by simpa using sizes) ?_
  intro place placeInside taskInside
  have slot := congrArg (·[place]?) filed
  simp only [filedResults, Array.getElem?_toList, Array.getElem?_mapIdx,
    List.getElem?_map, List.getElem?_eq_getElem placeInside,
    Array.getElem?_eq_getElem (by omega : place < tasks.size)] at slot
  by_cases member : place ∈ order
  · simpa [member] using slot.symm
  · simp [member] at slot

end SyntheticTable
