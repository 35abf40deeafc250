import SyntheticTable.Command.Request
import SyntheticTable.Proofs.Failure
import SyntheticTable.Proofs.SpecRoundTrip

/-!
# What a request settles

A request may name a file with a specification and give settings of its own.
Each field of the specification that is asked for is what the request gives,
else what the file says, else the usual value.  Only the number of columns
depends on more than that: where the request does not give it, it is that of the
file, also if the request names other kinds, and without a file it is the number
of kinds.

So a request fails exactly if its file cannot be read or holds no specification,
or if no kinds are named in the end.  And a specification that was settled is
settled again from a file that holds it in writing.
-/

namespace SyntheticTable.Command

/-- What is settled: what is asked for, else what the file says, else as usual. -/
def settled {α : Type} (asked? file? : Option α) (usual : α) : α :=
  (asked? <|> file?).getD usual

namespace Request

/-- The kinds that a request names; an empty list names none. -/
def types? (request : Request) : Option (List SemanticType) :=
  if request.types = [] then none else some request.types

/-- The request that names a file and says nothing else. -/
def ofFile (path : String) : Request :=
  { silent with specFile? := some path }

section Settling

variable
    (request : Request)
    (read : Reader)

/-- The specification in the file of a request, if the request names one. -/
inductive FileHolds : Option TableSpec → Prop where
  | unnamed (silent : request.specFile? = none) : FileHolds none
  | named
      {path content : String}
      {spec : TableSpec}
      (path_eq : request.specFile? = some path)
      (readable : read path = .ok content)
      (suitable : TableSpec.ofYaml content = .ok spec) :
      FileHolds (some spec)

/-- The error of a request whose file gives no specification. -/
inductive FileFails : Error → Prop where
  | unreadable
      {path : String}
      {fault : ReadFault}
      (path_eq : request.specFile? = some path)
      (failed : read path = .error fault) :
      FileFails (.specFile path (.unreadable fault))
  | unsuitable
      {path content : String}
      {cause : YamlError}
      (path_eq : request.specFile? = some path)
      (readable : read path = .ok content)
      (failed : TableSpec.ofYaml content = .error cause) :
      FileFails (.specFile path (.unsuitable cause))

/-- A specification in which every field is what a request and its file settle. -/
structure Settles (file? : Option TableSpec) (spec : TableSpec) : Prop where
  types : spec.types = settled request.types? (file?.map (·.types)) []
  /-- Without a file there are as many columns as kinds. -/
  columnCount :
    spec.columnCount =
      settled request.columnCount? (file?.map (·.columnCount))
        (.ofNat spec.types.length)
  tableBytes :
    spec.tableBytes =
      settled request.tableBytes? (file?.map (·.tableBytes)) 0
  seed? : spec.seed? = settled (request.seed?.map some) (file?.map (·.seed?)) none
  nullFrequency :
    spec.params.nullFrequency =
      settled request.nullFrequency? (file?.map (·.params.nullFrequency))
        ColumnParams.standard.nullFrequency
  cardinality :
    spec.params.cardinality =
      settled request.cardinality? (file?.map (·.params.cardinality))
        ColumnParams.standard.cardinality
  averageRunLength :
    spec.params.averageRunLength =
      settled request.averageRunLength? (file?.map (·.params.averageRunLength))
        ColumnParams.standard.averageRunLength

variable {request read}

/-! ## Starting from the file -/

/-- The specification to start from where there is no file. -/
def blankSpec : TableSpec :=
  ⟨[], 0, 0, none, .standard⟩

theorem startingSpec_eq_ok_iff {start : TableSpec} :
    request.startingSpec read = .ok start ↔
      ∃ file?, request.FileHolds read file? ∧ start = file?.getD blankSpec := by
  unfold startingSpec
  cases named : request.specFile? with
  | none =>
      constructor
      · intro started
        cases started
        exact ⟨none, .unnamed named, rfl⟩
      · rintro ⟨file?, holds, rfl⟩
        cases holds with
        | unnamed => rfl
        | named path_eq => cases named.symm.trans path_eq
  | some path =>
      simp only [loadSpec, mapError_eq_ok_iff, bind_eq_ok_iff]
      constructor
      · rintro ⟨content, readable, suitable⟩
        exact ⟨some start, .named named readable suitable, rfl⟩
      · rintro ⟨file?, holds, rfl⟩
        cases holds with
        | unnamed silent => cases named.symm.trans silent
        | named path_eq readable suitable =>
            cases named.symm.trans path_eq
            exact ⟨_, readable, suitable⟩

theorem startingSpec_eq_error_iff {error : Error} :
    request.startingSpec read = .error error ↔ request.FileFails read error := by
  unfold startingSpec
  cases named : request.specFile? with
  | none =>
      constructor
      · intro failed
        cases failed
      · intro fails
        cases fails with
        | unreadable path_eq => cases named.symm.trans path_eq
        | unsuitable path_eq => cases named.symm.trans path_eq
  | some path =>
      simp only [loadSpec, mapError_eq_error_iff, mapError_eq_ok_iff,
        bind_eq_error_iff]
      constructor
      · rintro ⟨cause, ⟨fault, failed, rfl⟩ | ⟨content, readable, fault, failed, rfl⟩,
          rfl⟩
        · exact .unreadable named failed
        · exact .unsuitable named readable failed
      · intro fails
        cases fails with
        | unreadable path_eq failed =>
            cases named.symm.trans path_eq
            exact ⟨_, .inl ⟨_, failed, rfl⟩, rfl⟩
        | unsuitable path_eq readable failed =>
            cases named.symm.trans path_eq
            exact ⟨_, .inr ⟨_, readable, _, failed, rfl⟩, rfl⟩

/-! ## Settings in front of the file -/

/-- A setting in front of the file is settled by both. -/
theorem getD_eq_settled
    {α : Type}
    (asked? : Option α)
    (field : TableSpec → α)
    (file? : Option TableSpec) :
    asked?.getD (field (file?.getD blankSpec)) =
      settled asked? (file?.map field) (field blankSpec) := by
  cases asked? <;> cases file? <;> rfl

/-- Settings in front of the file settle every field. -/
theorem merge_settles
    {file? : Option TableSpec}
    (holds : request.FileHolds read file?) :
    request.Settles file? (request.merge (file?.getD blankSpec)) where
  types := by
    cases listed : request.types <;> cases file? <;>
      simp [merge, settled, types?, listed, blankSpec]
  columnCount := by
    cases holds with
    | unnamed silent => simp [merge, settled, silent]
    | named path_eq =>
        cases asked : request.columnCount? <;> simp [merge, settled, path_eq, asked]
  tableBytes := getD_eq_settled request.tableBytes? TableSpec.tableBytes file?
  seed? := by
    cases asked : request.seed? <;> cases file? <;>
      simp [merge, settled, asked, blankSpec]
  nullFrequency :=
    getD_eq_settled request.nullFrequency? (·.params.nullFrequency) file?
  cardinality := getD_eq_settled request.cardinality? (·.params.cardinality) file?
  averageRunLength :=
    getD_eq_settled request.averageRunLength? (·.params.averageRunLength) file?

theorem Settles.unique
    {file? : Option TableSpec}
    {spec other : TableSpec}
    (settles : request.Settles file? spec)
    (otherSettles : request.Settles file? other) :
    spec = other := by
  have types := settles.types.trans otherSettles.types.symm
  have columnCount := settles.columnCount
  rw [types, ← otherSettles.columnCount] at columnCount
  have tableBytes := settles.tableBytes.trans otherSettles.tableBytes.symm
  have seed? := settles.seed?.trans otherSettles.seed?.symm
  have nullFrequency := settles.nullFrequency.trans otherSettles.nullFrequency.symm
  have cardinality := settles.cardinality.trans otherSettles.cardinality.symm
  have runLength := settles.averageRunLength.trans otherSettles.averageRunLength.symm
  rcases spec with ⟨_, _, _, _, _, _, _⟩
  rcases other with ⟨_, _, _, _, _, _, _⟩
  simp only [TableSpec.mk.injEq, ColumnParams.mk.injEq]
  exact ⟨types, columnCount, tableBytes, seed?, nullFrequency, cardinality, runLength⟩

/-- What is settled is asked for, unless no kinds are named. -/
theorem toSpec_of_settles
    {file? : Option TableSpec}
    (holds : request.FileHolds read file?)
    {spec : TableSpec}
    (settles : request.Settles file? spec) :
    request.toSpec read = if spec.types.isEmpty then .error .noTypes else .ok spec := by
  have started := startingSpec_eq_ok_iff.2 ⟨file?, holds, rfl⟩
  rw [toSpec, started, settles.unique (merge_settles holds)]
  rfl

theorem toSpec_eq_ok_iff {spec : TableSpec} :
    request.toSpec read = .ok spec ↔
      spec.types ≠ [] ∧
        ∃ file?, request.FileHolds read file? ∧ request.Settles file? spec := by
  constructor
  · intro asked
    obtain ⟨start, started, -⟩ := (bind_eq_ok_iff _ _ _).1 asked
    obtain ⟨file?, holds, -⟩ := startingSpec_eq_ok_iff.1 started
    have settles := merge_settles holds
    rw [toSpec_of_settles holds settles] at asked
    split at asked
    · cases asked
    · next listed =>
        cases asked
        exact ⟨by simpa using listed, file?, holds, settles⟩
  · rintro ⟨listed, file?, holds, settles⟩
    rw [toSpec_of_settles holds settles, if_neg (by simpa using listed)]

theorem toSpec_eq_error_iff {error : Error} :
    request.toSpec read = .error error ↔
      request.FileFails read error ∨
        error = .noTypes ∧
          ∃ file?,
            request.FileHolds read file? ∧
              settled request.types? (file?.map (·.types)) [] = [] := by
  constructor
  · intro failed
    rcases (bind_eq_error_iff _ _ _).1 failed with unusable | ⟨start, started, -⟩
    · exact .inl (startingSpec_eq_error_iff.1 unusable)
    · obtain ⟨file?, holds, -⟩ := startingSpec_eq_ok_iff.1 started
      have settles := merge_settles holds
      rw [toSpec_of_settles holds settles] at failed
      split at failed
      · next nothing =>
          cases failed
          rw [List.isEmpty_iff, settles.types] at nothing
          exact .inr ⟨rfl, file?, holds, nothing⟩
      · cases failed
  · rintro (unusable | ⟨rfl, file?, holds, nothing⟩)
    · rw [toSpec, startingSpec_eq_error_iff.2 unusable, bind_error]
    · have settles := merge_settles holds
      rw [toSpec_of_settles holds settles, settles.types, nothing]
      rfl

/-- What a file holds is settled by a request that only names the file. -/
theorem settles_ofFile (path : String) (spec : TableSpec) :
    (ofFile path).Settles (some spec) spec := by
  constructor <;> rfl

end Settling

/--
When a request is settled, and how.  It fails exactly if its file cannot be read
or holds no specification, or if no kind is named by the request or, where it
names none, by its file; this is so for any number of columns.  Otherwise every
field is what the request gives, else what the file says, else the usual value,
and without a file the usual number of columns is the number of kinds.  A
specification that was settled, and whose null frequency is read back as itself,
is settled again by a request that only names a file that holds it in writing.
-/
theorem requests_are_settled (request : Request) (read : Reader) :
    (∀ spec,
      request.toSpec read = .ok spec ↔
        spec.types ≠ [] ∧
          ∃ file?, request.FileHolds read file? ∧ request.Settles file? spec) ∧
      (∀ error,
        request.toSpec read = .error error ↔
          request.FileFails read error ∨
            error = .noTypes ∧
              ∃ file?,
                request.FileHolds read file? ∧
                  settled request.types? (file?.map (·.types)) [] = []) ∧
      ∀ spec,
        request.toSpec read = .ok spec →
          spec.params.nullFrequency.readBack? = some spec.params.nullFrequency →
            ∀ path others,
              others path = .ok spec.toYaml →
                (ofFile path).toSpec others = .ok spec := by
  refine ⟨fun _ => toSpec_eq_ok_iff, fun _ => toSpec_eq_error_iff, ?_⟩
  intro spec asked back path others written
  have listed := (toSpec_eq_ok_iff.1 asked).1
  obtain ⟨frequency, found, suitable⟩ := TableSpec.exists_ofYaml_toYaml spec
  cases back.symm.trans found
  exact
    toSpec_eq_ok_iff.2
      ⟨listed, some spec, .named rfl written suitable, settles_ofFile path spec⟩

/--
A request for two kinds and a thousand bytes has two columns, and is settled
again from a file.
-/
theorem requests_are_settled_two :
    let request : Request :=
      { silent with types := [.fixed .int32, .string], tableBytes? := some 1000 }
    let spec : TableSpec :=
      ⟨[.fixed .int32, .string], 2, 1000, none, .standard⟩
    let others : Reader := fun _ => .ok spec.toYaml
    request.toSpec (fun _ => .error .missing) = .ok spec ∧
      spec.params.nullFrequency.readBack? = some spec.params.nullFrequency ∧
      (ofFile "spec.yaml").toSpec others = .ok spec := by
  intro request spec others
  obtain ⟨succeeds, -, again⟩ := requests_are_settled request fun _ => .error .missing
  have asked : request.toSpec (fun _ => .error .missing) = .ok spec :=
    (succeeds spec).2 ⟨nofun, none, .unnamed rfl, by constructor <;> rfl⟩
  have back :
      spec.params.nullFrequency.readBack? = some spec.params.nullFrequency := by
    decide +kernel
  exact ⟨asked, back, again spec asked back "spec.yaml" others rfl⟩

end Request

end SyntheticTable.Command
