import SyntheticTable.Random.Uniform

/-!
# Draws in sequence

What is drawn one after the other: the first of several results comes from the
engine at hand and the others from the engine that this draw leaves behind.

A number below a bound is below it whatever the engine, also where the draw
gives up.
-/

namespace SyntheticTable.Draw

variable {α : Type}

/-- Results drawn earlier stand first and have no influence on later ones. -/
theorem repeatInto_run
    (draw : Draw α)
    (count : Nat)
    (results : Array α)
    (engine : Engine) :
    (repeatInto draw count results).run engine =
      (results ++ ((repeated count draw).run engine).1,
        ((repeated count draw).run engine).2) := by
  induction count generalizing results engine with
  | zero =>
      show (results, engine) = (results ++ #[], engine)
      rw [Array.append_empty]
  | succ count inductionHypothesis =>
      have split :
          ∀ start : Array α,
            (repeatInto draw (count + 1) start).run engine =
              (repeatInto draw count (start.push (draw.run engine).1)).run
                (draw.run engine).2 := by
        intro start
        rfl
      rw [repeated, split results, split #[]]
      rw [inductionHypothesis, inductionHypothesis (#[].push _)]
      simp

@[simp]
theorem repeated_zero_run
    (draw : Draw α)
    (engine : Engine) :
    (repeated 0 draw).run engine = (#[], engine) :=
  rfl

theorem repeated_succ_run
    (draw : Draw α)
    (count : Nat)
    (engine : Engine) :
    (repeated (count + 1) draw).run engine =
      (#[(draw.run engine).1]
          ++ ((repeated count draw).run (draw.run engine).2).1,
        ((repeated count draw).run (draw.run engine).2).2) := by
  have split :
      (repeated (count + 1) draw).run engine =
        (repeatInto draw count #[(draw.run engine).1]).run
          (draw.run engine).2 :=
    rfl
  rw [split, repeatInto_run]

@[simp]
theorem size_repeated
    (draw : Draw α)
    (count : Nat)
    (engine : Engine) :
    ((repeated count draw).run engine).1.size = count := by
  induction count generalizing engine with
  | zero => rfl
  | succ count inductionHypothesis =>
      rw [repeated_succ_run]
      simp [inductionHypothesis, Nat.add_comm]

/-- What holds of every result that can be drawn holds of all that are drawn. -/
theorem repeated_property
    (property : α → Prop)
    {draw : Draw α}
    (drawHas : ∀ engine, property (draw.run engine).1)
    (count : Nat)
    (engine : Engine) :
    ∀ result ∈ ((repeated count draw).run engine).1, property result := by
  induction count generalizing engine with
  | zero => simp
  | succ count inductionHypothesis =>
      rw [repeated_succ_run]
      intro result member
      rcases Array.mem_append.1 member with first | later
      · rw [Array.mem_singleton.1 first]
        exact drawHas engine
      · exact inductionHypothesis (draw.run engine).2 result later

/-- What is drawn first does not depend on how much is drawn after it. -/
theorem repeated_prefix_repeated
    (draw : Draw α)
    {fewer more : Nat}
    (less : fewer ≤ more)
    (engine : Engine) :
    ((repeated fewer draw).run engine).1.toList <+:
      ((repeated more draw).run engine).1.toList := by
  induction fewer generalizing more engine with
  | zero => exact List.nil_prefix
  | succ fewer inductionHypothesis =>
      rcases Nat.exists_eq_add_of_le' less with ⟨others, rfl⟩
      have later :=
        inductionHypothesis (Nat.le_add_left fewer others)
          (draw.run engine).2
      rw [← Nat.add_assoc, repeated_succ_run, repeated_succ_run]
      simpa using later

/-- What every accepted trial and the fallback have in common holds of the result. -/
theorem acceptedWithin_property
    (property : α → Prop)
    {trial : Draw (Option α)}
    {fallback : α}
    (fallbackHas : property fallback)
    (trialHas :
      ∀ engine result, (trial.run engine).1 = some result → property result)
    (trials : Nat)
    (engine : Engine) :
    property ((acceptedWithin trial fallback trials).run engine).1 := by
  induction trials generalizing engine with
  | zero => exact fallbackHas
  | succ trials inductionHypothesis =>
      have split :
          (acceptedWithin trial fallback (trials + 1)).run engine =
            match trial.run engine with
            | (some result, rest) => (result, rest)
            | (none, rest) =>
                (acceptedWithin trial fallback trials).run rest := by
        simp only [acceptedWithin, StateT.run_bind]
        rcases trial.run engine with ⟨_ | result, rest⟩ <;> rfl
      rw [split]
      rcases outcome : trial.run engine with ⟨_ | result, rest⟩
      · exact inductionHypothesis rest
      · exact trialHas engine result (by rw [outcome])

theorem longBelow_lt
    {bound : Nat}
    (positive : 0 < bound)
    (engine : Engine) :
    ((longBelow bound).run engine).1 < bound := by
  refine acceptedWithin_property (· < bound) positive ?_ trialLimit engine
  intro current result taken
  refine scaledBelow?_lt positive ?_ taken
  exact UInt64.toNat_lt _

theorem wordBelow_lt
    {bound : Nat}
    (positive : 0 < bound)
    (engine : Engine) :
    ((wordBelow bound).run engine).1 < bound := by
  refine acceptedWithin_property (· < bound) positive ?_ trialLimit engine
  intro current result taken
  refine scaledBelow?_lt positive ?_ taken
  exact UInt32.toNat_lt _

end SyntheticTable.Draw
