import RedisClient.Error

/-!
# Steps

A `Step σ α` changes a state and either gives a result or fails with an
`Error`; a step that fails keeps the changes it has made. Steps of a client run
on the pair of the client and its surroundings, and steps of what holds a
client run on the pair of the holder and the same surroundings:
`Step.focus` carries the first kind over to the second.
-/

namespace RedisClient

/-- A change of a state that may fail. -/
abbrev Step (σ α : Type) : Type := EStateM Error σ α

namespace Step

variable {σ τ E α : Type}

/-- Runs a step on a part of the state. The rest of the state stays as it is. -/
def focus (part : τ → σ) (put : σ → τ → τ) (step : Step (σ × E) α) : Step (τ × E) α :=
  fun (whole, env) =>
    match step (part whole, env) with
    | .ok a (s, env) => .ok a (put s whole, env)
    | .error e (s, env) => .error e (put s whole, env)

/-- The outcome of a step, which as a step of its own does not fail. -/
def attempt (step : Step σ α) : Step σ (Except Error α) := fun s =>
  match step s with
  | .ok a s => .ok (.ok a) s
  | .error e s => .ok (.error e) s

/-- The outcome of a step and the state after it. -/
def outcome (step : Step σ α) (s : σ) : Except Error α × σ :=
  match step s with
  | .ok a s => (.ok a, s)
  | .error e s => (.error e, s)

/-! What the parts of a step do to a state. -/

/-- A result by itself changes nothing. -/
@[simp] theorem pure_apply (a : α) (s : σ) : (pure a : Step σ α) s = .ok a s := rfl

/-- A step goes on from the state that the step before it left. -/
@[simp] theorem bind_apply {β : Type} (step : Step σ α) (next : α → Step σ β) (s : σ) :
    (step >>= next) s =
      match step s with
      | .ok a s => next a s
      | .error e s => .error e s := by
  simp only [bind, EStateM.bind]
  cases step s <;> rfl

/-- Converting the result changes the state no further. -/
@[simp] theorem map_apply {β : Type} (f : α → β) (step : Step σ α) (s : σ) :
    (f <$> step) s =
      match step s with
      | .ok a s => .ok (f a) s
      | .error e s => .error e s := by
  simp only [Functor.map, EStateM.map]
  cases step s <;> rfl

/-- Looking at the state changes nothing. -/
@[simp] theorem get_apply (s : σ) : (get : Step σ σ) s = .ok s s := rfl

/-- A change of the state gives no result. -/
@[simp] theorem modify_apply (f : σ → σ) (s : σ) :
    (modify f : Step σ PUnit) s = .ok ⟨⟩ (f s) := rfl

/-- A failure by itself changes nothing. -/
@[simp] theorem throw_apply (e : Error) (s : σ) : (throw e : Step σ α) s = .error e s := rfl

/-- A result that is at hand changes nothing. -/
@[simp] theorem ofExcept_ok_apply (a : α) (s : σ) :
    (ofExcept (Except.ok a : Except Error α) : Step σ α) s = .ok a s := rfl

/-- An error that is at hand changes nothing. -/
@[simp] theorem ofExcept_error_apply (e : Error) (s : σ) :
    (ofExcept (Except.error e : Except Error α) : Step σ α) s = .error e s := rfl

end Step

end RedisClient
