import RedisClient.Step

/-!
# Steps and what they preserve

What `attempt` and `focus` do as equations, and a predicate on states that a
step preserves whatever it comes to (`Step.Preserves`). Where a state can be
viewed as one of another kind, a step on the view may do just what a step on the
state does (`Step.Mirrors`). Both go through the parts of a step, so a step that
is made of preserving or mirrored parts is not taken apart any further.
-/

namespace RedisClient

namespace Step

variable {σ τ E α β : Type}

/-- An outcome that is kept does not fail. -/
@[simp] theorem attempt_apply (step : Step σ α) (s : σ) :
    attempt step s =
      match step s with
      | .ok a s => .ok (.ok a) s
      | .error e s => .ok (.error e) s := rfl

/-- A step on a part leaves the rest as it is. -/
@[simp] theorem focus_apply (part : τ → σ) (put : σ → τ → τ) (step : Step (σ × E) α) (whole : τ)
    (env : E) :
    step.focus part put (whole, env) =
      match step (part whole, env) with
      | .ok a (s, env) => .ok a (put s whole, env)
      | .error e (s, env) => .error e (put s whole, env) := rfl

/-- A change of the state may give a result. -/
@[simp] theorem modifyGet_apply (f : σ → α × σ) (s : σ) :
    (modifyGet f : Step σ α) s = .ok (f s).1 (f s).2 := rfl

/-- A result is an outcome. -/
theorem outcome_of_ok {step : Step σ α} {s s' : σ} {a : α} (h : step s = .ok a s') :
    outcome step s = (.ok a, s') := by
  simp only [outcome, h]

/-- So is a failure. -/
theorem outcome_of_error {step : Step σ α} {s s' : σ} {e : Error} (h : step s = .error e s') :
    outcome step s = (.error e, s') := by
  simp only [outcome, h]

/-- The state that a step leaves, whatever it comes to. -/
def left (step : Step σ α) (s : σ) : σ := (outcome step s).2

/-- A result is left with the state that came with it. -/
theorem left_of_ok {step : Step σ α} {s s' : σ} {a : α} (h : step s = .ok a s') :
    left step s = s' := by
  rw [left, outcome_of_ok h]

/-- So is a failure. -/
theorem left_of_error {step : Step σ α} {s s' : σ} {e : Error} (h : step s = .error e s') :
    left step s = s' := by
  rw [left, outcome_of_error h]

/-- Keeping the outcome, one goes on from the state that the step has left. -/
theorem left_attempt_bind (step : Step σ α) (next : Except Error α → Step σ β) (s : σ) :
    left (attempt step >>= next) s = left (next (outcome step s).1) (left step s) := by
  simp only [left, outcome, Step.bind_apply, attempt_apply]
  cases step s <;> rfl

/-- A state with the predicate is left with the predicate, whatever the step
comes to. -/
def Preserves (P : σ → Prop) (step : Step σ α) : Prop := ∀ s, P s → P (left step s)

namespace Preserves

variable {P : σ → Prop} {step : Step σ α}

/-- A result by itself preserves everything. -/
theorem of_pure (a : α) : Preserves P (pure a : Step σ α) := fun _ h => h

/-- So does a failure by itself. -/
theorem of_throw (e : Error) : Preserves P (throw e : Step σ α) := fun _ h => h

/-- Behind a failure nothing is done. -/
theorem of_throw_bind (e : Error) (next : α → Step σ β) :
    Preserves P ((throw e : Step σ α) >>= next) := fun _ h => h

/-- One step after the other preserves what both preserve. -/
theorem bind {next : α → Step σ β} (h : Preserves P step) (hnext : ∀ a, Preserves P (next a)) :
    Preserves P (step >>= next) := by
  intro s hs
  have hfirst := h s hs
  cases hstep : step s with
  | ok a s' =>
    rw [left_of_ok hstep] at hfirst
    have hlast := hnext a s' hfirst
    simpa only [left, outcome, Step.bind_apply, hstep] using hlast
  | error e s' =>
    rw [left_of_error hstep] at hfirst
    simpa only [left, outcome, Step.bind_apply, hstep] using hfirst

/-- Keeping the outcome changes nothing about the state. -/
theorem attempt (h : Preserves P step) : Preserves P (Step.attempt step) := by
  intro s hs
  have hleft := h s hs
  cases hstep : step s with
  | ok a s' =>
    rw [left_of_ok hstep] at hleft
    simpa only [left, outcome, attempt_apply, hstep] using hleft
  | error e s' =>
    rw [left_of_error hstep] at hleft
    simpa only [left, outcome, attempt_apply, hstep] using hleft

end Preserves

/-! ## Mirrors -/

/-- What a step comes to, with a view of the state that it leaves. -/
def viewed (view : σ → τ) : EStateM.Result Error σ α → EStateM.Result Error τ α
  | .ok a s => .ok a (view s)
  | .error e s => .error e (view s)

/-- **A mirror** of a step: on the view of a state it comes to what the step comes
to on the state, and leaves the view of the state that the step leaves. -/
def Mirrors (view : σ → τ) (step : Step σ α) (mirror : Step τ α) : Prop :=
  ∀ s, mirror (view s) = viewed view (step s)

namespace Mirrors

variable {view : σ → τ} {step : Step σ α} {mirror : Step τ α}

/-- A result by itself is its own mirror. -/
theorem of_pure (a : α) : Mirrors view (pure a : Step σ α) (pure a) := fun _ => rfl

/-- So is a failure by itself. -/
theorem of_throw (e : Error) : Mirrors view (throw e : Step σ α) (throw e) := fun _ => rfl

/-- So is what is at hand. -/
theorem of_except (result : Except Error α) :
    Mirrors view (ofExcept result : Step σ α) (ofExcept result) := by
  cases result with
  | ok a => exact of_pure a
  | error e => exact of_throw e

/-- Mirrors one after the other. -/
theorem bind {next : α → Step σ β} {nextMirror : α → Step τ β} (h : Mirrors view step mirror)
    (hnext : ∀ a, Mirrors view (next a) (nextMirror a)) :
    Mirrors view (step >>= next) (mirror >>= nextMirror) := by
  intro s
  rw [bind_apply, bind_apply, h s]
  cases step s with
  | ok a s => exact hnext a s
  | error e s => rfl

/-- The mirror of a step whose outcome is kept. -/
theorem attempt (h : Mirrors view step mirror) :
    Mirrors view (Step.attempt step) (Step.attempt mirror) := by
  intro s
  rw [attempt_apply, attempt_apply, h s]
  cases step s <;> rfl

/-- A mirror leaves the view of what the step leaves. -/
theorem left (h : Mirrors view step mirror) (s : σ) :
    Step.left mirror (view s) = view (Step.left step s) := by
  simp only [Step.left, outcome, h s]
  cases step s <;> rfl

/-- What a mirror gives, the step gives. -/
theorem ok_of_mirror (h : Mirrors view step mirror) (s : σ) {t : τ} {a : α}
    (hmirror : mirror (view s) = .ok a t) : ∃ s', step s = .ok a s' ∧ view s' = t := by
  rw [h s] at hmirror
  cases hstep : step s with
  | ok b s' =>
    rw [hstep] at hmirror
    obtain ⟨rfl, hview⟩ := EStateM.Result.ok.inj hmirror
    exact ⟨s', rfl, hview⟩
  | error e s' =>
    rw [hstep] at hmirror
    cases hmirror

/-- Where a mirror fails, the step does. -/
theorem error_of_mirror (h : Mirrors view step mirror) (s : σ) {t : τ} {e : Error}
    (hmirror : mirror (view s) = .error e t) : ∃ s', step s = .error e s' ∧ view s' = t := by
  rw [h s] at hmirror
  cases hstep : step s with
  | ok b s' =>
    rw [hstep] at hmirror
    cases hmirror
  | error other s' =>
    rw [hstep] at hmirror
    obtain ⟨rfl, hview⟩ := EStateM.Result.error.inj hmirror
    exact ⟨s', rfl, hview⟩

end Mirrors

end Step

end RedisClient
