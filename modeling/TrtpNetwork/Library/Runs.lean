import Mathlib.Data.List.Induction
import Mathlib.Tactic.Common

/-!
# Runs of a partial step function

A loop that handles one event per iteration is a function `step : σ → ε → Option σ`, where `none`
says that the iteration has no defined outcome.  This file has the vocabulary in which such loops
are judged, and nothing about any particular loop.

* `Run step ok s₀ es s`: the events `es` lead from `s₀` to `s`, and each of them was allowed by
  `ok` when it happened.  The condition sees the earlier events and the current state, so it can
  speak of histories ("each packet arrives at most once") as well as of states.
* `Run.invariant`: the induction every invariant of a loop goes through.
* `Run.simulates`: what a step-by-step simulation gives for whole runs.
* `Run.simulates_stuttering`: the same where some steps are matched by no step at all.
* `Run.exists_reaching`: progress in every state, by a measure, reaches a goal from every state.
* `exists_run_of_follow`: a run found by computing, for conditions that can be decided.
-/

namespace TrtpNetwork

variable {σ ε : Type*}

/-- The runs of `step` from `s₀` in which every event is allowed by `ok` at the moment it
happens. -/
inductive Run (step : σ → ε → Option σ) (ok : List ε → σ → ε → Prop) (s₀ : σ) :
    List ε → σ → Prop
  | nil : Run step ok s₀ [] s₀
  | snoc {es : List ε} {s s' : σ} {e : ε} :
      Run step ok s₀ es s → ok es s e → step s e = some s' → Run step ok s₀ (es ++ [e]) s'

namespace Run

variable {step : σ → ε → Option σ} {ok : List ε → σ → ε → Prop} {s₀ s s' : σ} {es : List ε}

/-- **The invariant rule.**  What holds at the start and is kept by every allowed step holds in
every state of every run. -/
theorem invariant {I : List ε → σ → Prop} (h₀ : I [] s₀)
    (hstep : ∀ es s e s', I es s → ok es s e → step s e = some s' → I (es ++ [e]) s')
    (h : Run step ok s₀ es s) : I es s := by
  induction h with
  | nil => exact h₀
  | snoc _ hok hs ih => exact hstep _ _ _ _ ih hok hs

/-- A weaker condition allows the same run. -/
theorem mono {ok' : List ε → σ → ε → Prop} (hok : ∀ es s e, ok es s e → ok' es s e)
    (h : Run step ok s₀ es s) : Run step ok' s₀ es s := by
  induction h with
  | nil => exact nil
  | snoc _ hallowed hs ih => exact snoc ih (hok _ _ _ hallowed) hs

/-- A step function with more outcomes has the same run. -/
theorem mono_step {step' : σ → ε → Option σ}
    (hstep : ∀ s e s', step s e = some s' → step' s e = some s') (h : Run step ok s₀ es s) :
    Run step' ok s₀ es s := by
  induction h with
  | nil => exact nil
  | snoc _ hok hs ih => exact snoc ih hok (hstep _ _ _ hs)

/-- **Simulation carries runs over.**  If related states take related steps, the second system
following `f` event by event, then a run of the first is matched by a run of the second.  The step
may use that the second state was reached, and with it every invariant of the second system. -/
theorem simulates {τ δ : Type*} {step₂ : τ → δ → Option τ} {ok₂ : List δ → τ → δ → Prop} {t₀ : τ}
    {R : σ → τ → Prop} (f : ε → δ) (h₀ : R s₀ t₀)
    (hstep : ∀ es s e s' t, Run step₂ ok₂ t₀ (es.map f) t → R s t → ok es s e →
      step s e = some s' → ok₂ (es.map f) t (f e) ∧ ∃ t', step₂ t (f e) = some t' ∧ R s' t')
    (h : Run step ok s₀ es s) : ∃ t, Run step₂ ok₂ t₀ (es.map f) t ∧ R s t := by
  induction h with
  | nil => exact ⟨t₀, nil, h₀⟩
  | snoc _ hok hs ih =>
    obtain ⟨t, hrun, hR⟩ := ih
    obtain ⟨hok₂, t', ht', hR'⟩ := hstep _ _ _ _ t hrun hR hok hs
    exact ⟨t', by rw [List.map_append]; exact snoc hrun hok₂ ht', hR'⟩

/-- **Simulation with steps left out.**  Each step of the first system is matched by a step of the
second, or the second stays where it is.  Which event matches which may depend on the states, so the
relation is one between histories as well. -/
theorem simulates_stuttering {τ δ : Type*} {step₂ : τ → δ → Option τ}
    {ok₂ : List δ → τ → δ → Prop} {t₀ : τ} {R : List ε → σ → List δ → τ → Prop}
    (h₀ : R [] s₀ [] t₀)
    (hstep : ∀ es s e s' ds t, Run step₂ ok₂ t₀ ds t → R es s ds t → ok es s e →
      step s e = some s' → R (es ++ [e]) s' ds t ∨
        ∃ d t', ok₂ ds t d ∧ step₂ t d = some t' ∧ R (es ++ [e]) s' (ds ++ [d]) t')
    (h : Run step ok s₀ es s) : ∃ ds t, Run step₂ ok₂ t₀ ds t ∧ R es s ds t := by
  induction h with
  | nil => exact ⟨[], t₀, nil, h₀⟩
  | snoc _ hok hs ih =>
    obtain ⟨ds, t, hrun, hR⟩ := ih
    rcases hstep _ _ _ _ _ _ hrun hR hok hs with hstays | ⟨d, t', hok₂, ht', hR'⟩
    · exact ⟨ds, t, hrun, hstays⟩
    · exact ⟨ds ++ [d], t', snoc hrun hok₂ ht', hR'⟩

/-- **Progress reaches a goal.**  If in every state with `I` and without `Q` some allowed event
keeps `I` and makes `measure` smaller, then every run to a state with `I` goes on to one with `Q`,
by at most `measure` events more. -/
theorem exists_reaching {I Q : σ → Prop} (measure : List ε → σ → ℕ)
    (hprogress : ∀ es s, Run step ok s₀ es s → I s → ¬ Q s → ∃ e s', ok es s e ∧
      step s e = some s' ∧ I s' ∧ measure (es ++ [e]) s' < measure es s)
    (h : Run step ok s₀ es s) (hI : I s) :
    ∃ es' s', es'.length ≤ measure es s ∧ Run step ok s₀ (es ++ es') s' ∧ Q s' := by
  induction hn : measure es s using Nat.strongRecOn generalizing es s with
  | ind n ih =>
    by_cases hgoal : Q s
    · exact ⟨[], s, Nat.zero_le _, by rwa [List.append_nil], hgoal⟩
    · obtain ⟨e, s', hok, hs, hI', hless⟩ := hprogress es s h hI hgoal
      obtain ⟨es', s'', hlen, hrun, hreached⟩ := ih _ (hn ▸ hless) (snoc h hok hs) hI' rfl
      rw [List.append_assoc] at hrun
      refine ⟨e :: es', s'', ?_, hrun, hreached⟩
      rw [List.length_cons]
      omega

end Run

/-- A loop over one more element. -/
theorem foldlM_snoc (step : σ → ε → Option σ) (s₀ : σ) (es : List ε) (e : ε) :
    (es ++ [e]).foldlM step s₀ = (es.foldlM step s₀).bind fun s => step s e := by
  rw [List.foldlM_append]
  cases es.foldlM step s₀ <;> simp

/-! ## Concrete runs

Where the condition is decidable, a run can be found by computing: `follow` steps along the events
after `done` and stops where the condition fails. -/

/-- The state after the events `es`, if all of them are allowed. -/
def follow (step : σ → ε → Option σ) (ok : List ε → σ → ε → Prop)
    [∀ es s e, Decidable (ok es s e)] : List ε → List ε → σ → Option σ
  | _, [], s => some s
  | done, e :: es, s =>
    if ok done s e then (step s e).bind (follow step ok (done ++ [e]) es) else none

theorem Run.follow {step : σ → ε → Option σ} {ok : List ε → σ → ε → Prop}
    [∀ es s e, Decidable (ok es s e)] {s₀ s s' : σ} {done es : List ε}
    (h : Run step ok s₀ done s) (hes : TrtpNetwork.follow step ok done es s = some s') :
    Run step ok s₀ (done ++ es) s' := by
  induction es generalizing done s with
  | nil =>
    obtain rfl := Option.some.inj hes
    rwa [List.append_nil]
  | cons e es ih =>
    rw [TrtpNetwork.follow] at hes
    split at hes
    · obtain ⟨s₁, hs₁, hrest⟩ := Option.bind_eq_some_iff.mp hes
      have := ih (Run.snoc h (by assumption) hs₁) hrest
      rwa [List.append_assoc] at this
    · cases hes

/-- **A computed run**, with what `view` shows of its last state. -/
theorem exists_run_of_follow {β : Type*} (step : σ → ε → Option σ)
    (ok : List ε → σ → ε → Prop) [∀ es s e, Decidable (ok es s e)] (s₀ : σ) (es : List ε)
    (view : σ → β) {b : β} (h : (follow step ok [] es s₀).map view = some b) :
    ∃ s, Run step ok s₀ es s ∧ view s = b := by
  obtain ⟨s, hs, hview⟩ := Option.map_eq_some_iff.mp h
  exact ⟨s, Run.nil.follow hs, hview⟩

end TrtpNetwork
