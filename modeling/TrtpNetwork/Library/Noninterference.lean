import TrtpNetwork.Library.Runs

/-!
# What a step does not let through

A state may hold more than its observer sees: a scratch buffer, a cache, leftovers of earlier work.
`view` is what is seen.  A partial step function respects the view if states that look the same
have outcomes that look the same, and an outcome at all in the same cases.

The property says nothing about the hidden part of the outcome, which may well depend on the hidden
part of the state.  It is closed under the ways in which step functions are put together:
sequencing (`Respects.bind`), looking something visible up (`Respects.lookup`), branching on it
(`Respects.ite`), loops over a list (`Respects.foldlM`).  `Respects.run` is what it gives for runs
on the same events.
-/

namespace TrtpNetwork

variable {σ ω ε β : Type*} {view : σ → ω}

/-- States that look the same have outcomes that look the same. -/
def Respects (view : σ → ω) (f : σ → Option σ) : Prop :=
  ∀ s t, view s = view t → (f s).map view = (f t).map view

namespace Respects

variable {f g : σ → Option σ}

/-- An outcome that is a function of the state. -/
theorem some {h : σ → σ} (hh : ∀ s t, view s = view t → view (h s) = view (h t)) :
    Respects view fun s => some (h s) :=
  fun s t hst => congrArg Option.some (hh s t hst)

/-- Outcomes of states that look the same either both exist, and look the same, or neither does. -/
theorem cases (hf : Respects view f) {s t : σ} (hst : view s = view t) :
    f s = none ∧ f t = none ∨
      ∃ s' t', f s = Option.some s' ∧ f t = Option.some t' ∧ view s' = view t' := by
  have h := hf s t hst
  cases hs : f s with
  | none =>
    rw [hs, Option.map_none, eq_comm, Option.map_eq_none_iff] at h
    exact Or.inl ⟨rfl, h⟩
  | some s' =>
    rw [hs, Option.map_some, eq_comm, Option.map_eq_some_iff] at h
    obtain ⟨t', ht, hview⟩ := h
    exact Or.inr ⟨s', t', rfl, ht, hview.symm⟩

/-- One step after the other. -/
theorem bind (hf : Respects view f) (hg : Respects view g) :
    Respects view fun s => (f s).bind g := by
  intro s t hst
  obtain ⟨hs, ht⟩ | ⟨s', t', hs, ht, hview⟩ := hf.cases hst
  · simp only [hs, ht, Option.bind_none]
  · simp only [hs, ht, Option.bind_some]
    exact hg s' t' hview

/-- A partial lookup in what is seen, and a step for each result. -/
theorem lookup {c : σ → Option β} {k : β → σ → Option σ}
    (hc : ∀ s t, view s = view t → c s = c t) (hk : ∀ b, Respects view (k b)) :
    Respects view fun s => (c s).bind fun b => k b s := by
  intro s t hst
  simp only [hc s t hst]
  cases c t with
  | none => rfl
  | some b => exact hk b s t hst

/-- A branch on something that is seen. -/
theorem ite {p : σ → Prop} [DecidablePred p] (hp : ∀ s t, view s = view t → (p s ↔ p t))
    (hf : Respects view f) (hg : Respects view g) :
    Respects view fun s => if p s then f s else g s := by
  intro s t hst
  by_cases hs : p s
  · simp only [if_pos hs, if_pos ((hp s t hst).mp hs)]
    exact hf s t hst
  · have ht : ¬ p t := fun ht => hs ((hp s t hst).mpr ht)
    simp only [if_neg hs, if_neg ht]
    exact hg s t hst

/-- A loop over a list, each turn of which respects the view. -/
theorem foldlM {step : σ → ε → Option σ} (hstep : ∀ e, Respects view fun s => step s e)
    (es : List ε) : Respects view fun s => es.foldlM step s := by
  induction es with
  | nil => exact some fun s t hst => hst
  | cons e es ih =>
    simp only [List.foldlM_cons]
    exact (hstep e).bind ih

/-- **Runs from states that look the same.**  If every allowed step respects the view, and what is
allowed is a matter of the event, then a run from one state is matched by a run from the other. -/
theorem run {step : σ → ε → Option σ} {ok : ε → Prop}
    (hstep : ∀ e, ok e → Respects view fun s => step s e) {s₀ t₀ s : σ} (h₀ : view s₀ = view t₀)
    {es : List ε} (h : Run step (fun _ _ e => ok e) s₀ es s) :
    ∃ t, Run step (fun _ _ e => ok e) t₀ es t ∧ view s = view t := by
  induction h with
  | nil => exact ⟨t₀, Run.nil, h₀⟩
  | snoc _ hok hs ih =>
    obtain ⟨t, hrun, hview⟩ := ih
    obtain ⟨hnone, -⟩ | ⟨s', t', hs', ht', hview'⟩ := (hstep _ hok).cases hview
    · rw [hnone] at hs
      cases hs
    · obtain rfl := Option.some.inj (hs'.symm.trans hs)
      exact ⟨t', Run.snoc hrun hok ht', hview'⟩

end Respects

end TrtpNetwork
