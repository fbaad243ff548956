import TrtpNetwork.Library.Runs

/-!
# Two descriptions of one partial program

A program is described twice, say with pointers and with what they point to.  The two descriptions
agree on a step if both have no outcome, or both have one and the outcomes are related.  This is
`Option.Rel`, and it goes through sequencing and loops.  Step functions that agree have the same
runs (`exists_run_of_rel`), so what is known of every run of one description holds of the other.

Where the first description has no outcome more often than the second, half of it is left: every
outcome of the first is matched by one of the second (`Simulates`).  That is enough to know of every
run of the first what is known of every run of the second (`exists_run_of_simulates`).
-/

namespace TrtpNetwork

section Steps

variable {α β γ δ : Type*} {R : α → β → Prop} {S : γ → δ → Prop} {x : Option α} {y : Option β}

/-- One step after the other. -/
theorem rel_bind {f : α → Option γ} {g : β → Option δ} (h : Option.Rel R x y)
    (hfg : ∀ a b, R a b → Option.Rel S (f a) (g b)) : Option.Rel S (x.bind f) (y.bind g) := by
  cases h with
  | some hab => exact hfg _ _ hab
  | none => exact Option.Rel.none

/-- What is made of the outcomes. -/
theorem rel_map {f : α → γ} {g : β → δ} (h : Option.Rel R x y)
    (hfg : ∀ a b, R a b → S (f a) (g b)) : Option.Rel S (x.map f) (y.map g) := by
  cases h with
  | some hab => exact Option.Rel.some (hfg _ _ hab)
  | none => exact Option.Rel.none

theorem rel_mono {R' : α → β → Prop} (h : Option.Rel R x y) (hR : ∀ a b, R a b → R' a b) :
    Option.Rel R' x y := by
  cases h with
  | some hab => exact Option.Rel.some (hR _ _ hab)
  | none => exact Option.Rel.none

/-- What is known of every outcome of the second description. -/
theorem rel_and {P : β → Prop} (h : Option.Rel R x y) (hP : ∀ b, y = some b → P b) :
    Option.Rel (fun a b => R a b ∧ P b) x y := by
  cases h with
  | some hab => exact Option.Rel.some ⟨hab, hP _ rfl⟩
  | none => exact Option.Rel.none

/-- Either both have an outcome or neither has. -/
theorem exists_iff_of_rel (h : Option.Rel R x y) : (∃ a, x = some a) ↔ ∃ b, y = some b := by
  cases h with
  | some _ => exact iff_of_true ⟨_, rfl⟩ ⟨_, rfl⟩
  | none => exact iff_of_false (fun ⟨_, h⟩ => by cases h) fun ⟨_, h⟩ => by cases h

/-- Both have an outcome of the kind that is asked for, or neither has. -/
theorem exists_and_iff_of_rel {P : α → Prop} {Q : β → Prop} (h : Option.Rel R x y)
    (hPQ : ∀ a b, R a b → (P a ↔ Q b)) :
    (∃ a, x = some a ∧ P a) ↔ ∃ b, y = some b ∧ Q b := by
  cases h with
  | @some a b hab =>
    constructor
    · rintro ⟨_, ha, hP⟩
      obtain rfl := Option.some.inj ha
      exact ⟨b, rfl, (hPQ a b hab).mp hP⟩
    · rintro ⟨_, hb, hQ⟩
      obtain rfl := Option.some.inj hb
      exact ⟨a, rfl, (hPQ a b hab).mpr hQ⟩
  | none => exact iff_of_false (fun ⟨_, h, _⟩ => by cases h) fun ⟨_, h, _⟩ => by cases h

/-- An outcome of the first description is matched by one of the second. -/
theorem exists_of_rel {a : α} (h : Option.Rel R x y) (hx : x = some a) :
    ∃ b, y = some b ∧ R a b := by
  subst hx
  cases h with
  | some hab => exact ⟨_, rfl, hab⟩

/-- A loop over `0, …, n - 1`, with a relation that holds after each number of turns. -/
theorem rel_foldlM_range {R : ℕ → α → β → Prop} {f : α → ℕ → Option α} {g : β → ℕ → Option β}
    {n : ℕ} (hstep : ∀ i < n, ∀ a b, R i a b → Option.Rel (R (i + 1)) (f a i) (g b i)) {a : α}
    {b : β} (h : R 0 a b) :
    Option.Rel (R n) ((List.range n).foldlM f a) ((List.range n).foldlM g b) := by
  induction n with
  | zero => exact Option.Rel.some h
  | succ n ih =>
    rw [List.range_succ, foldlM_snoc, foldlM_snoc]
    exact rel_bind (ih fun i hi => hstep i (by omega)) fun a b hab => hstep n (by omega) a b hab

/-! ## One direction -/

/-- Every outcome of the first description is matched by one of the second. -/
def Simulates (R : α → β → Prop) (x : Option α) (y : Option β) : Prop :=
  ∀ a, x = some a → ∃ b, y = some b ∧ R a b

theorem simulates_of_rel (h : Option.Rel R x y) : Simulates R x y :=
  fun _ hx => exists_of_rel h hx

theorem simulates_some {a : α} {b : β} (h : R a b) : Simulates R (some a) (some b) := by
  intro a' ha'
  obtain rfl := Option.some.inj ha'
  exact ⟨b, rfl, h⟩

theorem simulates_none : Simulates R none y := fun _ ha => by cases ha

theorem Simulates.bind {f : α → Option γ} {g : β → Option δ} (h : Simulates R x y)
    (hfg : ∀ a b, R a b → Simulates S (f a) (g b)) : Simulates S (x.bind f) (y.bind g) := by
  intro c hc
  obtain ⟨a, ha, hfa⟩ := Option.bind_eq_some_iff.mp hc
  obtain ⟨b, rfl, hab⟩ := h a ha
  exact hfg a b hab c hfa

theorem Simulates.map {f : α → γ} {g : β → δ} (h : Simulates R x y)
    (hfg : ∀ a b, R a b → S (f a) (g b)) : Simulates S (x.map f) (y.map g) := by
  intro c hc
  obtain ⟨a, ha, rfl⟩ := Option.map_eq_some_iff.mp hc
  obtain ⟨b, rfl, hab⟩ := h a ha
  exact ⟨g b, rfl, hfg a b hab⟩

/-- A loop over a list, with a relation that each turn keeps. -/
theorem simulates_foldlM {ι : Type*} {f : α → ι → Option α} {g : β → ι → Option β}
    (hstep : ∀ i a b, R a b → Simulates R (f a i) (g b i)) (is : List ι) {a : α} {b : β}
    (h : R a b) : Simulates R (is.foldlM f a) (is.foldlM g b) := by
  induction is generalizing a b with
  | nil => exact simulates_some h
  | cons i is ih =>
    rw [List.foldlM_cons, List.foldlM_cons]
    exact (hstep i a b h).bind fun a' b' h' => ih h'

end Steps

/-! ## Runs -/

variable {σ τ ε : Type*} {f : τ → ε → Option τ} {g : σ → ε → Option σ} {R : τ → σ → Prop}
  {ok : List ε → τ → ε → Prop} {ok' : List ε → σ → ε → Prop} {t₀ t : τ} {s₀ : σ} {es : List ε}

/-- **The runs of a description** whose allowed steps are matched, from related states, by steps of
another. -/
theorem exists_run_of_simulates (h₀ : R t₀ s₀)
    (hok : ∀ es t s e, R t s → ok es t e → ok' es s e)
    (hstep : ∀ es t s e, R t s → ok es t e → Simulates R (f t e) (g s e))
    (hrun : Run f ok t₀ es t) : ∃ s, Run g ok' s₀ es s ∧ R t s := by
  have hmatched : ∃ s, Run g ok' s₀ (es.map id) s ∧ R t s := by
    refine hrun.simulates id h₀ ?_
    intro es t e t' s _ h hallowed ht'
    rw [List.map_id]
    exact ⟨hok es t s e h hallowed, hstep es t s e h hallowed t' ht'⟩
  rwa [List.map_id] at hmatched

/-- **The runs of two descriptions** that agree on every allowed step from related states. -/
theorem exists_run_of_rel (h₀ : R t₀ s₀)
    (hok : ∀ es t s e, R t s → ok es t e → ok' es s e)
    (hstep : ∀ es t s e, R t s → ok es t e → Option.Rel R (f t e) (g s e))
    (hrun : Run f ok t₀ es t) : ∃ s, Run g ok' s₀ es s ∧ R t s :=
  exists_run_of_simulates h₀ hok (fun es t s e h hallowed =>
    simulates_of_rel (hstep es t s e h hallowed)) hrun

end TrtpNetwork
