import TrtpNetwork.Library.Runs

/-!
# Systems that record what they do

Counters, logs and other history are often kept beside the state of a system and never looked at by
it.  `π` takes the richer state to the state itself, and a step of the richer system records the
plain step if it does the same to it (`Records`).

Keeping a record beside one function is `recording`.  The property goes through sequencing and
branching (`Records.bind`, `Records.ite`), so a larger function has it from its parts.  For runs it
says two things: a run of the richer system is one of the plain system (`Records.run`), and every
run of the plain system is recorded (`Records.exists_run`).  So an invariant about the record holds
of all runs there are.
-/

namespace TrtpNetwork

variable {σ τ κ ε : Type*} {π : τ → σ}

/-- `g` beside a record, which may depend on the state before and after. -/
def recording (g : σ → Option σ) (record : σ → κ → σ → κ) (t : σ × κ) : Option (σ × κ) :=
  (g t.1).map fun s => (s, record t.1 t.2 s)

theorem recording_eq_some_iff {g : σ → Option σ} {record : σ → κ → σ → κ} {t t' : σ × κ} :
    recording g record t = some t' ↔ ∃ s, g t.1 = some s ∧ t' = (s, record t.1 t.2 s) := by
  rw [recording, Option.map_eq_some_iff]
  exact exists_congr fun s => and_congr_right fun _ => eq_comm

/-- `f` does to the state what `g` does, and records something besides. -/
def Records (π : τ → σ) (f : τ → Option τ) (g : σ → Option σ) : Prop :=
  ∀ t, (f t).map π = g (π t)

namespace Records

variable {f f' : τ → Option τ} {g g' : σ → Option σ}

theorem some : Records π Option.some Option.some := fun _ => rfl

theorem recording (g : σ → Option σ) (record : σ → κ → σ → κ) :
    Records Prod.fst (recording g record) g := by
  intro t
  rw [TrtpNetwork.recording, Option.map_map]
  exact Option.map_id'

/-- An outcome of the richer function. -/
theorem eq_some (h : Records π f g) {t t' : τ} (ht : f t = Option.some t') :
    g (π t) = Option.some (π t') := by
  rw [← h t, ht, Option.map_some]

/-- An outcome of the plain function. -/
theorem exists_eq_some (h : Records π f g) {t : τ} {s : σ} (hs : g (π t) = Option.some s) :
    ∃ t', f t = Option.some t' ∧ π t' = s :=
  Option.map_eq_some_iff.mp ((h t).trans hs)

/-- One step after the other. -/
theorem bind (h : Records π f g) (h' : Records π f' g') :
    Records π (fun t => (f t).bind f') (fun s => (g s).bind g') := by
  intro t
  dsimp only
  rw [← h t]
  cases f t with
  | none => rfl
  | some t' => exact h' t'

/-- A branch on the state. -/
theorem ite {p : σ → Prop} [DecidablePred p] (h : Records π f g) (h' : Records π f' g') :
    Records π (fun t => if p (π t) then f t else f' t) (fun s => if p s then g s else g' s) := by
  intro t
  dsimp only
  split
  · exact h t
  · exact h' t

/-! ## Runs -/

variable {step : σ → ε → Option σ} {step' : τ → ε → Option τ} {ok : List ε → σ → ε → Prop}
  {t₀ t : τ} {s : σ} {es : List ε}

/-- **A run with its record** is a run. -/
theorem run (h : ∀ e, Records π (fun t => step' t e) fun s => step s e)
    (hrun : Run step' (fun es t e => ok es (π t) e) t₀ es t) : Run step ok (π t₀) es (π t) := by
  induction hrun with
  | nil => exact Run.nil
  | snoc _ hok hs ih => exact ih.snoc hok ((h _).eq_some hs)

/-- **Every run is recorded.** -/
theorem exists_run (h : ∀ e, Records π (fun t => step' t e) fun s => step s e) (t₀ : τ)
    (hrun : Run step ok (π t₀) es s) :
    ∃ t, Run step' (fun es t e => ok es (π t) e) t₀ es t ∧ π t = s := by
  induction hrun with
  | nil => exact ⟨t₀, Run.nil, rfl⟩
  | snoc _ hok hs ih =>
    obtain ⟨t, hrun', rfl⟩ := ih
    obtain ⟨t', ht', rfl⟩ := (h _).exists_eq_some hs
    exact ⟨t', hrun'.snoc hok ht', rfl⟩

end Records

end TrtpNetwork
