import Mathlib.Order.Monotone.Basic
import TrtpNetwork.Library.Runs

/-!
# Sliding windows

What a sliding window is for, with nothing said about numbers, tables or datagrams: two parties and
three counters.  `sent` packets of a stream were sent, of which the first `delivered` arrived, of
which the first `acked` are known to have.  How far the sender may run ahead is a function `limit`
of what is acknowledged.

`Transfer.step` is the machine of these counters, on a link that keeps the order and loses nothing.
`Transfer.valid_of_run` is its safety for every monotone limit: nothing is acknowledged that was not
delivered, nothing delivered that was not sent, and nothing sent past the limit.
`Transfer.counts_of_run` says that the counters count the moves.
`Transfer.Valid.exists_progress` says that it never gets stuck where the limit is past what is
acknowledged.
-/

namespace TrtpNetwork

/-- How far a transfer has come, in packets from the start of the stream. -/
structure Transfer where
  sent : ℕ
  delivered : ℕ
  acked : ℕ

/-- What can happen: the sender sends all it may, the next packet is delivered, the next
acknowledgement is processed and the sender sends all it then may, or nothing happens. -/
inductive Move where
  | pass
  | deliver
  | ack
  | stay
  deriving DecidableEq

namespace Transfer

variable (limit : ℕ → ℕ)

/-- One move.  Only what was sent can be delivered, and only what was delivered acknowledged. -/
def step (t : Transfer) : Move → Option Transfer
  | .pass => some { t with sent := limit t.acked }
  | .deliver => if t.delivered < t.sent then some { t with delivered := t.delivered + 1 } else none
  | .ack =>
    if t.acked < t.delivered then
      some { t with acked := t.acked + 1, sent := limit (t.acked + 1) }
    else none
  | .stay => some t

/-- The start of a transfer. -/
def start : Transfer := ⟨0, 0, 0⟩

/-- The counters are in order, and the sender is within its limit. -/
structure Valid (t : Transfer) : Prop where
  acked_le : t.acked ≤ t.delivered
  delivered_le : t.delivered ≤ t.sent
  sent_le : t.sent ≤ limit t.acked

variable {limit} {t t' : Transfer} {ms : List Move}

/-- What a move can be. -/
theorem step_cases {m : Move} (h : t.step limit m = some t') :
    m = .pass ∧ t' = { t with sent := limit t.acked } ∨
    m = .deliver ∧ t.delivered < t.sent ∧ t' = { t with delivered := t.delivered + 1 } ∨
    m = .ack ∧ t.acked < t.delivered ∧
      t' = { t with acked := t.acked + 1, sent := limit (t.acked + 1) } ∨
    m = .stay ∧ t' = t := by
  cases m with
  | pass => exact Or.inl ⟨rfl, (Option.some.inj h).symm⟩
  | deliver =>
    rw [step] at h
    split at h
    · exact Or.inr (Or.inl ⟨rfl, by assumption, (Option.some.inj h).symm⟩)
    · cases h
  | ack =>
    rw [step] at h
    split at h
    · exact Or.inr (Or.inr (Or.inl ⟨rfl, by assumption, (Option.some.inj h).symm⟩))
    · cases h
  | stay => exact Or.inr (Or.inr (Or.inr ⟨rfl, (Option.some.inj h).symm⟩))

theorem Valid.step (hlimit : Monotone limit) (h : t.Valid limit) {m : Move}
    (hstep : t.step limit m = some t') : t'.Valid limit := by
  obtain ⟨hacked, hdelivered, hsent⟩ := h
  rcases step_cases hstep with ⟨-, rfl⟩ | ⟨-, hlt, rfl⟩ | ⟨-, hlt, rfl⟩ | ⟨-, rfl⟩
  · exact ⟨hacked, hdelivered.trans hsent, Nat.le_refl _⟩
  · exact ⟨Nat.le_succ_of_le hacked, hlt, hsent⟩
  · have hgrow : limit t.acked ≤ limit (t.acked + 1) := hlimit (Nat.le_succ _)
    exact ⟨hlt, (hdelivered.trans hsent).trans hgrow, Nat.le_refl _⟩
  · exact ⟨hacked, hdelivered, hsent⟩

/-- The three counters together. -/
def total (t : Transfer) : ℕ := t.sent + t.delivered + t.acked

/-- **A sliding window never gets stuck**, as long as the sender may send what comes behind the
acknowledged packets: there is a move that gets further. -/
theorem Valid.exists_progress (hlimit : Monotone limit) (hopen : ∀ k, k < limit k)
    (h : t.Valid limit) : ∃ m t', t.step limit m = some t' ∧ t.total < t'.total := by
  obtain ⟨hacked, hdelivered, hsent⟩ := h
  by_cases hdeliver : t.delivered < t.sent
  · refine ⟨.deliver, _, if_pos hdeliver, ?_⟩
    unfold total
    dsimp only
    omega
  by_cases hack : t.acked < t.delivered
  · have hgrow : limit t.acked ≤ limit (t.acked + 1) := hlimit (Nat.le_succ _)
    refine ⟨.ack, _, if_pos hack, ?_⟩
    unfold total
    dsimp only
    omega
  · have hroom := hopen t.acked
    refine ⟨.pass, _, rfl, ?_⟩
    unfold total
    dsimp only
    omega

/-- The runs of the machine. -/
abbrev Runs (limit : ℕ → ℕ) (ms : List Move) (t : Transfer) : Prop :=
  Run (Transfer.step limit) (fun _ _ _ => True) start ms t

/-- **Safety of a sliding window.** -/
theorem valid_of_run (hlimit : Monotone limit) (h : Runs limit ms t) : t.Valid limit :=
  h.invariant (I := fun _ t => t.Valid limit)
    ⟨Nat.le_refl 0, Nat.le_refl 0, Nat.zero_le _⟩ fun _ _ _ _ hv _ hstep => hv.step hlimit hstep

/-- The counters count the moves. -/
theorem counts_of_run (h : Runs limit ms t) :
    t.acked = ms.count .ack ∧ t.delivered = ms.count .deliver := by
  refine h.invariant (I := fun ms t => t.acked = ms.count .ack ∧ t.delivered = ms.count .deliver)
    ⟨rfl, rfl⟩ ?_
  rintro ms t m t' ⟨hacked, hdelivered⟩ - hstep
  rw [List.count_append, List.count_append, ← hacked, ← hdelivered]
  rcases step_cases hstep with ⟨rfl, rfl⟩ | ⟨rfl, -, rfl⟩ | ⟨rfl, -, rfl⟩ | ⟨rfl, rfl⟩ <;>
    exact ⟨rfl, rfl⟩

end Transfer

end TrtpNetwork
