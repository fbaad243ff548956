import Mathlib.Data.Finset.Dedup
import Mathlib.Data.Finset.Order
import TrtpNetwork.Linksimulator.Fifo

/-!
# Turns in which no call fails

The loop of the simulator goes on as long as its calls succeed (`running_of_quiet`), and a turn
never takes back what was sent (`sentIn_front_of_turn`).  So nothing has to stay in the queue: a
turn whose calls succeed, at a time behind all dates, sends everything (`emptied_of_late`), and
there is such a time (`exists_late`).
-/

namespace TrtpNetwork

variable {params : LinkParams} {s s' : LinkSim} {e : ProxyPoll}

/-- No call of the turn fails. -/
structure ProxyPoll.Quiet (e : ProxyPoll) : Prop where
  select : ∀ errno, e.select ≠ .error errno
  clock : e.clock ≠ none
  sendDelayed : ∀ k, e.sendDelayed k = none
  calls : ¬ e.Fails

/-- A turn at a time, in which no call fails and no random number is high. -/
def turnAt (now : Timeval) (isSet : Bool) (recvfrom : RecvResult) : ProxyPoll where
  select := .ready isSet
  clock := some now
  sendDelayed := fun _ => none
  recvfrom := recvfrom
  sendNow := none
  draws := ⟨0, 0, 0, 0, 0⟩
  malloc := true
  realloc := some emptySlots

theorem quiet_turnAt (now : Timeval) (isSet : Bool) {recvfrom : RecvResult}
    (h : recvfrom ≠ .error .other) : (turnAt now isSet recvfrom).Quiet where
  select := by simp [turnAt]
  clock := by simp [turnAt]
  sendDelayed := fun _ => rfl
  calls := by simp [ProxyPoll.Fails, turnAt, h]

theorem adopted_running (s : LinkSim) (e : ProxyPoll) : (adopted s e).running = s.running := by
  unfold adopted adoptSource
  split
  · rfl
  · split <;> rfl

/-- **The loop goes on** behind a turn in which no call fails. -/
theorem running_of_quiet (he : e.Quiet) (hvalid : s.pktQueue.Valid PktSlot.key)
    (hrunning : s.running = true) (hstep : proxyLoop params s e = some s') :
    s'.running = true := by
  refine proxyLoop_rule (P := fun m => m.running = true) (Q := fun t => t.running = true) hvalid
    (fun hidle => ?_) (fun errno hselect => absurd hselect (he.select errno))
    (fun hclock => absurd hclock he.clock) (fun now m ps _ hps _ => ?_)
    (fun m _ ⟨k, hk⟩ => absurd (he.sendDelayed k) hk) (fun m hm _ => hm) (fun m t hm _ ht => ?_)
    (fun m t _ _ ht => ?_) hstep
  · rcases hidle with hstopped | heintr
    · rw [hrunning] at hstopped
      cases hstopped
    · exact absurd heintr (he.select _)
  · rw [hps.frame.2.2]
    exact hrunning
  · have hadopted : (adopted m e).running = true := (adopted_running m e).trans hm
    generalize hcode : ExitCode.success = code at ht
    cases ht with
    | ignored _ => exact hadopted
    | failed _ => cases hcode
    | written _ _ => exact hadopted
    | queued _ _ _ _ _ _ => exact hadopted
  · cases ht with
    | failed hfails => exact absurd hfails he.calls

/-- A turn only adds to what was sent. -/
theorem sentIn_front_of_turn (hvalid : s.pktQueue.Valid PktSlot.key)
    (hstep : proxyLoop params s e = some s') (d : Direction) : s.sentIn d <+: s'.sentIn d := by
  refine proxyLoop_rule (P := fun m => s.sentIn d <+: m.sentIn d)
    (Q := fun t => s.sentIn d <+: t.sentIn d) hvalid (fun _ => List.prefix_rfl)
    (fun _ _ => List.prefix_rfl) (fun _ => List.prefix_rfl) (fun now m ps _ hps _ => ?_)
    (fun m hm _ => hm) (fun m hm _ => hm) (fun m t hm _ ht => ?_) (fun m t hm _ ht => ?_) hstep
  · rw [hps.sentIn]
    exact List.prefix_append ..
  · have hadopted : s.sentIn d <+: (adopted m e).sentIn d := by
      rw [sentIn_adopted]
      exact hm
    generalize hcode : ExitCode.success = code at ht
    cases ht with
    | ignored _ => exact hadopted
    | failed _ => cases hcode
    | written _ _ =>
      rw [sentIn_written]
      exact hm.trans (List.prefix_append ..)
    | queued _ _ _ _ _ _ => exact hadopted
  · cases ht with
    | failed _ =>
      show s.sentIn d <+: (adopted m e).sentIn d
      rw [sentIn_adopted]
      exact hm

/-- **Nothing has to wait for ever**: a turn at a time behind all dates, in which no call fails and
nothing is heard, leaves the queue empty. -/
theorem emptied_of_late (he : e.Quiet) (hvalid : s.pktQueue.Valid PktSlot.key)
    (hrunning : s.running = true) {now : Timeval} (hclock : e.clock = some now)
    (hsilent : e.select = .ready false) (hlate : ∀ p ∈ s.pktQueue.contents, p.key < now.key)
    (hstep : proxyLoop params s e = some s') : s'.pktQueue.contents = 0 := by
  have hexpired : NoneExpired s' := noneExpired_of_turn hvalid (he.select _) he.sendDelayed hstep
    (running_of_quiet he hvalid hrunning hstep)
  -- the clock shows `now`, and what is left was in the queue before
  have hleft : s'.lastClock = now ∧ ∀ p ∈ s'.pktQueue.contents, p ∈ s.pktQueue.contents := by
    refine proxyLoop_rule (P := fun m => m.lastClock = now ∧
        ∀ p ∈ m.pktQueue.contents, p ∈ s.pktQueue.contents)
      (Q := fun t => t.lastClock = now ∧ ∀ p ∈ t.pktQueue.contents, p ∈ s.pktQueue.contents)
      hvalid (fun hidle => ?_) (fun errno hselect => absurd hselect (he.select errno))
      (fun hnone => absurd hnone he.clock) (fun now' m ps hnow' hps _ => ?_) (fun m hm _ => hm)
      (fun m hm _ => hm) (fun m t _ hready => absurd hready (by rw [hsilent]; decide))
      (fun m t _ hready => absurd hready (by rw [hsilent]; decide)) hstep
    · rcases hidle with hstopped | heintr
      · rw [hrunning] at hstopped
        cases hstopped
      · exact absurd heintr (he.select _)
    · obtain rfl := Option.some.inj (hclock.symm.trans hnow')
      refine ⟨hps.frame.2.1, fun p hp => ?_⟩
      have hcontents : s.pktQueue.contents = ps + m.pktQueue.contents := hps.contents
      rw [hcontents]
      exact Multiset.mem_add.mpr (Or.inr hp)
  obtain ⟨hnow, hmem⟩ := hleft
  rw [Multiset.eq_zero_iff_forall_notMem]
  intro p hp
  have hnot := hexpired p hp
  rw [hnow] at hnot
  exact absurd (hlate p (hmem p hp)) (not_lt_of_ge hnot)

/-- There is a time behind all dates, and behind the last one that was read. -/
theorem exists_late (s : LinkSim) : ∃ now : Timeval, s.lastClock.key < now.key ∧
    ∀ p ∈ s.pktQueue.contents, p.key < now.key := by
  obtain ⟨bound, hbound⟩ := (s.pktQueue.contents.map fun p => p.ts.tvSec).toFinset.exists_le
  refine ⟨⟨max bound s.lastClock.tvSec + 1, 0⟩, ?_, fun p hp => ?_⟩
  · rw [Timeval.key_lt_iff]
    dsimp only
    omega
  · have hle : p.ts.tvSec ≤ bound := by
      refine hbound _ ?_
      rw [Multiset.mem_toFinset]
      exact Multiset.mem_map_of_mem (fun p => p.ts.tvSec) hp
    rw [PktSlot.key, Timeval.key_lt_iff]
    dsimp only
    omega

end TrtpNetwork
