import TrtpNetwork.Linksimulator.Conservation

/-!
# When the delayed packets are sent

An expiration date is the time of arrival with the milliseconds of the delay added to the
microseconds, which are not carried over into the seconds.  `timeval_cmp` compares the seconds
first, so a date whose microseconds went over a million is passed at the next full second, up to
0.999 seconds early (`expires_iff`).

In every run whose clock does not go back the packets leave in the order of these dates, each after
its own and none left behind (`link_delivers`), at least as late as `expires_iff` allows
(`link_delays`).  `get_queue_timeout` lets `select` wait exactly until the next of them, or for a
millisecond: the latter also in the last second, where `timeval_diff` misses a carry
(`link_waits`).
-/

namespace TrtpNetwork

variable {params : LinkParams} {s s' : LinkSim}

/-! ## The arithmetic of dates -/

/-- A time in microseconds. -/
def Timeval.micros (t : Timeval) : ℤ := t.tvSec * 1000000 + t.tvUsec

/-- The microseconds are less than a second, as the clock has them. -/
def Timeval.Normal (t : Timeval) : Prop := 0 ≤ t.tvUsec ∧ t.tvUsec < 1000000

theorem expirationDate_tvUsec (now : Timeval) (delay : UInt32) :
    (expirationDate now delay).tvUsec = now.tvUsec + (delay.toNat % 1000 * 1000 : ℕ) := by
  have hmod : (delay % 1000).toNat = delay.toNat % 1000 := by
    rw [UInt32.toNat_mod]
    rfl
  have hmul : (delay % 1000 * 1000).toNat = delay.toNat % 1000 * 1000 := by
    rw [UInt32.toNat_mul, hmod, Nat.mod_eq_of_lt]
    · rfl
    · show delay.toNat % 1000 * 1000 < 2 ^ 32
      omega
  rw [expirationDate, hmul]

-- A delay of 0.999 seconds is over after a microsecond.
example : timevalCmp ⟨6, 0⟩ (expirationDate ⟨5, 999999⟩ 999) = true := by decide

/-- The delay is below ten seconds, and without jitter it is the one that was asked for, as far as
it is below ten seconds. -/
theorem appliedDelay_spec {draws : Draws} {delay : UInt32}
    (h : appliedDelay params draws = some delay) :
    delay.toNat < 10000 ∧ (params.jitter = 0 → delay = params.delay % 10000) := by
  have hmod : ∀ x : UInt32, (x % 10000).toNat < 10000 := by
    intro x
    rw [UInt32.toNat_mod]
    exact Nat.mod_lt _ (by decide)
  unfold appliedDelay at h
  split at h
  · rename_i hjitter
    split at h
    · split at h
      · cases h
      · obtain rfl := Option.some.inj h
        exact ⟨hmod _, fun h0 => absurd h0 hjitter⟩
    · split at h
      · cases h
      · obtain rfl := Option.some.inj h
        exact ⟨hmod _, fun h0 => absurd h0 hjitter⟩
  · obtain rfl := Option.some.inj h
    exact ⟨hmod _, fun _ => rfl⟩

/-- The dates of the packets that were delayed, in the order these were sent. -/
def LinkSim.dues (s : LinkSim) : List Timeval := s.sent.filterMap Sent.due

/-- The packets left in the order of their dates, each when its date had passed, and the ones in the
queue have later ones. -/
structure InDueOrder (s : LinkSim) : Prop where
  valid : s.pktQueue.Valid PktSlot.key
  sorted : s.dues.Pairwise fun a b => a.key ≤ b.key
  expired : ∀ w ∈ s.sent, ∀ due ∈ w.due, due.key < w.clock.key
  clock : ∀ w ∈ s.sent, w.clock.key ≤ s.lastClock.key
  ahead : ∀ due ∈ s.dues, ∀ p ∈ s.pktQueue.contents, due.key ≤ p.key

/-- The clock does not go back. -/
def TimeGoesOn (s : LinkSim) (e : ProxyPoll) : Prop :=
  ∀ now ∈ e.clock, s.lastClock.key ≤ now.key

instance (s : LinkSim) (e : ProxyPoll) : Decidable (TimeGoesOn s e) := by
  unfold TimeGoesOn
  infer_instance

theorem Delivered.dues {ps : List PktSlot} (h : Delivered params s s' ps) :
    s'.dues = s.dues ++ ps.map PktSlot.ts := by
  have hmap : (ps.map fun p => sentFor params s (some p.ts) p.direction p.buf).filterMap Sent.due =
      ps.map PktSlot.ts := by
    rw [List.filterMap_map, ← List.filterMap_eq_map]
    rfl
  rw [LinkSim.dues, h.state]
  show (s.sent ++ _).filterMap Sent.due = _
  rw [List.filterMap_append, hmap]
  rfl

theorem InDueOrder.delivered (h : InDueOrder s) {now : Timeval} (hclock : s.lastClock.key ≤ now.key)
    {ps : List PktSlot} (hps : Delivered params { s with lastClock := now } s' ps) :
    InDueOrder s' := by
  have hdues : s'.dues = s.dues ++ ps.map PktSlot.ts := hps.dues
  have hcontents : s.pktQueue.contents = ps + s'.pktQueue.contents := hps.contents
  have hsent : s'.sent = s.sent ++
      ps.map fun p => sentFor params { s with lastClock := now } (some p.ts) p.direction p.buf := by
    rw [hps.state]
  have hnow : s'.lastClock = now := by
    rw [hps.state]
  have hmem : ∀ p ∈ ps, p ∈ s.pktQueue.contents := by
    intro p hp
    rw [hcontents]
    exact Multiset.mem_add.mpr (Or.inl (Multiset.mem_coe.mpr hp))
  refine ⟨hps.valid, ?_, fun w hw => ?_, fun w hw => ?_, fun due hdue p hp => ?_⟩
  · rw [hdues, List.pairwise_append]
    refine ⟨h.sorted, List.pairwise_map.mpr hps.sorted, fun a ha b hb => ?_⟩
    obtain ⟨p, hp, rfl⟩ := List.mem_map.mp hb
    exact h.ahead a ha p (hmem p hp)
  · rw [hsent] at hw
    rcases List.mem_append.mp hw with hold | hnew
    · exact h.expired w hold
    · obtain ⟨p, hp, rfl⟩ := List.mem_map.mp hnew
      intro due hdue
      obtain rfl : p.ts = due := Option.some.inj hdue
      exact hps.expired p hp
  · rw [hnow]
    rw [hsent] at hw
    rcases List.mem_append.mp hw with hold | hnew
    · exact (h.clock w hold).trans hclock
    · obtain ⟨p, -, rfl⟩ := List.mem_map.mp hnew
      exact le_refl _
  · rw [hdues] at hdue
    rcases List.mem_append.mp hdue with hold | hnew
    · refine h.ahead due hold p ?_
      rw [hcontents]
      exact Multiset.mem_add.mpr (Or.inr hp)
    · obtain ⟨p', hp', rfl⟩ := List.mem_map.mp hnew
      exact hps.least p' hp' p hp

/-- Nothing that was sent was due later than now. -/
theorem InDueOrder.due_le (h : InDueOrder s) {due : Timeval} (hdue : due ∈ s.dues) :
    due.key ≤ s.lastClock.key := by
  obtain ⟨w, hw, hwdue⟩ := List.mem_filterMap.mp hdue
  exact (h.expired w hw due hwdue).le.trans (h.clock w hw)

/-- A change of what the order does not look at. -/
theorem InDueOrder.congr (h : InDueOrder s) (hq : s'.pktQueue = s.pktQueue)
    (hsent : s'.sent = s.sent) (hclock : s'.lastClock = s.lastClock) : InDueOrder s' := by
  have hdues : s'.dues = s.dues := by
    rw [LinkSim.dues, hsent]
    rfl
  refine ⟨?_, ?_, ?_, ?_, ?_⟩
  · rw [hq]
    exact h.valid
  · rw [hdues]
    exact h.sorted
  · rw [hsent]
    exact h.expired
  · rw [hsent, hclock]
    exact h.clock
  · rw [hdues, hq]
    exact h.ahead

theorem InDueOrder.adopted (h : InDueOrder s) (e : ProxyPoll) : InDueOrder (adopted s e) :=
  h.congr (adopted_pktQueue s e) (adopted_sent s e) (adopted_lastClock s e)

theorem InDueOrder.handled (h : InDueOrder s) {e : ProxyPoll} {code : ExitCode}
    (ht : Handled params e s code s') : InDueOrder s' := by
  have hadopted := h.adopted e
  cases ht with
  | ignored _ => exact hadopted
  | failed _ => exact hadopted
  | @written direction buf _ _ =>
    have hdues : LinkSim.dues { TrtpNetwork.adopted s e with
        sent := (TrtpNetwork.adopted s e).sent ++
          [sentFor params (TrtpNetwork.adopted s e) none direction buf] } =
        (TrtpNetwork.adopted s e).dues := by
      rw [LinkSim.dues]
      dsimp only
      rw [List.filterMap_append]
      exact List.append_nil _
    refine ⟨hadopted.valid, ?_, fun w hw => ?_, fun w hw => ?_, ?_⟩
    · rw [hdues]
      exact hadopted.sorted
    · rcases List.mem_append.mp hw with hold | hnew
      · exact hadopted.expired w hold
      · obtain rfl := List.mem_singleton.mp hnew
        exact fun due hdue => by cases hdue
    · rcases List.mem_append.mp hw with hold | hnew
      · exact hadopted.clock w hold
      · obtain rfl := List.mem_singleton.mp hnew
        exact le_refl _
    · rw [hdues]
      exact hadopted.ahead
  | @queued direction buf delay q _ _ _ _ hvalid hq =>
    refine ⟨hvalid, hadopted.sorted, hadopted.expired, hadopted.clock, fun due hdue p hp => ?_⟩
    dsimp only at hp
    rw [hq] at hp
    rcases Multiset.mem_cons.mp hp with rfl | hold
    · -- what is queued now is due no earlier than now
      refine (hadopted.due_le hdue).trans ?_
      rw [adopted_lastClock]
      exact key_le_expirationDate s.lastClock delay
    · refine hadopted.ahead due hdue p ?_
      rw [adopted_pktQueue]
      exact hold

theorem InDueOrder.step (h : InDueOrder s) {e : ProxyPoll} (hclock : TimeGoesOn s e)
    (hstep : proxyLoop params s e = some s') : InDueOrder s' := by
  refine proxyLoop_rule (P := InDueOrder) h.valid (fun _ => h) (fun _ _ => h.congr rfl rfl rfl)
    (fun _ => h.congr rfl rfl rfl) (fun now m ps hnow hps _ => h.delivered (hclock now hnow) hps)
    (fun m hm _ => hm.congr rfl rfl rfl) (fun m hm _ => hm) (fun m t hm _ ht => hm.handled ht)
    (fun m t hm _ ht => (hm.handled ht).congr rfl rfl rfl) hstep

theorem inDueOrder_of_fresh {clock : Option Timeval} (h : s.Fresh clock) : InDueOrder s := by
  have hdues : s.dues = [] := by
    rw [LinkSim.dues, h.sent]
    rfl
  refine ⟨h.valid, ?_, ?_, ?_, ?_⟩
  · rw [hdues]
    exact List.Pairwise.nil
  · simp [h.sent]
  · simp [h.sent]
  · simp [hdues]

theorem InDueOrder.run {es : List ProxyPoll} {s₀ : LinkSim} (h₀ : InDueOrder s₀)
    (hrun : Run (proxyLoop params) (fun _ s e => TimeGoesOn s e) s₀ es s) : InDueOrder s := by
  refine hrun.invariant (I := fun _ s => InDueOrder s) h₀ ?_
  exact fun _ _ _ _ h hclock hstep => h.step hclock hstep

/-- A turn that is not interrupted, and in which `sendto` takes what it is given, leaves nothing in
the queue that has expired. -/
theorem noneExpired_of_turn (hvalid : s.pktQueue.Valid PktSlot.key) {e : ProxyPoll}
    (hselect : e.select ≠ .error .eintr) (hsend : ∀ k, e.sendDelayed k = none)
    (hstep : proxyLoop params s e = some s') (hrunning : s'.running = true) : NoneExpired s' := by
  refine proxyLoop_rule (P := NoneExpired) (Q := fun t => t.running = true → NoneExpired t) hvalid
    (fun hidle hr => ?_) (fun _ _ hr => by cases hr) (fun _ hr => by cases hr)
    (fun now m ps _ _ hnone => ?_) (fun m _ _ hr => by cases hr) (fun m hm _ _ => hm)
    (fun m t hm _ ht _ => ?_) (fun m t _ _ _ hr => by cases hr) hstep hrunning
  · rcases hidle with hstopped | heintr
    · exact absurd hr (by simp [hstopped])
    · exact absurd heintr hselect
  · exact hnone.resolve_right fun ⟨k, hk⟩ => hk (hsend k)
  · have hadopted : NoneExpired (adopted m e) := by
      intro p hp
      rw [adopted_pktQueue] at hp
      rw [adopted_lastClock]
      exact hm p hp
    generalize hcode : ExitCode.success = code at ht
    cases ht with
    | ignored _ => exact hadopted
    | failed _ => cases hcode
    | written _ _ => exact hadopted
    | @queued direction buf delay q _ _ _ _ _ hq =>
      intro p hp
      dsimp only at hp ⊢
      rw [adopted_lastClock]
      rw [hq] at hp
      rcases Multiset.mem_cons.mp hp with rfl | hold
      · exact key_le_expirationDate m.lastClock delay
      · exact hm p hold

/-- **Delayed packets leave in the order of their expiration dates.**  In every run whose clock does
not go back, the packets from the queue were sent in the order of their dates, each when its own had
passed, and no date of those still queued is earlier.  After a turn that was not interrupted and in
which `sendto` did not fail, none of them has expired. -/
theorem link_delivers (params : LinkParams) (mallocQueue : Bool)
    (mallocSlots : Option (ℕ → PktSlot)) (clock : Option Timeval) (s₀ : LinkSim)
    (hinit : LinkSim.init mallocQueue mallocSlots clock = some s₀) (es : List ProxyPoll)
    (s : LinkSim) (hrun : Run (proxyLoop params) (fun _ s e => TimeGoesOn s e) s₀ es s) :
    (s.dues.Pairwise fun a b => a.key ≤ b.key) ∧
      (∀ w ∈ s.sent, ∀ due ∈ w.due, due.key < w.clock.key) ∧
      (∀ due ∈ s.dues, ∀ p ∈ s.pktQueue.contents, due.key ≤ p.key) ∧
      ∀ e s', e.select ≠ .error .eintr → (∀ k, e.sendDelayed k = none) →
        proxyLoop params s e = some s' → s'.running = true → NoneExpired s' := by
  have h : InDueOrder s := (inDueOrder_of_fresh (fresh_of_init hinit)).run hrun
  exact ⟨h.sorted, h.expired, h.ahead, fun e s' hselect hsend hstep hr =>
    noneExpired_of_turn h.valid hselect hsend hstep hr⟩

/-- A packet that came when there was room to be sent, and one that waits for its date. -/
theorem link_delivers_two :
    ∃ s : LinkSim, s.dues = [⟨1, 100000⟩] ∧ s.pktQueue.size = 1 ∧
      ∀ due ∈ s.dues, ∀ p ∈ s.pktQueue.contents, due.key ≤ p.key := by
  let es := [pollAt 1 0 (.received ⟨2, 1, 0⟩ (List.replicate 10 1)),
    pollAt 2 0 (.received ⟨2, 1, 0⟩ (List.replicate 10 2))]
  obtain ⟨s, hrun, hview⟩ := exists_run_of_follow (proxyLoop slowLink)
    (fun _ s e => TimeGoesOn s e) startLink es (fun s => (s.dues, s.pktQueue.size))
    (show _ = some ([⟨1, 100000⟩], 1) by decide +kernel)
  obtain ⟨hdues, hsize⟩ := Prod.mk.inj hview
  exact ⟨s, hdues, hsize, (link_delivers slowLink true (some emptySlots) (some ⟨0, 0⟩) _
    init_startLink es s hrun).2.2.1⟩

/-! ## How long they are kept -/

/-- The date is that of a datagram of the run. -/
def DatedBy (params : LinkParams) (es : List ProxyPoll) (due : Timeval) : Prop :=
  ∃ e ∈ es, ∃ now delay, e.clock = some now ∧ heard e ≠ none ∧
    appliedDelay params e.draws = some delay ∧ due = expirationDate now delay

theorem DatedBy.snoc {es : List ProxyPoll} {due : Timeval} (h : DatedBy params es due)
    (e : ProxyPoll) : DatedBy params (es ++ [e]) due := by
  obtain ⟨e', he', hrest⟩ := h
  exact ⟨e', List.mem_append_left _ he', hrest⟩

/-- The clock shows less than a million microseconds. -/
def ClockIsNormal (e : ProxyPoll) : Prop := ∀ now ∈ e.clock, now.Normal

instance (t : Timeval) : Decidable t.Normal := by
  unfold Timeval.Normal
  infer_instance

instance (e : ProxyPoll) : Decidable (ClockIsNormal e) := by
  unfold ClockIsNormal
  infer_instance

/-- Every date has its datagram, and every time that was read is normal. -/
structure Dated (params : LinkParams) (es : List ProxyPoll) (s : LinkSim) : Prop where
  valid : s.pktQueue.Valid PktSlot.key
  sent : ∀ w ∈ s.sent, w.clock.Normal ∧ ∀ due ∈ w.due, DatedBy params es due
  queued : ∀ p ∈ s.pktQueue.contents, DatedBy params es p.ts
  clock : s.lastClock.Normal
  events : ∀ e ∈ es, ClockIsNormal e

/-- One turn more, in which the state may have changed where the dates are not kept. -/
theorem Dated.congr {es : List ProxyPoll} (h : Dated params es s) {e : ProxyPoll}
    (he : ClockIsNormal e) (hq : s'.pktQueue = s.pktQueue) (hsent : s'.sent = s.sent)
    (hclock : s'.lastClock = s.lastClock) : Dated params (es ++ [e]) s' := by
  refine ⟨?_, fun w hw => ?_, fun p hp => ?_, ?_, fun e' he' => ?_⟩
  · rw [hq]
    exact h.valid
  · rw [hsent] at hw
    obtain ⟨hnormal, hdue⟩ := h.sent w hw
    exact ⟨hnormal, fun due hd => (hdue due hd).snoc e⟩
  · rw [hq] at hp
    exact (h.queued p hp).snoc e
  · rw [hclock]
    exact h.clock
  · rcases List.mem_append.mp he' with hold | hnew
    · exact h.events e' hold
    · obtain rfl := List.mem_singleton.mp hnew
      exact he

theorem Dated.delivered {es : List ProxyPoll} (h : Dated params es s) {now : Timeval}
    (hnow : now.Normal) {ps : List PktSlot}
    (hps : Delivered params { s with lastClock := now } s' ps) : Dated params es s' := by
  have hcontents : s.pktQueue.contents = ps + s'.pktQueue.contents := hps.contents
  have hclock : s'.lastClock = now := by
    rw [hps.state]
  refine ⟨hps.valid, fun w hw => ?_, fun p hp => ?_, by rw [hclock]; exact hnow, h.events⟩
  · rw [hps.state] at hw
    rcases List.mem_append.mp hw with hold | hnew
    · exact h.sent w hold
    · obtain ⟨p, hp, rfl⟩ := List.mem_map.mp hnew
      refine ⟨hnow, fun due hdue => ?_⟩
      obtain rfl : p.ts = due := Option.some.inj hdue
      refine h.queued p ?_
      rw [hcontents]
      exact Multiset.mem_add.mpr (Or.inl (Multiset.mem_coe.mpr hp))
  · refine h.queued p ?_
    rw [hcontents]
    exact Multiset.mem_add.mpr (Or.inr hp)

theorem Dated.handled {es : List ProxyPoll} (h : Dated params es s) {e : ProxyPoll}
    (he : ClockIsNormal e) (hnow : e.clock = some s.lastClock) {code : ExitCode}
    (ht : Handled params e s code s') : Dated params (es ++ [e]) s' := by
  have hadopted : Dated params (es ++ [e]) (adopted s e) :=
    h.congr he (adopted_pktQueue s e) (adopted_sent s e) (adopted_lastClock s e)
  cases ht with
  | ignored _ => exact hadopted
  | failed _ => exact hadopted
  | @written direction buf _ _ =>
    refine ⟨hadopted.valid, fun w hw => ?_, hadopted.queued, hadopted.clock, hadopted.events⟩
    rcases List.mem_append.mp hw with hold | hnew
    · exact hadopted.sent w hold
    · obtain rfl := List.mem_singleton.mp hnew
      exact ⟨hadopted.clock, fun due hdue => by cases hdue⟩
  | @queued direction buf delay q hout _ _ hdelay hvalid hq =>
    refine ⟨hvalid, hadopted.sent, fun p hp => ?_, hadopted.clock, hadopted.events⟩
    dsimp only at hp
    rw [hq] at hp
    rcases Multiset.mem_cons.mp hp with rfl | hold
    · obtain ⟨addr, buf', hheard, -⟩ := madeOf_passedOn hout
      exact ⟨e, List.mem_append_right _ (List.mem_singleton_self e), s.lastClock, delay, hnow,
        by rw [hheard]; simp, hdelay, rfl⟩
    · exact (h.queued p hold).snoc e

theorem Dated.step {es : List ProxyPoll} (h : Dated params es s) {e : ProxyPoll}
    (he : ClockIsNormal e) (hstep : proxyLoop params s e = some s') :
    Dated params (es ++ [e]) s' := by
  refine proxyLoop_rule (P := fun m => Dated params es m ∧ e.clock = some m.lastClock) h.valid
    (fun _ => h.congr he rfl rfl rfl) (fun _ _ => h.congr he rfl rfl rfl)
    (fun _ => h.congr he rfl rfl rfl) (fun now m ps hnow hps _ => ?_)
    (fun m hm _ => hm.1.congr he rfl rfl rfl) (fun m hm _ => hm.1.congr he rfl rfl rfl)
    (fun m t hm _ ht => hm.1.handled he hm.2 ht) (fun m t hm _ ht => ?_) hstep
  · have hclock : m.lastClock = now := by
      rw [hps.state]
    exact ⟨h.delivered (he now hnow) hps, by rw [hnow, hclock]⟩
  · obtain ⟨hvalid, hsent, hqueued, hclock, hevents⟩ := hm.1.handled he hm.2 ht
    exact ⟨hvalid, hsent, hqueued, hclock, hevents⟩

theorem dated_of_fresh {now : Timeval} (h : s.Fresh (some now)) (hnow : now.Normal) :
    Dated params [] s := by
  refine ⟨h.valid, ?_, ?_, ?_, ?_⟩
  · simp [h.sent]
  · simp [h.queue]
  · rw [← Option.some.inj h.clock]
    exact hnow
  · simp

theorem Dated.run {es : List ProxyPoll} {s₀ : LinkSim} (h₀ : Dated params [] s₀)
    (hrun : Run (proxyLoop params) (fun _ _ e => ClockIsNormal e) s₀ es s) : Dated params es s :=
  hrun.invariant (I := fun es s => Dated params es s) h₀ fun _ _ _ _ h he hstep => h.step he hstep

/-- The dates in the queue are normal but for a carry. -/
theorem DatedBy.carry {es : List ProxyPoll} {due : Timeval} (h : DatedBy params es due)
    (hes : ∀ e ∈ es, ClockIsNormal e) : 0 ≤ due.tvUsec ∧ due.tvUsec < 1999000 := by
  obtain ⟨e, he, now, delay, hnow, -, -, rfl⟩ := h
  obtain ⟨h0, h1⟩ := hes e he now hnow
  rw [expirationDate_tvUsec]
  omega

/-- What `get_queue_timeout` makes of the date of the next packet. -/
theorem getQueueTimeout_spec {p : PktSlot} {timeout : Timeval}
    (hpeek : minqPeek s.pktQueue = some p) (hts : 0 ≤ p.ts.tvUsec ∧ p.ts.tvUsec < 1999000)
    (hclock : s.lastClock.Normal) (h : getQueueTimeout s = some timeout) :
    0 ≤ timeout.tvSec ∧ 0 ≤ timeout.tvUsec ∧ 0 < timeout.micros ∧
      (timeout = ⟨0, 1000⟩ ∨ timeout.micros = p.ts.micros - s.lastClock.micros) ∧
      (1000000 ≤ p.ts.micros - s.lastClock.micros →
        timeout.micros = p.ts.micros - s.lastClock.micros) := by
  rw [getQueueTimeout, hpeek] at h
  obtain rfl := Option.some.inj h
  obtain ⟨h0, h1⟩ := hts
  obtain ⟨h2, h3⟩ := hclock
  unfold timevalDiff Timeval.micros
  dsimp only
  by_cases hborrow : p.ts.tvUsec - s.lastClock.tvUsec < 0
  · rw [if_pos hborrow]
    by_cases hone : p.ts.tvSec - s.lastClock.tvSec - 1 ≠ 0
    · rw [if_pos hone]
      dsimp only
      split
      · exact ⟨by decide, by decide, by decide, Or.inl rfl, by omega⟩
      · rename_i hpositive
        dsimp only at hpositive ⊢
        exact ⟨by omega, by omega, by omega, Or.inr (by omega), by omega⟩
    · -- the carry that is missed: less than a second is left
      rw [if_neg hone]
      dsimp only
      rw [if_pos (by omega)]
      exact ⟨by decide, by decide, by decide, Or.inl rfl, by omega⟩
  · rw [if_neg hborrow]
    dsimp only
    split
    · exact ⟨by decide, by decide, by decide, Or.inl rfl, by omega⟩
    · rename_i hpositive
      dsimp only at hpositive ⊢
      exact ⟨by omega, by omega, by omega, Or.inr (by omega), by omega⟩

/-- **`select` waits past the next date by at most a millisecond.**  In every run in which the clock
shows less than a million microseconds, there is no time limit exactly while the queue is empty.
Otherwise the limit is a positive time, and either a millisecond or the time that is left until the
first packet of the queue is due, which it always is while that is a second or more.  The
millisecond is too long when less than that is left and `timeval_diff` misses the carry. -/
theorem link_waits (params : LinkParams) (mallocQueue : Bool)
    (mallocSlots : Option (ℕ → PktSlot)) (clock : Timeval) (hclock : clock.Normal) (s₀ : LinkSim)
    (hinit : LinkSim.init mallocQueue mallocSlots (some clock) = some s₀) (es : List ProxyPoll)
    (s : LinkSim) (hrun : Run (proxyLoop params) (fun _ _ e => ClockIsNormal e) s₀ es s) :
    (getQueueTimeout s = none ↔ s.pktQueue.contents = 0) ∧
      ∀ timeout, getQueueTimeout s = some timeout →
        ∃ p ∈ s.pktQueue.contents, (∀ p' ∈ s.pktQueue.contents, p.key ≤ p'.key) ∧
          0 ≤ timeout.tvSec ∧ 0 ≤ timeout.tvUsec ∧ 0 < timeout.micros ∧
          (timeout = ⟨0, 1000⟩ ∨ timeout.micros = p.ts.micros - s.lastClock.micros) ∧
          (1000000 ≤ p.ts.micros - s.lastClock.micros →
            timeout.micros = p.ts.micros - s.lastClock.micros) := by
  have hdated : Dated params es s := (dated_of_fresh (fresh_of_init hinit) hclock).run hrun
  constructor
  · rw [getQueueTimeout, Option.map_eq_none_iff]
    exact minqPeek_eq_none_iff
  · intro timeout htimeout
    obtain ⟨p, hpeek, -⟩ := Option.map_eq_some_iff.mp htimeout
    obtain ⟨hmem, hleast⟩ := minqPeek_spec hdated.valid hpeek
    exact ⟨p, hmem, hleast, getQueueTimeout_spec hpeek
      ((hdated.queued p hmem).carry hdated.events) hdated.clock htimeout⟩

/-- A packet that is due in a tenth of a second. -/
theorem link_waits_tenth :
    ∃ s : LinkSim, getQueueTimeout s = some ⟨0, 100000⟩ ∧ s.pktQueue.contents ≠ 0 := by
  obtain ⟨s, hrun, hview⟩ := exists_run_of_follow (proxyLoop slowLink)
    (fun _ _ e => ClockIsNormal e) startLink
    [pollAt 1 0 (.received ⟨2, 1, 0⟩ (List.replicate 10 1))] getQueueTimeout
    (show _ = some (some ⟨0, 100000⟩) by decide +kernel)
  refine ⟨s, hview, fun hempty => ?_⟩
  have hnone := (link_waits slowLink true (some emptySlots) ⟨0, 0⟩ (by decide) _ init_startLink _ s
    hrun).1.mpr hempty
  rw [hview] at hnone
  cases hnone

end TrtpNetwork
