import TrtpNetwork.Library.SortedQueue
import TrtpNetwork.Linksimulator.Expiry

/-!
# The order on the link

A direction that is not simulated is a perfect link: what is heard from its side is sent on at once,
unchanged and in this order (`link_relays`).

A simulated one keeps the order as well, if it has no jitter (`link_keepsOrder`).  All packets then
get the same delay, so a later packet has a later expiration date, carry or no carry.  That needs
two packets heard at different times: for equal dates the order is up to the heap.
-/

namespace TrtpNetwork

variable {params : LinkParams} {s s' : LinkSim}

/-- What was sent in a direction. -/
def LinkSim.sentIn (s : LinkSim) (d : Direction) : List (List UInt8) :=
  (s.sent.filter fun w => w.direction = d).map Sent.datagram

/-- The traffic of a direction. -/
def trafficIn (params : LinkParams) (es : List ProxyPoll) (d : Direction) : List (List UInt8) :=
  ((traffic params es).filter fun out => out.1 = d).map Prod.snd

/-- The packets of a direction among some packets of the queue. -/
def bufsIn (ps : List PktSlot) (d : Direction) : List (List UInt8) :=
  (ps.filter fun p => p.direction = d).map PktSlot.buf

/-- The one datagram of `out`, if it goes in the direction. -/
def outIn (out : Option (Direction × List UInt8)) (d : Direction) : List (List UInt8) :=
  (out.toList.filter fun out => out.1 = d).map Prod.snd

theorem trafficIn_snoc (es : List ProxyPoll) (e : ProxyPoll) (d : Direction) :
    trafficIn params (es ++ [e]) d =
      trafficIn params es d ++ outIn (passedOn params (sourceOf es) e) d := by
  rw [trafficIn, traffic_snoc, List.filter_append, List.map_append]
  rfl

theorem trafficIn_prefix_snoc (es : List ProxyPoll) (e : ProxyPoll) (d : Direction) :
    trafficIn params es d <+: trafficIn params (es ++ [e]) d := by
  rw [trafficIn_snoc]
  exact List.prefix_append ..

theorem Delivered.sentIn {ps : List PktSlot} (h : Delivered params s s' ps) (d : Direction) :
    s'.sentIn d = s.sentIn d ++ bufsIn ps d := by
  rw [LinkSim.sentIn, h.state]
  show ((s.sent ++ _).filter _).map _ = _
  rw [List.filter_append, List.map_append, List.filter_map, List.map_map]
  rfl

theorem sentIn_adopted (s : LinkSim) (e : ProxyPoll) (d : Direction) :
    (adopted s e).sentIn d = s.sentIn d := by
  rw [LinkSim.sentIn, adopted_sent, LinkSim.sentIn]

/-- A datagram that is sent at once. -/
theorem sentIn_written (s : LinkSim) (e : ProxyPoll) (direction d : Direction) (buf : List UInt8) :
    LinkSim.sentIn { adopted s e with
      sent := (adopted s e).sent ++ [sentFor params (adopted s e) none direction buf] } d =
      s.sentIn d ++ outIn (some (direction, buf)) d := by
  rw [LinkSim.sentIn]
  dsimp only
  rw [List.filter_append, List.map_append, adopted_sent, LinkSim.sentIn]
  congr 1
  by_cases hd : direction = d
  · simp [outIn, sentFor, hd]
  · simp [outIn, sentFor, hd]

/-! ## The direction that is not simulated -/

/-- A direction that is not simulated has nothing in the queue, and everything heard was sent. -/
structure Relays (params : LinkParams) (d : Direction) (es : List ProxyPoll) (s : LinkSim) :
    Prop where
  balanced : Balanced params es s
  queue : ∀ p ∈ s.pktQueue.contents, sameDirection p.direction params.linkDirection = true
  sent : s.running = true → s.sentIn d = trafficIn params es d

theorem bufsIn_eq_nil {ps : List PktSlot} {d : Direction}
    (h : ∀ p ∈ ps, sameDirection p.direction params.linkDirection = true)
    (hd : sameDirection d params.linkDirection = false) : bufsIn ps d = [] := by
  have hnone : ps.filter (fun p => p.direction = d) = [] := by
    refine List.filter_eq_nil_iff.mpr fun p hp hpd => ?_
    rw [← of_decide_eq_true hpd, h p hp] at hd
    cases hd
  rw [bufsIn, hnone, List.map_nil]

theorem Relays.step {d : Direction} {es : List ProxyPoll} (h : Relays params d es s)
    (hd : sameDirection d params.linkDirection = false) {e : ProxyPoll}
    (hstep : proxyLoop params s e = some s') : Relays params d (es ++ [e]) s' := by
  have hbalanced := h.balanced.step hstep
  by_cases hrunning : s.running = true
  swap
  · rw [proxyLoop, if_neg hrunning] at hstep
    obtain rfl := Option.some.inj hstep
    exact ⟨hbalanced, h.queue, fun hr => absurd hr hrunning⟩
  have hsilent : heard e = none → trafficIn params (es ++ [e]) d = trafficIn params es d := by
    intro he
    rw [trafficIn, (traffic_snoc_of_silent he).1, trafficIn]
  suffices hrest : (∀ p ∈ s'.pktQueue.contents,
      sameDirection p.direction params.linkDirection = true) ∧
      (s'.running = true → s'.sentIn d = trafficIn params (es ++ [e]) d) from
    ⟨hbalanced, hrest.1, hrest.2⟩
  obtain ⟨hvalid, -, hexact⟩ := h.balanced
  obtain ⟨-, hsource⟩ := hexact hrunning
  refine proxyLoop_rule (P := fun m => (∀ p ∈ m.pktQueue.contents,
      sameDirection p.direction params.linkDirection = true) ∧
      m.sentIn d = trafficIn params es d ∧ m.source = sourceOf es)
    (Q := fun t => (∀ p ∈ t.pktQueue.contents,
      sameDirection p.direction params.linkDirection = true) ∧
      (t.running = true → t.sentIn d = trafficIn params (es ++ [e]) d)) hvalid
    (fun hidle => ⟨h.queue, fun _ => ?_⟩) (fun _ _ => ⟨h.queue, fun hr => by cases hr⟩)
    (fun _ => ⟨h.queue, fun hr => by cases hr⟩) (fun now m ps _ hps _ => ?_)
    (fun m hm _ => ⟨hm.1, fun hr => by cases hr⟩) (fun m hm hquiet => ⟨hm.1, fun _ => ?_⟩)
    (fun m t hm _ ht => ?_) (fun m t hm _ ht => ?_) hstep
  · rcases hidle with hstopped | heintr
    · exact absurd hrunning (by simp [hstopped])
    · rw [hsilent (heard_of_not_ready (by rw [heintr]; simp))]
      exact h.sent hrunning
  · have hcontents : s.pktQueue.contents = ps + m.pktQueue.contents := hps.contents
    have hps' : ∀ p ∈ ps, sameDirection p.direction params.linkDirection = true := by
      intro p hp
      refine h.queue p ?_
      rw [hcontents]
      exact Multiset.mem_add.mpr (Or.inl (Multiset.mem_coe.mpr hp))
    refine ⟨fun p hp => h.queue p ?_, ?_, hps.frame.1.trans hsource⟩
    · rw [hcontents]
      exact Multiset.mem_add.mpr (Or.inr hp)
    · rw [hps.sentIn, bufsIn_eq_nil hps' hd, List.append_nil]
      exact h.sent hrunning
  · rw [hsilent (heard_of_not_ready (by rw [hquiet]; simp))]
    exact hm.2.1
  · obtain ⟨hqueue, hsent, hsrc⟩ := hm
    generalize hcode : ExitCode.success = code at ht
    rw [trafficIn_snoc, ← hsrc]
    cases ht with
    | ignored hout =>
      rw [adopted_pktQueue, sentIn_adopted, hsent, hout]
      exact ⟨hqueue, fun _ => (List.append_nil _).symm⟩
    | failed _ => cases hcode
    | @written direction buf hout _ =>
      rw [hout, sentIn_written, hsent]
      refine ⟨?_, fun _ => rfl⟩
      dsimp only
      rw [adopted_pktQueue]
      exact hqueue
    | @queued direction buf delay q hout hsim _ _ _ hq =>
      refine ⟨fun p hp => ?_, fun _ => ?_⟩
      · dsimp only at hp
        rw [hq] at hp
        rcases Multiset.mem_cons.mp hp with rfl | hold
        · exact hsim
        · exact hqueue p hold
      · have hne : ¬ direction = d := by
          rintro rfl
          rw [hsim] at hd
          cases hd
        have hnone : outIn (some (direction, buf)) d = [] := by
          simp [outIn, hne]
        rw [hout, hnone, List.append_nil, ← hsent]
        exact sentIn_adopted m e d
  · have hqueue : t.pktQueue = m.pktQueue := by
      cases ht with
      | failed _ => exact adopted_pktQueue m e
    refine ⟨fun p hp => hm.1 p ?_, fun hr => by cases hr⟩
    rw [← hqueue]
    exact hp

/-- **A direction that is not simulated is a perfect link.**  Whatever the options and the random
numbers are: as long as the simulator runs, what was sent in this direction is what was heard for
it, in the same order, each datagram once and unchanged. -/
theorem link_relays (params : LinkParams) (mallocQueue : Bool)
    (mallocSlots : Option (ℕ → PktSlot)) (clock : Option Timeval) (s₀ : LinkSim)
    (hinit : LinkSim.init mallocQueue mallocSlots clock = some s₀) (es : List ProxyPoll)
    (s : LinkSim) (hrun : Run (proxyLoop params) (fun _ _ _ => True) s₀ es s) (d : Direction)
    (hd : sameDirection d params.linkDirection = false) (hrunning : s.running = true) :
    s.sentIn d = trafficIn params es d ∧
      ∀ buf ∈ trafficIn params es d, ∃ e ∈ es, ∃ addr, heard e = some (addr, buf) := by
  have hfresh := fresh_of_init hinit
  have h₀ : Relays params d [] s₀ := by
    refine ⟨balanced_of_fresh hfresh, ?_, ?_⟩
    · simp [hfresh.queue]
    · simp [LinkSim.sentIn, hfresh.sent, trafficIn, traffic, trafficFrom]
  have h : Relays params d es s := by
    refine hrun.invariant (I := fun es s => Relays params d es s) h₀ ?_
    exact fun _ _ _ _ h _ hstep => h.step hd hstep
  refine ⟨h.sent hrunning, fun buf hbuf => ?_⟩
  obtain ⟨out, hout, rfl⟩ := List.mem_map.mp hbuf
  obtain ⟨hmem, hdir⟩ := List.mem_filter.mp hout
  obtain ⟨e, he, addr, buf, hheard, -, hsame⟩ := exists_madeOf hmem
  refine ⟨e, he, addr, ?_⟩
  rw [hheard, ← hsame (by rw [of_decide_eq_true hdir]; exact hd)]

/-- A datagram to the receiver is still delayed when its answer has been sent back. -/
theorem link_relays_answer :
    let es := [pollAt 1 0 (.received ⟨2, 1, 0⟩ (List.replicate 10 1)),
      pollAt 1 50000 (.received ⟨1, 12345, 0⟩ (List.replicate 10 2))]
    ∃ s : LinkSim, s.sent.map Sent.addr = [⟨2, 1, 0⟩] ∧
      s.sentIn .reverse = trafficIn slowLink es .reverse := by
  intro es
  obtain ⟨s, hrun, hview⟩ := exists_run_of_follow (proxyLoop slowLink) (fun _ _ _ => True)
    startLink es (fun s => (s.sent.map Sent.addr, s.running))
    (show _ = some ([⟨2, 1, 0⟩], true) by decide +kernel)
  obtain ⟨hsent, hrunning⟩ := Prod.mk.inj hview
  exact ⟨s, hsent, (link_relays slowLink true (some emptySlots) (some ⟨0, 0⟩) _ init_startLink es s
    hrun .reverse rfl hrunning).1⟩

/-! ## Simulating without jitter -/

theorem expirationDate_key_lt {a b : Timeval} (h : a.key < b.key) (delay : UInt32) :
    (expirationDate a delay).key < (expirationDate b delay).key := by
  rw [Timeval.key_lt_iff] at h ⊢
  unfold expirationDate
  dsimp only
  omega

theorem expirationDate_key_le {a b : Timeval} (h : a.key ≤ b.key) (delay : UInt32) :
    (expirationDate a delay).key ≤ (expirationDate b delay).key := by
  rcases h.lt_or_eq with hlt | heq
  · exact (expirationDate_key_lt hlt delay).le
  · have hab := toLex.injective heq
    obtain ⟨hsec, husec⟩ := Prod.mk.inj hab
    rw [Timeval.key_le_iff]
    unfold expirationDate
    dsimp only
    omega

/-- The clock does not go back, and has gone on since the last turn when a datagram is heard. -/
def ClockTicks (s : LinkSim) (e : ProxyPoll) : Prop :=
  ∀ now ∈ e.clock, s.lastClock.key ≤ now.key ∧ (heard e ≠ none → s.lastClock.key < now.key)

/-- The packets `ws` wait, in the order in which they came, behind those that were sent. -/
structure WaitsInOrder (params : LinkParams) (es : List ProxyPoll) (s : LinkSim)
    (ws : List PktSlot) : Prop where
  contents : (ws : Multiset PktSlot) = s.pktQueue.contents
  sorted : ws.Pairwise fun a b => a.key < b.key
  due : ∀ p ∈ ws, p.key ≤ (expirationDate s.lastClock (params.delay % 10000)).key
  simulated : ∀ p ∈ ws, sameDirection p.direction params.linkDirection = true ∧ params.delay ≠ 0
  order : ∀ d, s.sentIn d ++ bufsIn ws d = trafficIn params es d

theorem WaitsInOrder.delivered {es : List ProxyPoll} {ws : List PktSlot}
    (h : WaitsInOrder params es s ws) {now : Timeval} (hnow : s.lastClock.key ≤ now.key)
    {ps : List PktSlot} (hps : Delivered params { s with lastClock := now } s' ps) :
    ∃ rest, ws = ps ++ rest ∧ WaitsInOrder params es s' rest := by
  have hcontents : s.pktQueue.contents = ps + s'.pktQueue.contents := hps.contents
  have hclock : s'.lastClock = now := hps.frame.2.1
  obtain ⟨rest, rfl, hrest⟩ := exists_append_of_front h.sorted (h.contents.trans hcontents)
    hps.sorted hps.least
  refine ⟨rest, rfl, hrest, (List.pairwise_append.mp h.sorted).2.1, fun p hp => ?_, fun p hp => ?_,
    fun d => ?_⟩
  · rw [hclock]
    exact (h.due p (List.mem_append_right ps hp)).trans (expirationDate_key_le hnow _)
  · exact h.simulated p (List.mem_append_right ps hp)
  · have hbufs : bufsIn (ps ++ rest) d = bufsIn ps d ++ bufsIn rest d := by
      rw [bufsIn, List.filter_append, List.map_append]
      rfl
    rw [← h.order d, hbufs, hps.sentIn, List.append_assoc]
    rfl

/-- Nothing waits in a direction whose packets are sent at once. -/
theorem WaitsInOrder.bufsIn_eq_nil {es : List ProxyPoll} {ws : List PktSlot}
    (h : WaitsInOrder params es s ws) {d : Direction}
    (hd : sameDirection d params.linkDirection = true → params.delay = 0) : bufsIn ws d = [] := by
  have hnone : ws.filter (fun p => p.direction = d) = [] := by
    refine List.filter_eq_nil_iff.mpr fun p hp hpd => ?_
    obtain ⟨hsim, hlater⟩ := h.simulated p hp
    rw [of_decide_eq_true hpd] at hsim
    exact hlater (hd hsim)
  rw [bufsIn, hnone, List.map_nil]

theorem WaitsInOrder.handled (hjitter : params.jitter = 0) {es : List ProxyPoll} {ws : List PktSlot}
    (h : WaitsInOrder params es s ws) (hsource : s.source = sourceOf es) {e : ProxyPoll}
    (hdue : heard e ≠ none →
      ∀ p ∈ ws, p.key < (expirationDate s.lastClock (params.delay % 10000)).key)
    (ht : Handled params e s .success s') : ∃ ws', WaitsInOrder params (es ++ [e]) s' ws' := by
  obtain ⟨hcontents, hsorted, hdates, hsim, horder⟩ := h
  generalize hcode : ExitCode.success = code at ht
  cases ht with
  | ignored hout =>
    refine ⟨ws, ?_, hsorted, ?_, hsim, fun d => ?_⟩
    · rw [adopted_pktQueue]
      exact hcontents
    · rw [adopted_lastClock]
      exact hdates
    · rw [sentIn_adopted, horder, trafficIn_snoc, ← hsource, hout]
      exact (List.append_nil _).symm
  | failed _ => cases hcode
  | @written direction buf hout hnow =>
    refine ⟨ws, ?_, hsorted, ?_, hsim, fun d => ?_⟩
    · dsimp only
      rw [adopted_pktQueue]
      exact hcontents
    · dsimp only
      rw [adopted_lastClock]
      exact hdates
    · rw [sentIn_written, trafficIn_snoc, ← hsource, hout, ← horder]
      by_cases hd : direction = d
      · -- whatever is sent at once has nothing in front of it
        subst hd
        have hnone := WaitsInOrder.bufsIn_eq_nil ⟨hcontents, hsorted, hdates, hsim, horder⟩ hnow
        rw [hnone, List.append_nil, List.append_nil]
      · have hother : outIn (some (direction, buf)) d = [] := by
          simp [outIn, hd]
        rw [hother, List.append_nil, List.append_nil]
  | @queued direction buf delay q hout hsimulated hlater hdelay _ hq =>
    obtain rfl := (appliedDelay_spec hdelay).2 hjitter
    have hheard : heard e ≠ none := by
      obtain ⟨addr, buf', hheard, -⟩ := madeOf_passedOn hout
      rw [hheard]
      simp
    refine ⟨ws ++ [⟨expirationDate s.lastClock (params.delay % 10000), direction, buf⟩], ?_, ?_,
      fun p hp => ?_, fun p hp => ?_, fun d => ?_⟩
    · dsimp only
      rw [hq, ← hcontents, Multiset.cons_coe]
      exact Multiset.coe_eq_coe.mpr (List.perm_append_singleton _ _)
    · rw [List.pairwise_append]
      refine ⟨hsorted, List.pairwise_singleton _ _, fun p hp p' hp' => ?_⟩
      obtain rfl := List.mem_singleton.mp hp'
      exact hdue hheard p hp
    · dsimp only
      rw [adopted_lastClock]
      rcases List.mem_append.mp hp with hold | hnew
      · exact hdates p hold
      · obtain rfl := List.mem_singleton.mp hnew
        exact le_refl _
    · rcases List.mem_append.mp hp with hold | hnew
      · exact hsim p hold
      · obtain rfl := List.mem_singleton.mp hnew
        exact ⟨hsimulated, hlater⟩
    · have hsent : LinkSim.sentIn { adopted s e with pktQueue := q } d = s.sentIn d :=
        sentIn_adopted s e d
      have hbufs : bufsIn (ws ++ [⟨expirationDate s.lastClock (params.delay % 10000), direction,
          buf⟩]) d = bufsIn ws d ++ outIn (some (direction, buf)) d := by
        rw [bufsIn, List.filter_append, List.map_append]
        by_cases hd : direction = d
        · simp [bufsIn, outIn, hd]
        · simp [bufsIn, outIn, hd]
      rw [hsent, hbufs, ← List.append_assoc, horder, trafficIn_snoc, ← hsource, hout]

/-- What holds behind a run: the order as long as the loop goes on, and no wrong order later. -/
structure ForwardsInOrder (params : LinkParams) (es : List ProxyPoll) (s : LinkSim) : Prop where
  balanced : Balanced params es s
  waiting : s.running = true → ∃ ws, WaitsInOrder params es s ws
  front : ∀ d, s.sentIn d <+: trafficIn params es d

theorem WaitsInOrder.front {es : List ProxyPoll} {ws : List PktSlot}
    (h : WaitsInOrder params es s ws) (d : Direction) : s.sentIn d <+: trafficIn params es d := by
  rw [← h.order d]
  exact List.prefix_append ..

theorem ForwardsInOrder.step (hjitter : params.jitter = 0) {es : List ProxyPoll}
    (h : ForwardsInOrder params es s) {e : ProxyPoll} (hticks : ClockTicks s e)
    (hstep : proxyLoop params s e = some s') : ForwardsInOrder params (es ++ [e]) s' := by
  have hbalanced := h.balanced.step hstep
  by_cases hrunning : s.running = true
  swap
  · rw [proxyLoop, if_neg hrunning] at hstep
    obtain rfl := Option.some.inj hstep
    exact ⟨hbalanced, fun hr => absurd hr hrunning,
      fun d => (h.front d).trans (trafficIn_prefix_snoc es e d)⟩
  obtain ⟨ws, hws⟩ := h.waiting hrunning
  have hsource := (h.balanced.exact hrunning).2
  have hsilent : ∀ {m ws}, heard e = none → WaitsInOrder params es m ws →
      WaitsInOrder params (es ++ [e]) m ws := by
    intro m ws he hm
    refine ⟨hm.contents, hm.sorted, hm.due, hm.simulated, fun d => ?_⟩
    rw [hm.order, trafficIn, trafficIn, (traffic_snoc_of_silent he).1]
  have hstopped : ∀ {m : LinkSim}, (∀ d, m.sentIn d <+: trafficIn params es d) →
      (m.running = true → ∃ ws, WaitsInOrder params (es ++ [e]) m ws) →
      (m.running = true → ∃ ws, WaitsInOrder params (es ++ [e]) m ws) ∧
        ∀ d, m.sentIn d <+: trafficIn params (es ++ [e]) d :=
    fun hfront hrun => ⟨hrun, fun d => (hfront d).trans (trafficIn_prefix_snoc es e d)⟩
  suffices hrest : (s'.running = true → ∃ ws, WaitsInOrder params (es ++ [e]) s' ws) ∧
      ∀ d, s'.sentIn d <+: trafficIn params (es ++ [e]) d from ⟨hbalanced, hrest.1, hrest.2⟩
  refine proxyLoop_rule (P := fun m => m.source = sourceOf es ∧ ∃ ws, WaitsInOrder params es m ws ∧
      (heard e ≠ none →
        ∀ p ∈ ws, p.key < (expirationDate m.lastClock (params.delay % 10000)).key))
    (Q := fun t => (t.running = true → ∃ ws, WaitsInOrder params (es ++ [e]) t ws) ∧
      ∀ d, t.sentIn d <+: trafficIn params (es ++ [e]) d) h.balanced.valid
    (fun hidle => ?_) (fun _ _ => hstopped h.front fun hr => by cases hr)
    (fun _ => hstopped h.front fun hr => by cases hr) (fun now m ps hnow hps _ => ?_)
    (fun m hm _ => ?_) (fun m hm hquiet => ?_) (fun m t hm _ ht => ?_) (fun m t hm _ ht => ?_) hstep
  · rcases hidle with hidle | heintr
    · exact absurd hrunning (by simp [hidle])
    · have hws' := hsilent (heard_of_not_ready (by rw [heintr]; simp)) hws
      exact ⟨fun _ => ⟨ws, hws'⟩, hws'.front⟩
  · obtain ⟨hle, hlt⟩ := hticks now hnow
    have hclock : m.lastClock = now := hps.frame.2.1
    obtain ⟨rest, rfl, hrest⟩ := hws.delivered hle hps
    refine ⟨hps.frame.1.trans hsource, rest, hrest, fun hheard p hp => ?_⟩
    rw [hclock]
    exact (hws.due p (List.mem_append_right ps hp)).trans_lt
      (expirationDate_key_lt (hlt hheard) _)
  · obtain ⟨-, ws, hws, -⟩ := hm
    exact hstopped hws.front fun hr => by cases hr
  · obtain ⟨-, ws, hws, -⟩ := hm
    have hws' := hsilent (heard_of_not_ready (by rw [hquiet]; simp)) hws
    exact ⟨fun _ => ⟨ws, hws'⟩, hws'.front⟩
  · obtain ⟨hsource', ws, hws, hdue⟩ := hm
    obtain ⟨ws', hws'⟩ := hws.handled hjitter hsource' hdue ht
    exact ⟨fun _ => ⟨ws', hws'⟩, hws'.front⟩
  · obtain ⟨-, ws, hws, -⟩ := hm
    have hsent : ∀ d, t.sentIn d = m.sentIn d := by
      cases ht with
      | failed _ => exact fun d => sentIn_adopted m e d
    refine hstopped (fun d => ?_) fun hr => by cases hr
    show t.sentIn d <+: _
    rw [hsent]
    exact hws.front d

theorem forwardsInOrder_of_fresh {clock : Option Timeval} (h : s.Fresh clock) :
    ForwardsInOrder params [] s := by
  have hsent : ∀ d, s.sentIn d = [] := fun d => by
    rw [LinkSim.sentIn, h.sent]
    rfl
  refine ⟨balanced_of_fresh h, fun _ => ⟨[], h.queue.symm, List.Pairwise.nil, ?_, ?_, ?_⟩, ?_⟩
  · simp
  · simp
  · intro d
    rw [hsent]
    rfl
  · intro d
    rw [hsent]
    exact List.nil_prefix

theorem ForwardsInOrder.run (hjitter : params.jitter = 0) {es : List ProxyPoll} {s₀ : LinkSim}
    (h₀ : ForwardsInOrder params [] s₀)
    (hrun : Run (proxyLoop params) (fun _ s e => ClockTicks s e) s₀ es s) :
    ForwardsInOrder params es s := by
  refine hrun.invariant (I := fun es s => ForwardsInOrder params es s) h₀ ?_
  exact fun _ _ _ _ h hticks hstep => h.step hjitter hticks hstep

/-- With an empty queue nothing waits. -/
theorem ForwardsInOrder.sentIn_eq {es : List ProxyPoll} (h : ForwardsInOrder params es s)
    (hrunning : s.running = true) (hempty : s.pktQueue.contents = 0) (d : Direction) :
    s.sentIn d = trafficIn params es d := by
  obtain ⟨ws, hws⟩ := h.waiting hrunning
  have hnil : ws = [] := by
    rw [← Multiset.coe_eq_zero, hws.contents, hempty]
  rw [← hws.order d, hnil]
  exact (List.append_nil _).symm

/-- **Without jitter the link keeps the order.**  In every run with no jitter and a clock that has
gone on whenever a datagram is heard, and whatever else is simulated, what was sent in a direction
is the front of the traffic in this direction, and all of it when the queue is empty while the loop
runs. -/
theorem link_keepsOrder (params : LinkParams) (hjitter : params.jitter = 0) (mallocQueue : Bool)
    (mallocSlots : Option (ℕ → PktSlot)) (clock : Option Timeval) (s₀ : LinkSim)
    (hinit : LinkSim.init mallocQueue mallocSlots clock = some s₀) (es : List ProxyPoll)
    (s : LinkSim) (hrun : Run (proxyLoop params) (fun _ s e => ClockTicks s e) s₀ es s)
    (d : Direction) :
    s.sentIn d <+: trafficIn params es d ∧
      (s.running = true → s.pktQueue.contents = 0 → s.sentIn d = trafficIn params es d) := by
  have h : ForwardsInOrder params es s :=
    (forwardsInOrder_of_fresh (fresh_of_init hinit)).run hjitter hrun
  exact ⟨h.front d, fun hrunning hempty => h.sentIn_eq hrunning hempty d⟩

instance (s : LinkSim) (e : ProxyPoll) : Decidable (ClockTicks s e) := by
  unfold ClockTicks
  infer_instance

/-- Two datagrams that were sent on in the order they came in. -/
theorem link_keepsOrder_two :
    let es := [pollAt 1 0 (.received ⟨2, 1, 0⟩ (List.replicate 10 1)),
      pollAt 1 1 (.received ⟨2, 1, 0⟩ (List.replicate 10 2)), pollAt 2 0 (.error .eagain)]
    ∃ s : LinkSim, s.sentIn .forward = [List.replicate 10 1, List.replicate 10 2] ∧
      s.sentIn .forward <+: trafficIn slowLink es .forward := by
  intro es
  obtain ⟨s, hrun, hview⟩ := exists_run_of_follow (proxyLoop slowLink)
    (fun _ s e => ClockTicks s e) startLink es (fun s => s.sentIn .forward)
    (show _ = some [List.replicate 10 1, List.replicate 10 2] by decide +kernel)
  exact ⟨s, hview, (link_keepsOrder slowLink rfl true (some emptySlots) (some ⟨0, 0⟩) _
    init_startLink es s hrun .forward).1⟩

end TrtpNetwork
