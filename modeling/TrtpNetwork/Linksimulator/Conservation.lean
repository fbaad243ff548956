import TrtpNetwork.Library.Runs
import TrtpNetwork.Linksimulator.Steps
import Mathlib.Algebra.Order.Group.Multiset

/-!
# What goes in and what comes out

`traffic` is what the link makes of all the datagrams heard in a run, in the order they were heard
in.  As long as the simulator runs, each of these was sent once or is in the queue, and nothing else
was or is (`link_conserves`); when it stops on a failed call, the datagram of that turn is lost, and
no other.  And each is made of a datagram of its own: the same, or in a direction that is simulated
the header of a data packet with the TR bit set, or the datagram with one byte inverted.
-/

namespace TrtpNetwork

variable {params : LinkParams} {s s' : LinkSim}

/-! ## Traffic -/

/-- What the link makes of the datagrams of some turns. -/
def trafficFrom (params : LinkParams) :
    Option SockaddrIn6 → List ProxyPoll → List (Direction × List UInt8)
  | _, [] => []
  | source, e :: es =>
    (passedOn params source e).toList ++ trafficFrom params (sourceAfter source e) es

/-- What the link makes of the datagrams of a run. -/
def traffic (params : LinkParams) (es : List ProxyPoll) : List (Direction × List UInt8) :=
  trafficFrom params none es

/-- The source behind a run. -/
def sourceOf (es : List ProxyPoll) : Option SockaddrIn6 := es.foldl sourceAfter none

theorem sourceOf_snoc (es : List ProxyPoll) (e : ProxyPoll) :
    sourceOf (es ++ [e]) = sourceAfter (sourceOf es) e := by
  rw [sourceOf, List.foldl_append]
  rfl

theorem trafficFrom_snoc (source : Option SockaddrIn6) (es : List ProxyPoll) (e : ProxyPoll) :
    trafficFrom params source (es ++ [e]) =
      trafficFrom params source es ++ (passedOn params (es.foldl sourceAfter source) e).toList := by
  induction es generalizing source with
  | nil => simp [trafficFrom]
  | cons e' es ih =>
    rw [List.cons_append, trafficFrom, ih, trafficFrom, List.append_assoc]
    rfl

/-- One turn more. -/
theorem traffic_snoc (es : List ProxyPoll) (e : ProxyPoll) :
    traffic params (es ++ [e]) = traffic params es ++ (passedOn params (sourceOf es) e).toList :=
  trafficFrom_snoc none es e

/-! ## One datagram -/

/-- What a simulated link may turn a datagram into. -/
inductive Altered (buf : List UInt8) : List UInt8 → Prop
  | unchanged : Altered buf buf
  | truncated (hlen : minPktPdataLen < buf.length) (htype : buf.headD 0 >>> 6 = 1) :
      Altered buf ((buf.take minPktPdataLen).modify 0 fun b => b ||| 0x20)
  | inverted {i : ℕ} (hi : i < buf.length) : Altered buf (buf.modify i fun b => ~~~b)

theorem altered_mangle (params : LinkParams) (draws : Draws) {buf : List UInt8}
    (hbuf : 0 < buf.length) : Altered buf (mangle params draws buf) := by
  unfold mangle
  split
  · rename_i hcut
    exact Altered.truncated hcut.2.2.1 hcut.2.2.2
  · split
    · exact Altered.inverted (Nat.mod_lt _ hbuf)
    · exact Altered.unchanged

/-- What is sent on is no shorter than a packet and fits in the slot of a packet. -/
theorem Altered.length {buf out : List UInt8} (h : Altered buf out) (hmin : minPktLen ≤ buf.length)
    (hmax : buf.length ≤ maxPktLen) : minPktLen ≤ out.length ∧ out.length ≤ maxPktLen := by
  cases h with
  | unchanged => exact ⟨hmin, hmax⟩
  | truncated hlen _ =>
    rw [List.length_modify, List.length_take]
    unfold minPktLen minPktPdataLen maxPktLen at *
    omega
  | inverted _ =>
    rw [List.length_modify]
    exact ⟨hmin, hmax⟩

/-- The link made `out` of the datagram of this turn. -/
def MadeOf (params : LinkParams) (e : ProxyPoll) (out : Direction × List UInt8) : Prop :=
  ∃ addr buf, heard e = some (addr, buf) ∧ Altered buf out.2 ∧
    (sameDirection out.1 params.linkDirection = false → out.2 = buf)

theorem length_heard {e : ProxyPoll} {addr : SockaddrIn6} {buf : List UInt8}
    (h : heard e = some (addr, buf)) : minPktLen ≤ buf.length ∧ buf.length ≤ maxPktLen := by
  unfold heard at h
  split at h
  · split at h
    · cases h
    · rename_i hlen
      obtain ⟨-, rfl⟩ := Prod.mk.inj (Option.some.inj h)
      exact ⟨by omega, List.length_take_le ..⟩
  · cases h

/-- **What is passed on** was heard, goes the way its address says, and is altered in a direction
that is simulated only. -/
theorem heard_of_passedOn {source : Option SockaddrIn6} {e : ProxyPoll} {direction : Direction}
    {out : List UInt8} (h : passedOn params source e = some (direction, out)) :
    ∃ addr buf src, heard e = some (addr, buf) ∧ sourceAfter source e = some src ∧
      directionOf params src addr = some direction ∧ Altered buf out ∧
      (sameDirection direction params.linkDirection = false → out = buf) := by
  unfold passedOn at h
  obtain ⟨⟨addr, buf⟩, hheard, h⟩ := Option.bind_eq_some_iff.mp h
  obtain ⟨src, hsrc, h⟩ := Option.bind_eq_some_iff.mp h
  obtain ⟨direction', hdirection, h⟩ := Option.bind_eq_some_iff.mp h
  refine ⟨addr, buf, src, hheard, hsrc, ?_⟩
  have hpos : 0 < buf.length := lt_of_lt_of_le (by decide) (length_heard hheard).1
  split at h
  · rename_i hsim
    split at h
    · cases h
    · obtain ⟨rfl, rfl⟩ := Prod.mk.inj (Option.some.inj h)
      exact ⟨hdirection, altered_mangle params e.draws hpos,
        fun hno => by rw [hsim] at hno; cases hno⟩
  · obtain ⟨rfl, rfl⟩ := Prod.mk.inj (Option.some.inj h)
    exact ⟨hdirection, Altered.unchanged, fun _ => rfl⟩

theorem madeOf_passedOn {source : Option SockaddrIn6} {e : ProxyPoll}
    {out : Direction × List UInt8} (h : passedOn params source e = some out) :
    MadeOf params e out := by
  obtain ⟨addr, buf, -, hheard, -, -, haltered, hsame⟩ := heard_of_passedOn h
  exact ⟨addr, buf, hheard, haltered, hsame⟩

/-- **Each datagram of the traffic has a turn of its own** in which it was heard. -/
theorem traffic_madeOf (params : LinkParams) (source : Option SockaddrIn6) (es : List ProxyPoll) :
    ∃ used, used.Sublist es ∧ List.Forall₂ (MadeOf params) used (trafficFrom params source es) := by
  induction es generalizing source with
  | nil => exact ⟨[], List.Sublist.refl [], List.Forall₂.nil⟩
  | cons e es ih =>
    obtain ⟨used, hused, hmade⟩ := ih (sourceAfter source e)
    rw [trafficFrom]
    cases hout : passedOn params source e with
    | none => exact ⟨used, hused.cons e, hmade⟩
    | some out =>
      exact ⟨e :: used, hused.cons_cons e, List.Forall₂.cons (madeOf_passedOn hout) hmade⟩

/-- Each datagram of the traffic was made of one that was heard. -/
theorem exists_madeOf {source : Option SockaddrIn6} {es : List ProxyPoll}
    {out : Direction × List UInt8} (h : out ∈ trafficFrom params source es) :
    ∃ e ∈ es, MadeOf params e out := by
  induction es generalizing source with
  | nil => exact absurd h List.not_mem_nil
  | cons e es ih =>
    rw [trafficFrom] at h
    rcases List.mem_append.mp h with hnow | hlater
    · exact ⟨e, List.mem_cons_self, madeOf_passedOn (Option.mem_toList.mp hnow)⟩
    · obtain ⟨e', he', hmade⟩ := ih hlater
      exact ⟨e', List.mem_cons_of_mem e he', hmade⟩

/-! ## The balance -/

/-- The datagrams that were sent, and those that are in the queue. -/
def LinkSim.outgoing (s : LinkSim) : Multiset (Direction × List UInt8) :=
  (s.sent.map fun w => (w.direction, w.datagram) : List (Direction × List UInt8)) +
    s.pktQueue.contents.map fun p => (p.direction, p.buf)

/-- Delivering moves packets out of the queue, and makes or loses none. -/
theorem Delivered.outgoing {ps : List PktSlot} (h : Delivered params s s' ps) :
    s'.outgoing = s.outgoing := by
  have hsent : s'.sent =
      s.sent ++ ps.map fun p => sentFor params s (some p.ts) p.direction p.buf := by
    rw [h.state]
  rw [LinkSim.outgoing, LinkSim.outgoing, hsent, h.contents, List.map_append, List.map_map,
    Multiset.map_add, Multiset.map_coe, ← Multiset.coe_add, Multiset.add_assoc]
  rfl

/-- The other variables. -/
theorem Delivered.frame {ps : List PktSlot} (h : Delivered params s s' ps) :
    s'.source = s.source ∧ s'.lastClock = s.lastClock ∧ s'.running = s.running := by
  rw [h.state]
  exact ⟨rfl, rfl, rfl⟩

theorem adopted_outgoing (s : LinkSim) (e : ProxyPoll) : (adopted s e).outgoing = s.outgoing := by
  rw [LinkSim.outgoing, adopted_sent, adopted_pktQueue, LinkSim.outgoing]

/-- **A datagram adds what the link makes of it.** -/
theorem Handled.outgoing {e : ProxyPoll} (h : Handled params e s .success s') :
    s'.outgoing = s.outgoing +
      ((passedOn params s.source e).toList : Multiset (Direction × List UInt8)) := by
  generalize hcode : ExitCode.success = code at h
  cases h with
  | ignored hout =>
    rw [hout, adopted_outgoing]
    simp
  | failed _ => cases hcode
  | @written direction buf hout _ =>
    have hsent : LinkSim.outgoing { adopted s e with
        sent := (adopted s e).sent ++ [sentFor params (adopted s e) none direction buf] } =
        (adopted s e).outgoing + {(direction, buf)} := by
      simp only [LinkSim.outgoing, List.map_append, ← Multiset.coe_add, List.map_cons,
        List.map_nil, Multiset.coe_singleton]
      rw [add_right_comm]
      rfl
    rw [hsent, adopted_outgoing, hout]
    rfl
  | @queued direction buf delay q hout _ _ _ _ hq =>
    rw [LinkSim.outgoing]
    dsimp only
    rw [hq, adopted_sent, Multiset.map_cons, hout, ← Multiset.singleton_add, LinkSim.outgoing,
      add_left_comm, add_comm]
    rfl

theorem Handled.valid {e : ProxyPoll} {code : ExitCode} (hvalid : s.pktQueue.Valid PktSlot.key)
    (h : Handled params e s code s') : s'.pktQueue.Valid PktSlot.key := by
  have hadopted : (adopted s e).pktQueue.Valid PktSlot.key := by
    rw [adopted_pktQueue]
    exact hvalid
  cases h with
  | ignored _ => exact hadopted
  | failed _ => exact hadopted
  | written _ _ => exact hadopted
  | queued _ _ _ _ hq _ => exact hq

theorem Handled.source {e : ProxyPoll} {code : ExitCode} (h : Handled params e s code s') :
    s'.source = sourceAfter s.source e := by
  have hadopted := source_adopted s e
  cases h with
  | ignored _ => exact hadopted
  | failed _ => exact hadopted
  | written _ _ => exact hadopted
  | queued _ _ _ _ _ _ => exact hadopted

theorem Handled.outgoing_of_failure {e : ProxyPoll} (h : Handled params e s .failure s') :
    s'.outgoing = s.outgoing := by
  cases h with
  | failed _ => exact adopted_outgoing s e

theorem heard_of_not_ready {e : ProxyPoll} (h : e.select ≠ .ready true) : heard e = none := by
  unfold heard
  split
  · rename_i hselect _
    exact absurd hselect h
  · rfl

/-! ## One turn -/

/-- What a turn adds to what is going out, which is lost if the turn fails, and whom it takes for
the source. -/
structure TurnAdds (params : LinkParams) (e : ProxyPoll) (s s' : LinkSim) : Prop where
  valid : s'.pktQueue.Valid PktSlot.key
  bounded : s'.outgoing ≤ s.outgoing +
    ((passedOn params s.source e).toList : Multiset (Direction × List UInt8))
  source : s'.source = s.source ∨ s'.source = sourceAfter s.source e
  exact : s.running = true → s'.running = true → s'.outgoing = s.outgoing +
    ((passedOn params s.source e).toList : Multiset (Direction × List UInt8)) ∧
      s'.source = sourceAfter s.source e

/-- Nothing is added, and the loop stops or nothing was heard. -/
theorem TurnAdds.same {e : ProxyPoll} (hvalid : s'.pktQueue.Valid PktSlot.key)
    (hout : s'.outgoing = s.outgoing) (hsource : s'.source = s.source)
    (hsilent : s.running = true → s'.running = true → heard e = none) :
    TurnAdds params e s s' where
  valid := hvalid
  bounded := hout.le.trans (Multiset.le_add_right ..)
  source := Or.inl hsource
  exact := by
    intro hrunning hrunning'
    have hnone := hsilent hrunning hrunning'
    rw [passedOn, sourceAfter, hnone, hout, hsource]
    simp

/-- **What a turn adds.** -/
theorem turnAdds_of_proxyLoop (hvalid : s.pktQueue.Valid PktSlot.key) {e : ProxyPoll}
    (h : proxyLoop params s e = some s') : TurnAdds params e s s' := by
  refine proxyLoop_rule (P := fun m => m.pktQueue.Valid PktSlot.key ∧ m.outgoing = s.outgoing ∧
      m.source = s.source) (Q := TurnAdds params e s) hvalid
    (fun hidle => TurnAdds.same hvalid rfl rfl fun hr _ => ?_)
    (fun _ _ => TurnAdds.same hvalid rfl rfl fun _ hr => by cases hr)
    (fun _ => TurnAdds.same hvalid rfl rfl fun _ hr => by cases hr) (fun now m ps _ hps _ => ?_)
    (fun m hm _ => TurnAdds.same hm.1 hm.2.1 hm.2.2 fun _ hr => by cases hr)
    (fun m hm hquiet => TurnAdds.same hm.1 hm.2.1 hm.2.2 fun _ _ => ?_)
    (fun m t hm _ ht => ?_) (fun m t hm _ ht => ?_) h
  · rcases hidle with hstopped | heintr
    · exact absurd hr (by simp [hstopped])
    · exact heard_of_not_ready (by rw [heintr]; simp)
  · exact ⟨hps.valid, hps.outgoing, hps.frame.1⟩
  · exact heard_of_not_ready (by rw [hquiet]; simp)
  · obtain ⟨hv, hout, hsource⟩ := hm
    have hadded : t.outgoing = s.outgoing +
        ((passedOn params s.source e).toList : Multiset (Direction × List UInt8)) := by
      rw [ht.outgoing, hout, hsource]
    have hadopted : t.source = sourceAfter s.source e := by rw [ht.source, hsource]
    exact ⟨ht.valid hv, hadded.le, Or.inr hadopted, fun _ _ => ⟨hadded, hadopted⟩⟩
  · -- the datagram is lost, everything else is where it was
    obtain ⟨hv, hout, hsource⟩ := hm
    have hlost : t.outgoing ≤ s.outgoing +
        ((passedOn params s.source e).toList : Multiset (Direction × List UInt8)) := by
      rw [ht.outgoing_of_failure, hout]
      exact Multiset.le_add_right ..
    have hadopted : t.source = sourceAfter s.source e := by rw [ht.source, hsource]
    have hvalid' := ht.valid hv
    exact ⟨hvalid', hlost, Or.inr hadopted, fun _ hr => by cases hr⟩

/-! ## Runs -/

/-- What holds behind a run: the balance, as long as the loop goes on, and one side of it later. -/
structure Balanced (params : LinkParams) (es : List ProxyPoll) (s : LinkSim) : Prop where
  valid : s.pktQueue.Valid PktSlot.key
  bounded : s.outgoing ≤ (traffic params es : Multiset (Direction × List UInt8))
  exact : s.running = true →
    s.outgoing = (traffic params es : Multiset (Direction × List UInt8)) ∧
      s.source = sourceOf es

theorem balanced_of_fresh {clock : Option Timeval} (h : s.Fresh clock) :
    Balanced params [] s := by
  have hempty : s.outgoing = 0 := by
    rw [LinkSim.outgoing, h.sent, h.queue]
    rfl
  exact ⟨h.valid, by rw [hempty]; exact Multiset.zero_le _,
    fun _ => ⟨by rw [hempty]; rfl, h.source⟩⟩

/-- A turn in which nothing is heard adds nothing to the traffic. -/
theorem traffic_snoc_of_silent {es : List ProxyPoll} {e : ProxyPoll} (h : heard e = none) :
    traffic params (es ++ [e]) = traffic params es ∧ sourceOf (es ++ [e]) = sourceOf es := by
  rw [traffic_snoc, sourceOf_snoc, passedOn, sourceAfter, h]
  simp

theorem traffic_le_snoc (es : List ProxyPoll) (e : ProxyPoll) :
    (traffic params es : Multiset (Direction × List UInt8)) ≤ traffic params (es ++ [e]) := by
  rw [traffic_snoc, ← Multiset.coe_add]
  exact Multiset.le_add_right ..

/-- **One turn.** -/
theorem Balanced.step {es : List ProxyPoll} (h : Balanced params es s) {e : ProxyPoll}
    (hstep : proxyLoop params s e = some s') : Balanced params (es ++ [e]) s' := by
  have hturn := turnAdds_of_proxyLoop h.valid hstep
  by_cases hrunning : s.running = true
  · obtain ⟨hbalance, hsource⟩ := h.exact hrunning
    have htraffic : (traffic params (es ++ [e]) : Multiset (Direction × List UInt8)) =
        s.outgoing + ((passedOn params s.source e).toList : Multiset (Direction × List UInt8)) := by
      rw [traffic_snoc, ← Multiset.coe_add, ← hbalance, ← hsource]
    refine ⟨hturn.valid, htraffic ▸ hturn.bounded, fun hr => ?_⟩
    obtain ⟨hout, hafter⟩ := hturn.exact hrunning hr
    rw [htraffic, sourceOf_snoc, ← hsource]
    exact ⟨hout, hafter⟩
  · rw [proxyLoop, if_neg hrunning] at hstep
    obtain rfl := Option.some.inj hstep
    exact ⟨h.valid, h.bounded.trans (traffic_le_snoc es e), fun hr => absurd hr hrunning⟩

theorem Balanced.run {es : List ProxyPoll} {s₀ : LinkSim} (h₀ : Balanced params [] s₀)
    (hrun : Run (proxyLoop params) (fun _ _ _ => True) s₀ es s) : Balanced params es s :=
  hrun.invariant (I := fun es s => Balanced params es s) h₀
    fun _ _ _ _ h _ hstep => h.step hstep

/-- **The link conserves datagrams.**  In every run, whatever the options, the random numbers and
the results of all calls are: what was sent and what is queued is the traffic, each datagram of it
once, while the simulator runs, and at most that when it has stopped.  Each datagram of the traffic
was made of one that was heard in a turn of its own, and has between 10 and 528 bytes. -/
theorem link_conserves (params : LinkParams) (mallocQueue : Bool)
    (mallocSlots : Option (ℕ → PktSlot)) (clock : Option Timeval) (s₀ : LinkSim)
    (hinit : LinkSim.init mallocQueue mallocSlots clock = some s₀) (es : List ProxyPoll)
    (s : LinkSim) (hrun : Run (proxyLoop params) (fun _ _ _ => True) s₀ es s) :
    s.outgoing ≤ (traffic params es : Multiset (Direction × List UInt8)) ∧
      (s.running = true →
        s.outgoing = (traffic params es : Multiset (Direction × List UInt8))) ∧
      (∃ used, used.Sublist es ∧ List.Forall₂ (MadeOf params) used (traffic params es)) ∧
      ∀ out ∈ traffic params es, minPktLen ≤ out.2.length ∧ out.2.length ≤ maxPktLen := by
  have h : Balanced params es s := (balanced_of_fresh (fresh_of_init hinit)).run hrun
  obtain ⟨used, hused, hmade⟩ := traffic_madeOf params none es
  refine ⟨h.bounded, fun hr => (h.exact hr).1, ⟨used, hused, hmade⟩, fun out hout => ?_⟩
  obtain ⟨e, -, addr, buf, hheard, haltered, -⟩ := exists_madeOf hout
  obtain ⟨hmin, hmax⟩ := length_heard hheard
  exact haltered.length hmin hmax

/-- A link that delays what goes forward by 100 milliseconds, to a port of the same machine. -/
def slowLink : LinkParams where
  delay := 100
  jitter := 0
  errRate := 0
  cutRate := 0
  lossRate := 0
  linkDirection := .forward
  destAddr := ⟨1, 12345, 0⟩

/-- A turn at a time, in which no call fails, no random number is high, and this is received. -/
def pollAt (tvSec tvUsec : ℤ) (recvfrom : RecvResult) : ProxyPoll where
  select := .ready true
  clock := some ⟨tvSec, tvUsec⟩
  sendDelayed := fun _ => none
  recvfrom := recvfrom
  sendNow := none
  draws := ⟨0, 0, 0, 0, 0⟩
  malloc := true
  realloc := none

/-- A queue in which nothing was ever stored. -/
def emptySlots : ℕ → PktSlot := fun _ => ⟨⟨0, 0⟩, .forward, []⟩

/-- The simulator at time 0. -/
def startLink : LinkSim where
  pktQueue := { cmp := pktSlotCmp, size := 0, alloc := slotsPerMalloc, e := emptySlots }
  lastClock := ⟨0, 0⟩
  hasSourceAddr := false
  srcAddr := ⟨0, 0, 0⟩
  sent := []
  running := true

theorem init_startLink : LinkSim.init true (some emptySlots) (some ⟨0, 0⟩) = some startLink := rfl

/-- Two datagrams of ten bytes: the first was sent when the second came, which is queued. -/
theorem link_conserves_two :
    let es := [pollAt 1 0 (.received ⟨2, 1, 0⟩ (List.replicate 10 1)),
      pollAt 2 0 (.received ⟨2, 1, 0⟩ (List.replicate 10 2))]
    ∃ s : LinkSim, s.sent.map Sent.datagram = [List.replicate 10 1] ∧ s.running = true ∧
      s.outgoing = (traffic slowLink es : Multiset (Direction × List UInt8)) := by
  intro es
  obtain ⟨s, hrun, hview⟩ := exists_run_of_follow (proxyLoop slowLink) (fun _ _ _ => True)
    startLink es (fun s => (s.sent.map Sent.datagram, s.running))
    (show _ = some ([List.replicate 10 1], true) by decide +kernel)
  obtain ⟨hsent, hrunning⟩ := Prod.mk.inj hview
  exact ⟨s, hsent, hrunning, (link_conserves slowLink true (some emptySlots) (some ⟨0, 0⟩) _
    init_startLink es s hrun).2.1 hrunning⟩

end TrtpNetwork
