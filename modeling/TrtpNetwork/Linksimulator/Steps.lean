import TrtpNetwork.Linksimulator.LinkSim
import Mathlib.Data.Prod.Lex

/-!
# What one turn of the link simulator does

`Delivered` is what the loop over the expired packets does to the state, and
`processIncomingPkt_cases` lists what becomes of a datagram.  `passedOn` is the link as its users
see it: the datagram that the link makes of the one it hears in a turn, if it makes one of it, in
which nothing is said about when it is sent.  The two are put together in `proxyLoop_rule`, from
which the later modules have everything they know of a turn.
-/

namespace TrtpNetwork

/-! ## The order of expiration -/

/-- A time as a pair in lexicographic order. -/
def Timeval.key (t : Timeval) : ℤ ×ₗ ℤ := toLex (t.tvSec, t.tvUsec)

/-- The key the packets are queued by. -/
def PktSlot.key (p : PktSlot) : ℤ ×ₗ ℤ := p.ts.key

theorem Timeval.key_lt_iff {a b : Timeval} :
    a.key < b.key ↔ a.tvSec < b.tvSec ∨ a.tvSec = b.tvSec ∧ a.tvUsec < b.tvUsec :=
  Prod.Lex.toLex_lt_toLex

theorem Timeval.key_le_iff {a b : Timeval} :
    a.key ≤ b.key ↔ a.tvSec < b.tvSec ∨ a.tvSec = b.tvSec ∧ a.tvUsec ≤ b.tvUsec :=
  Prod.Lex.toLex_le_toLex

/-- **`timeval_cmp` is the lexicographic order**, whatever the microseconds are. -/
theorem timevalCmp_iff {a b : Timeval} : timevalCmp a b = true ↔ b.key < a.key := by
  rw [Timeval.key_lt_iff, timevalCmp]
  split
  · rename_i heq
    rw [decide_eq_true_iff]
    omega
  · rename_i hne
    rw [decide_eq_true_iff]
    omega

theorem compares_pktSlotCmp : Compares pktSlotCmp PktSlot.key := fun _ _ => timevalCmp_iff

/-- A packet is not due before it came. -/
theorem key_le_expirationDate (now : Timeval) (delay : UInt32) :
    now.key ≤ (expirationDate now delay).key := by
  rw [Timeval.key_le_iff]
  unfold expirationDate
  dsimp only
  omega

/-! ## Delivering -/

/-- The call of `sendto` for a packet, in the state it is made in. -/
def sentFor (params : LinkParams) (s : LinkSim) (due : Option Timeval) (direction : Direction)
    (buf : List UInt8) : Sent where
  addr := match direction with
    | .forward => params.destAddr
    | .reverse => s.srcAddr
  direction := direction
  datagram := buf
  due := due
  clock := s.lastClock

theorem writeOut_none (params : LinkParams) (s : LinkSim) (buf : List UInt8)
    (direction : Direction) (due : Option Timeval) :
    writeOut params s buf direction due none =
      (.success, { s with sent := s.sent ++ [sentFor params s due direction buf] }) := rfl

/-- The packets `ps` were sent, in this order, and left the queue: expired ones, in the order of
their expiration dates, and none behind one that stayed. -/
structure Delivered (params : LinkParams) (s s' : LinkSim) (ps : List PktSlot) : Prop where
  valid : s'.pktQueue.Valid PktSlot.key
  state : s' = { s with
    pktQueue := s'.pktQueue
    sent := s.sent ++ ps.map fun p => sentFor params s (some p.ts) p.direction p.buf }
  contents : s.pktQueue.contents = ps + s'.pktQueue.contents
  sorted : ps.Pairwise fun a b => a.key ≤ b.key
  expired : ∀ p ∈ ps, p.key < s.lastClock.key
  least : ∀ p ∈ ps, ∀ p' ∈ s'.pktQueue.contents, p.key ≤ p'.key

variable {params : LinkParams} {s s' : LinkSim}

theorem Delivered.nil (h : s.pktQueue.Valid PktSlot.key) : Delivered params s s [] where
  valid := h
  state := by simp
  contents := by simp
  sorted := List.Pairwise.nil
  expired := fun p hp => absurd hp (List.not_mem_nil)
  least := fun p hp => absurd hp (List.not_mem_nil)

/-- One packet sent, and then the others. -/
theorem Delivered.cons {p : PktSlot} {ps : List PktSlot} (h : s.pktQueue.Valid PktSlot.key)
    (hpeek : minqPeek s.pktQueue = some p) (hexpired : p.key < s.lastClock.key)
    (hrest : Delivered params { s with
      pktQueue := minqPop s.pktQueue
      sent := s.sent ++ [sentFor params s (some p.ts) p.direction p.buf] } s' ps) :
    Delivered params s s' (p :: ps) := by
  obtain ⟨-, hleast⟩ := minqPeek_spec h hpeek
  obtain ⟨-, hcontents, -, -⟩ := minqPop_spec h hpeek
  have hall : s.pktQueue.contents = (p :: ps : List PktSlot) + s'.pktQueue.contents := by
    rw [hcontents, show (minqPop s.pktQueue).contents = ps + s'.pktQueue.contents from
      hrest.contents, ← Multiset.cons_coe, Multiset.cons_add]
  refine ⟨hrest.valid, ?_, hall, List.pairwise_cons.mpr ⟨fun b hb => hleast b ?_, hrest.sorted⟩,
    fun p' hp' => ?_, fun a ha p' hp' => ?_⟩
  · refine hrest.state.trans ?_
    simp only [List.map_cons, List.append_assoc, List.cons_append, List.nil_append]
    rfl
  · rw [hall]
    exact Multiset.mem_add.mpr (Or.inl (Multiset.mem_coe.mpr (List.mem_cons_of_mem p hb)))
  · rcases List.mem_cons.mp hp' with rfl | hmem
    · exact hexpired
    · exact hrest.expired p' hmem
  · rcases List.mem_cons.mp ha with rfl | hmem
    · refine hleast p' ?_
      rw [hall]
      exact Multiset.mem_add.mpr (Or.inr hp')
    · exact hrest.least a hmem p' hp'

/-- Nothing that is left has expired. -/
def NoneExpired (s : LinkSim) : Prop := ∀ p ∈ s.pktQueue.contents, s.lastClock.key ≤ p.key

theorem deliverFrom_spec {send : ℕ → Option Errno} {fuel n : ℕ}
    (h : s.pktQueue.Valid PktSlot.key) (hfuel : s.pktQueue.size ≤ fuel) :
    ∃ ps, Delivered params s (deliverFrom params send fuel n s).2 ps ∧
      (NoneExpired (deliverFrom params send fuel n s).2 ∨ ∃ k, send k ≠ none) ∧
      ((deliverFrom params send fuel n s).1 = .failure → ∃ k, send k ≠ none) := by
  induction fuel generalizing s n with
  | zero =>
    have hempty : s.pktQueue.contents = 0 := by
      rw [← Multiset.card_eq_zero, MinQueue.card_contents]
      omega
    refine ⟨[], Delivered.nil h, Or.inl fun p hp => ?_, fun hfail => by cases hfail⟩
    rw [deliverFrom, hempty] at hp
    exact absurd hp (Multiset.notMem_zero p)
  | succ fuel ih =>
    rw [deliverFrom]
    cases hpeek : minqPeek s.pktQueue with
    | none =>
      refine ⟨[], Delivered.nil h, Or.inl fun p hp => ?_, fun hfail => by cases hfail⟩
      rw [minqPeek_eq_none_iff.mp hpeek] at hp
      exact absurd hp (Multiset.notMem_zero p)
    | some p =>
      obtain ⟨-, hleast⟩ := minqPeek_spec h hpeek
      obtain ⟨hvalid, -, -, hsize⟩ := minqPop_spec h hpeek
      dsimp only
      by_cases hexpired : timevalCmp s.lastClock p.ts = true
      · rw [if_pos hexpired]
        cases hsend : send n with
        | none =>
          rw [writeOut_none]
          dsimp only
          obtain ⟨ps, hps, hnone, hfail⟩ := ih (n := n + 1)
            (s := { s with
              pktQueue := minqPop s.pktQueue
              sent := s.sent ++ [sentFor params s (some p.ts) p.direction p.buf] }) hvalid
            (show (minqPop s.pktQueue).size ≤ fuel by omega)
          exact ⟨p :: ps, Delivered.cons h hpeek (timevalCmp_iff.mp hexpired) hps, hnone, hfail⟩
        | some errno =>
          have hne : ∃ k, send k ≠ none := ⟨n, by rw [hsend]; simp⟩
          exact ⟨[], Delivered.nil h, Or.inr hne, fun _ => hne⟩
      · rw [if_neg hexpired]
        refine ⟨[], Delivered.nil h, Or.inl fun p' hp' => ?_, fun hfail => by cases hfail⟩
        exact (not_lt.mp fun hlt => hexpired (timevalCmp_iff.mpr hlt)).trans (hleast p' hp')

theorem deliverDelayedPkt_spec {send : ℕ → Option Errno} {code : ExitCode}
    (h : s.pktQueue.Valid PktSlot.key) (hdone : deliverDelayedPkt params s send = (code, s')) :
    ∃ ps, Delivered params s s' ps ∧ (NoneExpired s' ∨ ∃ k, send k ≠ none) ∧
      (code = .failure → ∃ k, send k ≠ none) := by
  obtain ⟨ps, hps, hnone, hfail⟩ := @deliverFrom_spec params s send s.pktQueue.size 0 h
    (le_refl s.pktQueue.size)
  have hcode : (deliverFrom params send s.pktQueue.size 0 s).1 = code := congrArg Prod.fst hdone
  have hstate : (deliverFrom params send s.pktQueue.size 0 s).2 = s' := congrArg Prod.snd hdone
  rw [hstate] at hps hnone
  rw [hcode] at hfail
  exact ⟨ps, hps, hnone, hfail⟩

/-! ## What the link makes of a datagram -/

/-- The datagram `process_incoming_pkt` takes notice of in a turn, as far as it reads it. -/
def heard (e : ProxyPoll) : Option (SockaddrIn6 × List UInt8) :=
  match e.select, e.recvfrom with
  | .ready true, .received addr bytes =>
    if (bytes.take maxPktLen).length < minPktLen then none else some (addr, bytes.take maxPktLen)
  | _, _ => none

/-- Whom the simulator takes for the source. -/
def LinkSim.source (s : LinkSim) : Option SockaddrIn6 :=
  if s.hasSourceAddr then some s.srcAddr else none

/-- The simulator in front of its loop: nothing is queued or sent, and there is no source. -/
structure LinkSim.Fresh (s : LinkSim) (clock : Option Timeval) : Prop where
  valid : s.pktQueue.Valid PktSlot.key
  queue : s.pktQueue.contents = 0
  sent : s.sent = []
  source : s.source = none
  clock : clock = some s.lastClock

theorem fresh_of_init {mallocQueue : Bool} {mallocSlots : Option (ℕ → PktSlot)}
    {clock : Option Timeval} (h : LinkSim.init mallocQueue mallocSlots clock = some s) :
    s.Fresh clock := by
  obtain ⟨q, hq, h⟩ := Option.bind_eq_some_iff.mp h
  obtain ⟨now, hnow, h⟩ := Option.bind_eq_some_iff.mp h
  obtain rfl := Option.some.inj h
  obtain ⟨hvalid, hcontents, -⟩ := MinQueue.valid_new compares_pktSlotCmp hq
  exact ⟨hvalid, hcontents, rfl, rfl, hnow⟩

/-- The source behind a turn. -/
def sourceAfter (source : Option SockaddrIn6) (e : ProxyPoll) : Option SockaddrIn6 :=
  source.or ((heard e).map Prod.fst)

/-- What the link makes of the datagram of a turn. -/
def passedOn (params : LinkParams) (source : Option SockaddrIn6) (e : ProxyPoll) :
    Option (Direction × List UInt8) := do
  let (addr, buf) ← heard e
  let src ← sourceAfter source e
  let direction ← directionOf params src addr
  if sameDirection direction params.linkDirection then
    if drops params e.draws then none else some (direction, mangle params e.draws buf)
  else some (direction, buf)

/-- The state once the one who was heard may have become the source. -/
def adopted (s : LinkSim) (e : ProxyPoll) : LinkSim :=
  match heard e with
  | none => s
  | some (addr, _) => adoptSource s addr

/-- One of the calls behind `select` failed in a way that is not tried again. -/
def ProxyPoll.Fails (e : ProxyPoll) : Prop :=
  e.sendNow ≠ none ∨ e.malloc = false ∨ e.realloc = none ∨ e.recvfrom = .error .other

/-- **What becomes of a datagram**: nothing, it is sent at once, or it is queued; or the turn fails,
and it is lost. -/
inductive Handled (params : LinkParams) (e : ProxyPoll) (s : LinkSim) : ExitCode → LinkSim → Prop
  | ignored (h : passedOn params s.source e = none) : Handled params e s .success (adopted s e)
  | failed (h : e.Fails) : Handled params e s .failure (adopted s e)
  | written {direction : Direction} {buf : List UInt8}
      (h : passedOn params s.source e = some (direction, buf))
      (hnow : sameDirection direction params.linkDirection = true → params.delay = 0) :
      Handled params e s .success { adopted s e with
        sent := (adopted s e).sent ++ [sentFor params (adopted s e) none direction buf] }
  | queued {direction : Direction} {buf : List UInt8} {delay : UInt32} {q : MinQueue PktSlot}
      (h : passedOn params s.source e = some (direction, buf))
      (hsim : sameDirection direction params.linkDirection = true) (hlater : params.delay ≠ 0)
      (hdelay : appliedDelay params e.draws = some delay) (hvalid : q.Valid PktSlot.key)
      (hq : q.contents = ⟨expirationDate s.lastClock delay, direction, buf⟩ ::ₘ
        s.pktQueue.contents) :
      Handled params e s .success { adopted s e with pktQueue := q }

theorem source_adoptSource (s : LinkSim) (addr : SockaddrIn6) :
    (adoptSource s addr).source = some (s.source.getD addr) ∧
      s.source.getD addr = (adoptSource s addr).srcAddr := by
  unfold adoptSource LinkSim.source
  by_cases hsource : s.hasSourceAddr = true
  · simp [hsource]
  · simp [hsource]

theorem adopted_of_heard_none {e : ProxyPoll} (h : heard e = none) : adopted s e = s := by
  rw [adopted, h]

theorem adopted_of_heard {e : ProxyPoll} {addr : SockaddrIn6} {buf : List UInt8}
    (h : heard e = some (addr, buf)) : adopted s e = adoptSource s addr := by
  rw [adopted, h]

theorem adopted_sent (s : LinkSim) (e : ProxyPoll) : (adopted s e).sent = s.sent := by
  unfold adopted adoptSource
  split
  · rfl
  · split <;> rfl

theorem adopted_pktQueue (s : LinkSim) (e : ProxyPoll) :
    (adopted s e).pktQueue = s.pktQueue := by
  unfold adopted adoptSource
  split
  · rfl
  · split <;> rfl

theorem adopted_lastClock (s : LinkSim) (e : ProxyPoll) :
    (adopted s e).lastClock = s.lastClock := by
  unfold adopted adoptSource
  split
  · rfl
  · split <;> rfl

theorem source_adopted (s : LinkSim) (e : ProxyPoll) :
    (adopted s e).source = sourceAfter s.source e := by
  unfold sourceAfter
  cases hheard : heard e with
  | none =>
    rw [adopted_of_heard_none hheard]
    simp
  | some heard =>
    rw [adopted_of_heard hheard, (source_adoptSource s heard.1).1]
    cases s.source <;> rfl

/-- The link's view of a datagram that is heard. -/
theorem passedOn_of_heard {e : ProxyPoll} {addr : SockaddrIn6} {buf : List UInt8}
    (h : heard e = some (addr, buf)) (s : LinkSim) :
    passedOn params s.source e = (directionOf params (adopted s e).srcAddr addr).bind
      fun direction =>
        if sameDirection direction params.linkDirection then
          if drops params e.draws then none else some (direction, mangle params e.draws buf)
        else some (direction, buf) := by
  have hsource := source_adopted s e
  rw [adopted_of_heard h, (source_adoptSource s addr).1, (source_adoptSource s addr).2] at hsource
  rw [passedOn, h, ← hsource, adopted_of_heard h]
  rfl

theorem Handled.of_silent {e : ProxyPoll} (h : heard e = none) :
    Handled params e s .success s := by
  have hignored : Handled params e s .success (adopted s e) :=
    Handled.ignored (by rw [passedOn, h]; rfl)
  rwa [adopted_of_heard_none h] at hignored

theorem Handled.of_writeOut {e : ProxyPoll} {code : ExitCode} {direction : Direction}
    {buf : List UInt8} (h : passedOn params s.source e = some (direction, buf))
    (hnow : sameDirection direction params.linkDirection = true → params.delay = 0)
    (hw : writeOut params (adopted s e) buf direction none e.sendNow = (code, s')) :
    Handled params e s code s' := by
  cases hsend : e.sendNow with
  | none =>
    rw [hsend, writeOut_none] at hw
    obtain ⟨rfl, rfl⟩ := Prod.mk.inj hw
    exact Handled.written h hnow
  | some errno =>
    rw [hsend] at hw
    obtain ⟨rfl, rfl⟩ := Prod.mk.inj hw
    exact Handled.failed (Or.inl (by rw [hsend]; simp))

theorem Handled.of_enqueue {e : ProxyPoll} {code : ExitCode} {direction : Direction}
    {buf : List UInt8} {delay : UInt32} (hvalid : s.pktQueue.Valid PktSlot.key)
    (h : passedOn params s.source e = some (direction, buf))
    (hsim : sameDirection direction params.linkDirection = true) (hlater : params.delay ≠ 0)
    (hdelay : appliedDelay params e.draws = some delay)
    (hq : enqueue (adopted s e)
      ⟨expirationDate (adopted s e).lastClock delay, direction, buf⟩ e = (code, s')) :
    Handled params e s code s' := by
  have hadopted : (adopted s e).pktQueue.Valid PktSlot.key := by
    rw [adopted_pktQueue]
    exact hvalid
  unfold enqueue at hq
  split at hq
  · rcases minqPush_spec hadopted ⟨expirationDate (adopted s e).lastClock delay, direction, buf⟩
      e.realloc with ⟨-, hrealloc, hpush⟩ | ⟨q, hpush, hvalid', hcontents, -⟩
    · rw [hpush] at hq
      obtain ⟨rfl, rfl⟩ := Prod.mk.inj hq
      exact Handled.failed (Or.inr (Or.inr (Or.inl hrealloc)))
    · rw [hpush] at hq
      obtain ⟨rfl, rfl⟩ := Prod.mk.inj hq
      rw [adopted_pktQueue, adopted_lastClock] at hcontents
      exact Handled.queued h hsim hlater hdelay hvalid' hcontents
  · rename_i hmalloc
    obtain ⟨rfl, rfl⟩ := Prod.mk.inj hq
    exact Handled.failed (Or.inr (Or.inl (by simpa using hmalloc)))

/-- **Every outcome of `process_incoming_pkt`.** -/
theorem processIncomingPkt_cases {e : ProxyPoll} {code : ExitCode}
    (hvalid : s.pktQueue.Valid PktSlot.key) (hselect : e.select = .ready true)
    (h : processIncomingPkt params s e = some (code, s')) : Handled params e s code s' := by
  unfold processIncomingPkt at h
  cases hrecv : e.recvfrom with
  | error errno =>
    have hheard : heard e = none := by
      rw [heard, hselect, hrecv]
    rw [hrecv] at h
    obtain ⟨rfl, rfl⟩ := Prod.mk.inj (Option.some.inj h)
    by_cases hretry : errno.retries = true
    · rw [if_pos hretry]
      exact Handled.of_silent hheard
    · have hother : errno = .other := by
        cases errno <;> first | rfl | exact absurd rfl hretry
      have hfailed : Handled params e s .failure (adopted s e) :=
        Handled.failed (Or.inr (Or.inr (Or.inr (by rw [hrecv, hother]))))
      rw [if_neg hretry]
      rwa [adopted_of_heard_none hheard] at hfailed
  | received addr bytes =>
    rw [hrecv] at h
    dsimp only at h
    by_cases hshort : (bytes.take maxPktLen).length < minPktLen
    · have hheard : heard e = none := by
        rw [heard, hselect, hrecv]
        exact if_pos hshort
      rw [if_pos hshort] at h
      obtain ⟨rfl, rfl⟩ := Prod.mk.inj (Option.some.inj h)
      exact Handled.of_silent hheard
    have hheard : heard e = some (addr, bytes.take maxPktLen) := by
      rw [heard, hselect, hrecv]
      exact if_neg hshort
    rw [if_neg hshort, ← adopted_of_heard (s := s) hheard] at h
    have hpassed := @passedOn_of_heard params e addr (bytes.take maxPktLen) hheard s
    cases hdirection : directionOf params (adopted s e).srcAddr addr with
    | none =>
      rw [hdirection] at h hpassed
      obtain ⟨rfl, rfl⟩ := Prod.mk.inj (Option.some.inj h)
      exact Handled.ignored hpassed
    | some direction =>
      rw [hdirection] at h hpassed
      dsimp only at h
      rw [Option.bind_some] at hpassed
      by_cases hsim : sameDirection direction params.linkDirection = true
      · rw [if_pos hsim] at h hpassed
        unfold simulateLink at h
        by_cases hdrops : drops params e.draws = true
        · rw [if_pos hdrops] at h hpassed
          obtain ⟨rfl, rfl⟩ := Prod.mk.inj (Option.some.inj h)
          exact Handled.ignored hpassed
        · rw [if_neg hdrops] at h hpassed
          by_cases hlater : params.delay ≠ 0
          · rw [if_pos hlater] at h
            obtain ⟨delay, hdelay, hq⟩ := Option.bind_eq_some_iff.mp h
            exact Handled.of_enqueue hvalid hpassed hsim hlater hdelay (Option.some.inj hq)
          · rw [if_neg hlater] at h
            exact Handled.of_writeOut hpassed (fun _ => not_not.mp hlater) (Option.some.inj h)
      · rw [if_neg hsim] at h hpassed
        exact Handled.of_writeOut hpassed (fun hs => absurd hs hsim) (Option.some.inj h)

/-! ## The turn -/

/-- **What a turn keeps.**  `P` holds after the clock was read and packets were delivered, and `Q`
is to hold behind the turn: in a loop that goes on, in one that stops, or in one that did nothing
because it had stopped or `select` was interrupted. -/
theorem proxyLoop_rule {e : ProxyPoll} {P Q : LinkSim → Prop}
    (hvalid : s.pktQueue.Valid PktSlot.key)
    (hidle : s.running = false ∨ e.select = .error .eintr → Q s)
    (hstop : ∀ errno, e.select = .error errno → Q { s with running := false })
    (hclock : e.clock = none → Q { s with running := false })
    (hdeliver : ∀ now m ps, e.clock = some now →
      Delivered params { s with lastClock := now } m ps →
      (NoneExpired m ∨ ∃ k, e.sendDelayed k ≠ none) → P m)
    (hfail : ∀ m, P m → (∃ k, e.sendDelayed k ≠ none) → Q { m with running := false })
    (hquiet : ∀ m, P m → e.select = .ready false → Q m)
    (hhandled : ∀ m t, P m → e.select = .ready true → Handled params e m .success t → Q t)
    (hlost : ∀ m t, P m → e.select = .ready true → Handled params e m .failure t →
      Q { t with running := false })
    (h : proxyLoop params s e = some s') : Q s' := by
  unfold proxyLoop at h
  by_cases hrunning : s.running = true
  swap
  · rw [if_neg hrunning] at h
    obtain rfl := Option.some.inj h
    exact hidle (Or.inl (by simpa using hrunning))
  rw [if_pos hrunning] at h
  cases hselect : e.select with
  | error errno =>
    rw [hselect] at h
    obtain rfl := Option.some.inj h
    by_cases heintr : errno = .eintr
    · rw [if_pos heintr]
      exact hidle (Or.inr (by rw [hselect, heintr]))
    · rw [if_neg heintr]
      exact hstop errno hselect
  | ready isSet =>
    rw [hselect] at h
    obtain ⟨⟨code, t⟩, hturn, hs'⟩ := Option.map_eq_some_iff.mp h
    unfold proxyTurn at hturn
    cases htime : e.clock with
    | none =>
      rw [htime] at hturn
      obtain ⟨rfl, rfl⟩ := Prod.mk.inj (Option.some.inj hturn)
      obtain rfl := hs'
      exact hclock htime
    | some now =>
      have hvalid' : { s with lastClock := now }.pktQueue.Valid PktSlot.key := hvalid
      cases hdone : deliverDelayedPkt params { s with lastClock := now } e.sendDelayed with
      | mk code' m =>
      obtain ⟨ps, hps, hnone, hfailed⟩ := deliverDelayedPkt_spec hvalid' hdone
      have hP := hdeliver now m ps htime hps hnone
      rw [htime] at hturn
      dsimp only at hturn
      rw [hdone] at hturn
      cases code' with
      | failure =>
        obtain ⟨rfl, rfl⟩ := Prod.mk.inj (Option.some.inj hturn)
        obtain rfl := hs'
        exact hfail m hP (hfailed rfl)
      | success =>
        cases isSet with
        | false =>
          obtain ⟨rfl, rfl⟩ := Prod.mk.inj (Option.some.inj hturn)
          obtain rfl := hs'
          exact hquiet m hP hselect
        | true =>
          have hcases := processIncomingPkt_cases hps.valid hselect hturn
          cases code with
          | failure =>
            obtain rfl := hs'
            exact hlost m t hP hselect hcases
          | success =>
            obtain rfl := hs'
            exact hhandled m t hP hselect hcases

/-! ## When a turn is defined -/

/-- What the turn passes on in a simulated direction can be given its delay. -/
def DelayDefined (params : LinkParams) (source : Option SockaddrIn6) (e : ProxyPoll) : Prop :=
  ∀ direction buf, passedOn params source e = some (direction, buf) →
    sameDirection direction params.linkDirection = true →
    params.delay = 0 ∨ ∃ delay, appliedDelay params e.draws = some delay

theorem exists_processIncomingPkt {e : ProxyPoll} (hselect : e.select = .ready true)
    (h : DelayDefined params s.source e) : ∃ r, processIncomingPkt params s e = some r := by
  unfold processIncomingPkt
  cases hrecv : e.recvfrom with
  | error errno => exact ⟨_, rfl⟩
  | received addr bytes =>
    dsimp only
    by_cases hshort : (bytes.take maxPktLen).length < minPktLen
    · exact ⟨_, if_pos hshort⟩
    have hheard : heard e = some (addr, bytes.take maxPktLen) := by
      rw [heard, hselect, hrecv]
      exact if_neg hshort
    rw [if_neg hshort, ← adopted_of_heard (s := s) hheard]
    have hpassed := @passedOn_of_heard params e addr (bytes.take maxPktLen) hheard s
    cases hdirection : directionOf params (adopted s e).srcAddr addr with
    | none => exact ⟨_, rfl⟩
    | some direction =>
      rw [hdirection, Option.bind_some] at hpassed
      dsimp only
      by_cases hsim : sameDirection direction params.linkDirection = true
      · rw [if_pos hsim] at hpassed ⊢
        unfold simulateLink
        by_cases hdrops : drops params e.draws = true
        · exact ⟨_, if_pos hdrops⟩
        · rw [if_neg hdrops] at hpassed ⊢
          by_cases hlater : params.delay ≠ 0
          · obtain ⟨delay, hdelay⟩ := (h direction _ hpassed hsim).resolve_left hlater
            rw [if_pos hlater, hdelay]
            exact ⟨_, rfl⟩
          · exact ⟨_, if_neg hlater⟩
      · exact ⟨_, if_neg hsim⟩

/-- A turn has an outcome unless the delay of a packet is not defined. -/
theorem exists_proxyLoop (hvalid : s.pktQueue.Valid PktSlot.key) {e : ProxyPoll}
    (h : DelayDefined params s.source e) : ∃ l, proxyLoop params s e = some l := by
  have hturn : ∀ isSet, e.select = .ready isSet → ∃ r, proxyTurn params s e isSet = some r := by
    intro isSet hselect
    unfold proxyTurn
    cases hclock : e.clock with
    | none => exact ⟨_, rfl⟩
    | some now =>
      dsimp only
      cases hdone : deliverDelayedPkt params { s with lastClock := now } e.sendDelayed with
      | mk code m =>
        obtain ⟨ps, hps, -⟩ :=
          deliverDelayedPkt_spec (s := { s with lastClock := now }) hvalid hdone
        cases code with
        | failure => exact ⟨_, rfl⟩
        | success =>
          cases isSet with
          | false => exact ⟨_, rfl⟩
          | true =>
            refine exists_processIncomingPkt hselect ?_
            rw [hps.state]
            exact h
  unfold proxyLoop
  by_cases hrunning : s.running = true
  · rw [if_pos hrunning]
    cases hselect : e.select with
    | error errno => exact ⟨_, rfl⟩
    | ready isSet =>
      obtain ⟨r, hr⟩ := hturn isSet hselect
      exact ⟨_, Option.map_eq_some_iff.mpr ⟨r, hr, rfl⟩⟩
  · exact ⟨_, if_neg hrunning⟩

end TrtpNetwork
