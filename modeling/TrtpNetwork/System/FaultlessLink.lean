import TrtpNetwork.Linksimulator.Fifo
import TrtpNetwork.System.PerfectLink
import TrtpNetwork.System.SimulatedLink

/-!
# The simulator without faults

With no loss, no cuts, no errors and no jitter, and whatever its delay and its direction are, the
link simulator between the two programs is a perfect link: leaving out its turns, a run of the three
is a run of the two over the link of `System.PerfectLink` (`perfectLink_of_run`).  So the transfer
is exact (`simulatedTransfer_of_run`).

The sockets of the machine are taken to be FIFO and to lose nothing, and three things are assumed
beside that (`FifoSockets`): a program that reads finds its socket writable in the same iteration,
no retransmission timeout fires, and the clock of the simulator has gone on whenever a datagram is
heard.  The queue in between is not FIFO by itself, and keeps the order because of the last.
-/

namespace TrtpNetwork

/-- The event of the two programs that an event is, if any. -/
def programEvent : SimulatedEvent → Option Event
  | .sender e => some (.sender e)
  | .receiver e => some (.receiver e)
  | .link _ => none

/-- The iterations of the two programs. -/
def programEvents (es : List SimulatedEvent) : List Event := es.filterMap programEvent

/-- The turns of the simulator. -/
def linkTurns (es : List SimulatedEvent) : List ProxyPoll :=
  es.filterMap fun e =>
    match e with
    | .link e => some e
    | _ => none

/-- The number of datagrams that were heard from an address. -/
def heardFrom (es : List SimulatedEvent) (addr : SockaddrIn6) : ℕ :=
  (linkTurns es).countP fun e => (heard e).map Prod.fst = some addr

/-- The datagrams written by the program from which a direction leads. -/
def SimulatedNetwork.log (n : SimulatedNetwork) : Direction → List (List UInt8)
  | .forward => n.sender.written.map Transmission.datagram
  | .reverse => n.receiver.written.map Prod.snd

/-- The address of this program. -/
def originOf (params : LinkParams) (srcAddr : SockaddrIn6) : Direction → SockaddrIn6
  | .forward => srcAddr
  | .reverse => params.destAddr

/-- No datagram is lost, cut or corrupted, and all are delayed alike. -/
structure Faultless (params : LinkParams) : Prop where
  loss : params.lossRate = 0
  cut : params.cutRate = 0
  err : params.errRate = 0
  jitter : params.jitter = 0

/-- What is assumed of an event.
* The sockets are FIFO and lose nothing: the simulator hears the next datagram of one of the
  programs, and each program reads the next one that was sent to it.  They do not hang up.
* A program that reads a datagram finds its socket writable in the same iteration.
* No retransmission timeout fires.
* The clock of the simulator ticks: it has gone on whenever a datagram is heard. -/
def FifoSockets (crc32 : List UInt8 → UInt32) (params : LinkParams) (srcAddr : SockaddrIn6)
    (es : List SimulatedEvent) (n : SimulatedNetwork) : SimulatedEvent → Prop
  | .sender e => n.sender.status = .running ∧ e.readable ≠ .other ∧
      (∀ result ∈ e.readable.result, e.writable = .pollout ∧
        ∃ buf ∈ (n.link.sentIn .reverse)[acksRead (programEvents es)]?, result = .bytes buf) ∧
      ∀ s' ∈ readWriteLoopSender crc32 n.sender e, ∀ w ∈ s'.written, w.cause ≠ .timeout
  | .link e => ClockTicks n.link e ∧ ∀ h ∈ heard e,
      (h.1 = srcAddr ∧ (n.log .forward)[heardFrom es srcAddr]? = some h.2) ∨
      (h.1 = params.destAddr ∧ (n.log .reverse)[heardFrom es params.destAddr]? = some h.2)
  | .receiver e => n.receiver.status = .running ∧ e.readable ≠ .other ∧
      ∀ result ∈ e.readable.result, e.writable = .pollout ∧
        ∃ buf ∈ (n.link.sentIn .forward)[packetsRead (programEvents es)]?, result = .bytes buf

variable {crc32 : List UInt8 → UInt32} {file : List UInt8} {params : LinkParams}
  {srcAddr : SockaddrIn6} {es : List SimulatedEvent} {n n' : SimulatedNetwork}

/-! ## The next of a list -/

theorem getElem?_of_front {α : Type*} {l l' : List α} (h : l <+: l') {i : ℕ} {a : α}
    (ha : l[i]? = some a) : l'[i]? = some a := by
  obtain ⟨t, rfl⟩ := h
  rw [List.getElem?_append_left (List.getElem?_eq_some_iff.mp ha).1, ha]

theorem snoc_front {α : Type*} {l l' : List α} (h : l <+: l') {a : α}
    (ha : l'[l.length]? = some a) : l ++ [a] <+: l' := by
  obtain ⟨t, rfl⟩ := h
  rw [List.getElem?_append_right (Nat.le_refl _), Nat.sub_self] at ha
  cases t with
  | nil => cases ha
  | cons b t =>
    obtain rfl := Option.some.inj ha
    exact ⟨t, by simp⟩

/-! ## What a link without faults passes on -/

theorem sourceAfter_of_heard {e : ProxyPoll} {addr : SockaddrIn6} {buf : List UInt8}
    (hheard : heard e = some (addr, buf)) (source : Option SockaddrIn6) :
    sourceAfter source e = some (source.getD addr) := by
  rw [sourceAfter, hheard]
  cases source <;> rfl

theorem passedOn_of_faultless (h : Faultless params) {e : ProxyPoll} {addr : SockaddrIn6}
    {buf : List UInt8} (hheard : heard e = some (addr, buf)) (source : Option SockaddrIn6) :
    passedOn params source e =
      (directionOf params (source.getD addr) addr).map fun direction => (direction, buf) := by
  have hdrops : drops params e.draws = false := by
    rw [drops, h.loss]
    rfl
  have hmangle : mangle params e.draws buf = buf := by
    rw [mangle, h.cut, h.err]
    simp
  rw [passedOn, sourceAfter_of_heard hheard, hheard]
  simp only [Option.bind_eq_bind, Option.bind_some, hdrops, hmangle]
  cases directionOf params (source.getD addr) addr with
  | none => rfl
  | some direction => simp

theorem sameSockaddr_self (a : SockaddrIn6) : sameSockaddr a a = true := by
  simp [sameSockaddr]

/-- What the simulator has heard, in which order, and from whom. -/
structure HeardInOrder (params : LinkParams) (srcAddr : SockaddrIn6) (es : List SimulatedEvent)
    (n : SimulatedNetwork) : Prop where
  forwards : ForwardsInOrder params (linkTurns es) n.link
  source : sourceOf (linkTurns es) = if heardFrom es srcAddr = 0 then none else some srcAddr
  traffic : ∀ d, trafficIn params (linkTurns es) d <+: n.log d
  length : ∀ d, (trafficIn params (linkTurns es) d).length =
    heardFrom es (originOf params srcAddr d)

theorem heardInOrder_start {s₀ : Sender} {l₀ : LinkSim} {clock : Option Timeval}
    (hlink : l₀.Fresh clock) (buffer : Memory) :
    HeardInOrder params srcAddr [] ⟨s₀, l₀, Receiver.init buffer⟩ :=
  ⟨forwardsInOrder_of_fresh hlink, rfl, fun _ => List.nil_prefix, fun _ => rfl⟩

/-- An iteration of one of the programs makes its log longer, and that is all. -/
theorem HeardInOrder.mono (h : HeardInOrder params srcAddr es n) {e : SimulatedEvent}
    (hturns : linkTurns (es ++ [e]) = linkTurns es) (hlink : n'.link = n.link)
    (hlog : ∀ d, n.log d <+: n'.log d) : HeardInOrder params srcAddr (es ++ [e]) n' := by
  have hfrom : ∀ addr, heardFrom (es ++ [e]) addr = heardFrom es addr := fun addr => by
    rw [heardFrom, hturns, heardFrom]
  refine ⟨?_, ?_, fun d => ?_, fun d => ?_⟩
  · rw [hturns, hlink]
    exact h.forwards
  · rw [hturns, hfrom]
    exact h.source
  · rw [hturns]
    exact (h.traffic d).trans (hlog d)
  · rw [hturns, hfrom]
    exact h.length d

theorem linkTurns_snoc (es : List SimulatedEvent) (e : ProxyPoll) :
    linkTurns (es ++ [.link e]) = linkTurns es ++ [e] := by
  rw [linkTurns, List.filterMap_append]
  rfl

theorem heardFrom_snoc (es : List SimulatedEvent) (e : ProxyPoll) (addr : SockaddrIn6) :
    heardFrom (es ++ [.link e]) addr =
      heardFrom es addr + if (heard e).map Prod.fst = some addr then 1 else 0 := by
  rw [heardFrom, linkTurns_snoc, List.countP_append, heardFrom, List.countP_singleton]
  by_cases h : (heard e).map Prod.fst = some addr
  · simp [h]
  · simp [h]

/-- What is heard from one of the programs goes on in its direction, once the simulator knows the
sender. -/
theorem passedOn_of_origin (hparams : Faultless params)
    (haddr : sameSockaddr params.destAddr srcAddr = false) {e : ProxyPoll} {d : Direction}
    {buf : List UInt8} (hheard : heard e = some (originOf params srcAddr d, buf))
    {source : Option SockaddrIn6} (hsource : source.getD (originOf params srcAddr d) = srcAddr) :
    passedOn params source e = some (d, buf) := by
  rw [passedOn_of_faultless hparams hheard, hsource, directionOf]
  cases d with
  | forward =>
    rw [originOf, if_pos (sameSockaddr_self srcAddr)]
    rfl
  | reverse =>
    rw [originOf, if_neg (by simp [haddr]), if_pos (sameSockaddr_self params.destAddr)]
    rfl

/-- **A turn of the simulator.**  Before it hears the receiver it has heard the sender. -/
theorem HeardInOrder.link_step (hparams : Faultless params)
    (haddr : sameSockaddr params.destAddr srcAddr = false)
    (h : HeardInOrder params srcAddr es n)
    (hfirst : n.receiver.written ≠ [] → heardFrom es srcAddr ≠ 0) {e : ProxyPoll}
    (hsockets : FifoSockets crc32 params srcAddr es n (.link e)) {l : LinkSim}
    (hstep : proxyLoop params n.link e = some l) :
    HeardInOrder params srcAddr (es ++ [.link e]) { n with link := l } := by
  obtain ⟨hticks, hnext⟩ := hsockets
  have hforwards : ForwardsInOrder params (linkTurns (es ++ [.link e])) l := by
    rw [linkTurns_snoc]
    exact h.forwards.step hparams.jitter hticks hstep
  cases hheard : heard e with
  | none =>
    have hfrom : ∀ addr, heardFrom (es ++ [.link e]) addr = heardFrom es addr := fun addr => by
      rw [heardFrom_snoc, hheard]
      rfl
    obtain ⟨htraffic, hsource⟩ := @traffic_snoc_of_silent params (linkTurns es) e hheard
    have hsame : ∀ d, trafficIn params (linkTurns (es ++ [.link e])) d =
        trafficIn params (linkTurns es) d := fun d => by
      rw [linkTurns_snoc, trafficIn, htraffic, trafficIn]
    refine ⟨hforwards, ?_, fun d => ?_, fun d => ?_⟩
    · rw [linkTurns_snoc, hsource, hfrom]
      exact h.source
    · rw [hsame]
      exact h.traffic d
    · rw [hsame, hfrom]
      exact h.length d
  | some heard₁ =>
    obtain ⟨addr, buf⟩ := heard₁
    obtain ⟨d₁, rfl, hbuf, hknows⟩ : ∃ d₁, addr = originOf params srcAddr d₁ ∧
        (n.log d₁)[heardFrom es (originOf params srcAddr d₁)]? = some buf ∧
        (d₁ = .forward ∨ heardFrom es srcAddr ≠ 0) := by
      rcases hnext _ hheard with ⟨rfl, hbuf⟩ | ⟨rfl, hbuf⟩
      · exact ⟨.forward, rfl, hbuf, Or.inl rfl⟩
      · refine ⟨.reverse, rfl, hbuf, Or.inr (hfirst fun hnil => ?_)⟩
        rw [SimulatedNetwork.log, hnil] at hbuf
        cases hbuf
    have hsrc : (sourceOf (linkTurns es)).getD (originOf params srcAddr d₁) = srcAddr := by
      rw [h.source]
      split
      · rename_i hzero
        rw [hknows.resolve_right (not_not.mpr hzero)]
        rfl
      · rfl
    have hout := passedOn_of_origin hparams haddr hheard hsrc
    have hafter : sourceOf (linkTurns (es ++ [.link e])) = some srcAddr := by
      rw [linkTurns_snoc, sourceOf_snoc, sourceAfter_of_heard hheard, hsrc]
    have hfrom : ∀ d, heardFrom (es ++ [.link e]) (originOf params srcAddr d) =
        heardFrom es (originOf params srcAddr d) + if d₁ = d then 1 else 0 := by
      intro d
      have hne : srcAddr ≠ params.destAddr := by
        rintro rfl
        rw [sameSockaddr_self] at haddr
        cases haddr
      rw [heardFrom_snoc, hheard]
      cases d₁ <;> cases d <;> simp [originOf, hne, hne.symm]
    have htraffic : ∀ d, trafficIn params (linkTurns (es ++ [.link e])) d =
        trafficIn params (linkTurns es) d ++ if d₁ = d then [buf] else [] := by
      intro d
      rw [linkTurns_snoc, trafficIn_snoc, hout]
      cases d₁ <;> cases d <;> rfl
    refine ⟨hforwards, ?_, fun d => ?_, fun d => ?_⟩
    · have hheardSender : heardFrom (es ++ [.link e]) srcAddr ≠ 0 := by
        have hcount := hfrom .forward
        rw [originOf] at hcount
        rcases hknows with rfl | hbefore
        · rw [hcount, if_pos rfl]
          exact Nat.succ_ne_zero _
        · omega
      rw [hafter, if_neg hheardSender]
    · rw [htraffic]
      by_cases hd : d₁ = d
      · subst hd
        rw [if_pos rfl]
        refine snoc_front (h.traffic d₁) ?_
        rw [h.length]
        exact hbuf
      · rw [if_neg hd, List.append_nil]
        exact h.traffic d
    · rw [htraffic, List.length_append, h.length, hfrom]
      by_cases hd : d₁ = d
      · rw [if_pos hd, if_pos hd]
        rfl
      · rw [if_neg hd, if_neg hd]
        rfl

/-! ## The simulator is a perfect link -/

/-- What the simulator sent is the front of the log of the program it is from. -/
theorem HeardInOrder.sent (h : HeardInOrder params srcAddr es n) (d : Direction) :
    n.link.sentIn d <+: n.log d := (h.forwards.front d).trans (h.traffic d)

/-- The two programs of the three, in a run of which the simulator has taken no part. -/
structure WithoutLink (params : LinkParams) (srcAddr : SockaddrIn6) (es : List SimulatedEvent)
    (n : SimulatedNetwork) (ds : List Event) (m : Network) : Prop
    extends HeardInOrder params srcAddr es n where
  events : ds = programEvents es
  state : m = ⟨n.sender, n.receiver⟩
  read : packetsRead ds ≤ heardFrom es srcAddr

/-- Nothing that is read from the simulator was not written by the program behind it. -/
theorem HeardInOrder.read_next (h : HeardInOrder params srcAddr es n) {d : Direction} {k : ℕ}
    {buf : List UInt8} (hbuf : (n.link.sentIn d)[k]? = some buf) :
    (n.log d)[k]? = some buf ∧ k < heardFrom es (originOf params srcAddr d) := by
  refine ⟨getElem?_of_front (h.sent d) hbuf, ?_⟩
  rw [← h.length d]
  exact (List.getElem?_eq_some_iff.mp hbuf).1.trans_le (h.forwards.front d).length_le

/-- To the programs the sockets of the machine and the simulator are a perfect link. -/
theorem HeardInOrder.perfectLink (h : HeardInOrder params srcAddr es n) {e : SimulatedEvent}
    (hsockets : FifoSockets crc32 params srcAddr es n e) {d : Event}
    (hd : programEvent e = some d) :
    PerfectLink crc32 (programEvents es) ⟨n.sender, n.receiver⟩ d := by
  cases e with
  | link e => cases hd
  | sender e =>
    obtain rfl := Option.some.inj hd
    obtain ⟨hrunning, hother, hreads, htime⟩ := hsockets
    refine ⟨hrunning, hother, fun result hresult => ?_, htime⟩
    obtain ⟨hout, buf, hbuf, rfl⟩ := hreads result hresult
    obtain ⟨hnext, -⟩ := h.read_next hbuf
    rw [SimulatedNetwork.log, List.getElem?_map] at hnext
    obtain ⟨a, ha, rfl⟩ := Option.map_eq_some_iff.mp hnext
    exact ⟨hout, a, ha, rfl⟩
  | receiver e =>
    obtain rfl := Option.some.inj hd
    obtain ⟨hrunning, hother, hreads⟩ := hsockets
    refine ⟨hrunning, hother, fun result hresult => ?_⟩
    obtain ⟨hout, buf, hbuf, rfl⟩ := hreads result hresult
    obtain ⟨hnext, -⟩ := h.read_next hbuf
    rw [SimulatedNetwork.log, List.getElem?_map] at hnext
    obtain ⟨w, hw, rfl⟩ := Option.map_eq_some_iff.mp hnext
    exact ⟨hout, w, hw, rfl⟩

/-- **One event**: a turn of the simulator is no event of the two programs, and an iteration of one
of them is the same over a perfect link. -/
theorem WithoutLink.step (hparams : Faultless params)
    (haddr : sameSockaddr params.destAddr srcAddr = false) {ds : List Event} {m : Network}
    (h : WithoutLink params srcAddr es n ds m)
    (hacks : m.receiver.written.length ≤ packetsRead ds) {e : SimulatedEvent}
    (hsockets : FifoSockets crc32 params srcAddr es n e)
    (hstep : simulatedStep crc32 params n e = some n') :
    WithoutLink params srcAddr (es ++ [e]) n' ds m ∨ ∃ d m', PerfectLink crc32 ds m d ∧
      networkStep crc32 m d = some m' ∧
      WithoutLink params srcAddr (es ++ [e]) n' (ds ++ [d]) m' := by
  obtain ⟨hheard, rfl, rfl, hread⟩ := h
  cases e with
  | link e =>
    obtain ⟨l, hl, rfl⟩ := Option.map_eq_some_iff.mp hstep
    have hfirst : n.receiver.written ≠ [] → heardFrom es srcAddr ≠ 0 := by
      intro hne
      have hpos := List.length_pos_iff.mpr hne
      dsimp only at hacks
      omega
    refine Or.inl ⟨hheard.link_step hparams haddr hfirst hsockets hl, ?_, rfl, ?_⟩
    · simp [programEvents, programEvent]
    · rw [heardFrom_snoc]
      omega
  | sender e =>
    obtain ⟨s, hs, rfl⟩ := Option.map_eq_some_iff.mp hstep
    have hturns : linkTurns (es ++ [.sender e]) = linkTurns es := by simp [linkTurns]
    have hevents : programEvents (es ++ [.sender e]) = programEvents es ++ [.sender e] := by
      simp [programEvents, programEvent]
    have hlog : ∀ d, n.log d <+: SimulatedNetwork.log { n with sender := s } d := by
      intro d
      cases d with
      | forward => exact (written_prefix_of_sender hs).map _
      | reverse => exact List.prefix_rfl
    refine Or.inr ⟨.sender e, ⟨s, n.receiver⟩, hheard.perfectLink hsockets rfl, ?_,
      hheard.mono hturns rfl hlog, hevents.symm, rfl, ?_⟩
    · rw [networkStep, hs]
      rfl
    · rw [packetsRead_snoc, heardFrom, hturns]
      exact hread
  | receiver e =>
    obtain ⟨r, hr, rfl⟩ := Option.map_eq_some_iff.mp hstep
    have hturns : linkTurns (es ++ [.receiver e]) = linkTurns es := by simp [linkTurns]
    have hevents : programEvents (es ++ [.receiver e]) = programEvents es ++ [.receiver e] := by
      simp [programEvents, programEvent]
    have hlog : ∀ d, n.log d <+: SimulatedNetwork.log { n with receiver := r } d := by
      intro d
      cases d with
      | forward => exact List.prefix_rfl
      | reverse => exact (written_prefix_of_receiver hr).1.map _
    refine Or.inr ⟨.receiver e, ⟨n.sender, r⟩, hheard.perfectLink hsockets rfl, ?_,
      hheard.mono hturns rfl hlog, hevents.symm, rfl, ?_⟩
    · rw [networkStep, hr]
      rfl
    · rw [packetsRead_snoc, heardFrom, hturns]
      by_cases hyes : (Event.receiver e).receiverReads = true
      · obtain ⟨result, hresult⟩ := Option.isSome_iff_exists.mp hyes
        obtain ⟨-, buf, hbuf, -⟩ := hsockets.2.2 result hresult
        rw [if_pos hyes]
        exact (hheard.read_next hbuf).2
      · rw [if_neg hyes]
        exact hread

/-- **The simulator without faults is a perfect link.**  Leaving out its turns, every run of the
three programs is a run of the two over the link that is FIFO in both directions and loses and
copies nothing. -/
theorem perfectLink_of_run {s₀ : Sender} (hgen : Genuine crc32 file s₀) (hstart : Starts s₀)
    {l₀ : LinkSim} {clock : Option Timeval} (hlink : l₀.Fresh clock) {bufferR : Memory}
    (hparams : Faultless params) (haddr : sameSockaddr params.destAddr srcAddr = false)
    (hrun : Run (simulatedStep crc32 params) (FifoSockets crc32 params srcAddr)
      ⟨s₀, l₀, Receiver.init bufferR⟩ es n) :
    Run (networkStep crc32) (PerfectLink crc32) ⟨s₀, Receiver.init bufferR⟩ (programEvents es)
      ⟨n.sender, n.receiver⟩ ∧
      WithoutLink params srcAddr es n (programEvents es) ⟨n.sender, n.receiver⟩ := by
  have hsim : ∃ ds m, Run (networkStep crc32) (PerfectLink crc32) ⟨s₀, Receiver.init bufferR⟩ ds m ∧
      WithoutLink params srcAddr es n ds m := by
    refine hrun.simulates_stuttering (R := WithoutLink params srcAddr)
      ⟨heardInOrder_start hlink bufferR, rfl, rfl, Nat.le_refl _⟩ ?_
    intro es n e n' ds m hruns hrefines hsockets hstep
    obtain ⟨t, htransfer, hin⟩ := transfer_of_run hgen hstart hruns
    have hacks : m.receiver.written.length ≤ packetsRead ds := by
      rw [packetsRead_eq, ← (Transfer.counts_of_run htransfer).2]
      exact hin.acks_le
    exact hrefines.step hparams haddr hacks hsockets hstep
  obtain ⟨ds, m, hruns, hheard, rfl, rfl, hread⟩ := hsim
  exact ⟨hruns, hheard, rfl, rfl, hread⟩

/-- **Exact transfer through the simulator**, for files of every size, every delay, either
direction, and every interleaving of the three programs: with no loss, cuts, errors or jitter, FIFO
sockets that are writable whenever something is read, no retransmission timeout and a clock that
ticks, the sender finds every packet it looks up and sends each once, the receiver drops none, and
when an empty packet ends the transfer the output is the file.  No event that is allowed is without
outcome. -/
theorem simulatedTransfer_of_run (crc32 : List UInt8 → UInt32) (file : List UInt8)
    (buffer : Memory) (freshAck : Pkt) (clockAck : UInt32) (fill : FillInputs) (s₀ : Sender)
    (hinit : Sender.init crc32 file buffer freshAck clockAck fill = some s₀)
    (mallocQueue : Bool) (mallocSlots : Option (ℕ → PktSlot)) (clock : Option Timeval)
    (l₀ : LinkSim) (hlink : LinkSim.init mallocQueue mallocSlots clock = some l₀)
    (bufferR : Memory) (params : LinkParams) (hparams : Faultless params)
    (srcAddr : SockaddrIn6) (haddr : sameSockaddr params.destAddr srcAddr = false)
    (es : List SimulatedEvent) (n : SimulatedNetwork)
    (hrun : Run (simulatedStep crc32 params) (FifoSockets crc32 params srcAddr)
      ⟨s₀, l₀, Receiver.init bufferR⟩ es n) :
    ExactTransfer file ⟨n.sender, n.receiver⟩ ∧ ∀ e, FifoSockets crc32 params srcAddr es n e →
      ∃ n', simulatedStep crc32 params n e = some n' := by
  obtain ⟨hgen, hstart⟩ := starts_of_init hinit
  obtain ⟨hruns, hwithout⟩ :=
    perfectLink_of_run hgen hstart (fresh_of_init hlink) hparams haddr hrun
  obtain ⟨t, htransfer, hin⟩ := transfer_of_run hgen hstart hruns
  refine ⟨hin.exactTransfer (Transfer.valid_of_run reach_mono htransfer), fun e hsockets => ?_⟩
  cases e with
  | link e =>
    have hdelay : appliedDelay params e.draws = some (params.delay % 10000) := by
      rw [appliedDelay, if_neg (not_not.mpr hparams.jitter)]
    obtain ⟨l, hl⟩ := exists_proxyLoop hwithout.forwards.balanced.valid
      fun _ _ _ _ => Or.inr ⟨_, hdelay⟩
    exact ⟨_, Option.map_eq_some_iff.mpr ⟨l, hl, rfl⟩⟩
  | sender e =>
    obtain ⟨n', -, hn', -⟩ := hin.step htransfer (hwithout.perfectLink hsockets rfl)
    obtain ⟨s, hs, -⟩ := Option.map_eq_some_iff.mp hn'
    exact ⟨_, Option.map_eq_some_iff.mpr ⟨s, hs, rfl⟩⟩
  | receiver e =>
    obtain ⟨n', -, hn', -⟩ := hin.step htransfer (hwithout.perfectLink hsockets rfl)
    obtain ⟨r, hr, -⟩ := Option.map_eq_some_iff.mp hn'
    exact ⟨_, Option.map_eq_some_iff.mpr ⟨r, hr, rfl⟩⟩

instance (es : List SimulatedEvent) (n : SimulatedNetwork) (e : SimulatedEvent) :
    Decidable (FifoSockets crc32 params srcAddr es n e) :=
  match e with
  | .sender e => inferInstanceAs (Decidable (n.sender.status = .running ∧ e.readable ≠ .other ∧
      (∀ result ∈ e.readable.result, e.writable = .pollout ∧
        ∃ buf ∈ (n.link.sentIn .reverse)[acksRead (programEvents es)]?, result = .bytes buf) ∧
      ∀ s' ∈ readWriteLoopSender crc32 n.sender e, ∀ w ∈ s'.written, w.cause ≠ .timeout))
  | .link e => inferInstanceAs (Decidable (ClockTicks n.link e ∧ ∀ h ∈ heard e,
      (h.1 = srcAddr ∧ (n.log .forward)[heardFrom es srcAddr]? = some h.2) ∨
      (h.1 = params.destAddr ∧ (n.log .reverse)[heardFrom es params.destAddr]? = some h.2)))
  | .receiver e => inferInstanceAs (Decidable (n.receiver.status = .running ∧
      e.readable ≠ .other ∧
      ∀ result ∈ e.readable.result, e.writable = .pollout ∧
        ∃ buf ∈ (n.link.sentIn .forward)[packetsRead (programEvents es)]?, result = .bytes buf))

/-- A file of one byte, with a delay of 100 ms for its packets: packet 0 and its ACK, and packet 1
ends the transfer. -/
def delayedOneByte : List SimulatedEvent :=
  [.sender writePoll, .link (pollAt 1 0 (.received ⟨2, 1, 0⟩ (firstDatagram [65]))),
    .link (pollAt 2 0 (.error .eagain)), .receiver (dataPoll [65] 0 .pollout),
    .link (pollAt 3 0 (.received ⟨1, 12345, 0⟩
      (encoding zlibCrc32 (controlPkt blankPkt .ack 1 4 0) []))),
    .sender (ackPoll 1 .pollout),
    .link (pollAt 4 0 (.received ⟨2, 1, 0⟩
      (encoding zlibCrc32 (dataPkt blankPkt (chunk [65] 1) 1 1 0) (chunk [65] 1)))),
    .link (pollAt 5 0 (.error .eagain)), .receiver (dataPoll [65] 1 .pollout)]

theorem simulatedTransfer_oneByte : ∃ n : SimulatedNetwork, n.receiver.status = .endOfData ∧
    n.link.sent.length = 3 ∧ ExactTransfer [65] ⟨n.sender, n.receiver⟩ := by
  obtain ⟨n, hrun, hview⟩ := exists_run_of_follow (simulatedStep zlibCrc32 slowLink)
    (FifoSockets zlibCrc32 slowLink ⟨2, 1, 0⟩) (startSimulated [65]) delayedOneByte
    (fun n => (n.receiver.status, n.link.sent.length))
    (show _ = some (.endOfData, 3) by decide +kernel)
  obtain ⟨hend, hsent⟩ := Prod.mk.inj hview
  exact ⟨n, hend, hsent, (simulatedTransfer_of_run zlibCrc32 [65] _ _ _ _ _
    (init_startSender [65]) true (some emptySlots) (some ⟨0, 0⟩) _ init_startLink _ slowLink
    ⟨rfl, rfl, rfl, rfl⟩ ⟨2, 1, 0⟩ (by decide) _ n hrun).1⟩

end TrtpNetwork
