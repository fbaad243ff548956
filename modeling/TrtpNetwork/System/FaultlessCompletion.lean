import TrtpNetwork.Linksimulator.QuietTurns
import TrtpNetwork.System.Completion
import TrtpNetwork.System.FaultlessLink

/-!
# A transfer through the simulator can always be completed

`System.Completion` with the simulator in between: whatever the delay is, from every state that is
reached some events bring the transfer to its end (`simulatedCompletes_of_run`).

A datagram now takes three events to the other side: it is heard, it leaves the queue, and it is
read.  So either the next iteration of the two programs is possible as it is, or a turn of the
simulator gets a datagram further: it hears one, or sends one from the queue
(`WithoutLink.exists_hearing`, `WithoutLink.exists_sending`).  Its calls succeed, and for one that
is delayed the clock is moved past all dates.  What is counted are the datagrams that were written,
heard, sent on and read.
-/

namespace TrtpNetwork

variable {crc32 : List UInt8 → UInt32} {file : List UInt8} {params : LinkParams}
  {srcAddr : SockaddrIn6} {es : List SimulatedEvent} {n : SimulatedNetwork} {t : Transfer}

/-- The iteration of a program, among the three. -/
def simulatedEvent : Event → SimulatedEvent
  | .sender e => .sender e
  | .receiver e => .receiver e

/-- The datagrams heard and sent on, of both directions. -/
def relayed (params : LinkParams) (es : List SimulatedEvent) (n : SimulatedNetwork) : ℕ :=
  (trafficIn params (linkTurns es) .forward).length +
    (trafficIn params (linkTurns es) .reverse).length +
    (n.link.sentIn .forward).length + (n.link.sentIn .reverse).length

/-! ## What the programs can do -/

/-- Either the iteration is allowed with the simulator in between, or what it reads has not been
sent on. -/
theorem HeardInOrder.available (h : HeardInOrder params srcAddr es n) {d : Event}
    (hlink : PerfectLink crc32 (programEvents es) ⟨n.sender, n.receiver⟩ d) :
    FifoSockets crc32 params srcAddr es n (simulatedEvent d) ∨
      ∃ direction, (n.link.sentIn direction).length < (n.log direction).length := by
  rcases d with e | e
  · obtain ⟨hrunning, hother, hreads, htime⟩ := hlink
    by_cases hsent : acksRead (programEvents es) < (n.link.sentIn .reverse).length
    · refine Or.inl ⟨hrunning, hother, fun result hresult => ?_, htime⟩
      obtain ⟨hout, a, ha, rfl⟩ := hreads result hresult
      obtain ⟨hnext, -⟩ := h.read_next (List.getElem?_eq_getElem hsent)
      refine ⟨hout, _, List.getElem?_eq_getElem hsent, ?_⟩
      rw [SimulatedNetwork.log, List.getElem?_map, Option.mem_def.mp ha] at hnext
      rw [← Option.some.inj hnext]
    · cases hresult : e.readable.result with
      | none =>
        refine Or.inl ⟨hrunning, hother, fun result hresult' => ?_, htime⟩
        rw [hresult] at hresult'
        cases hresult'
      | some result =>
        obtain ⟨-, a, ha, -⟩ := hreads result hresult
        refine Or.inr ⟨.reverse, ?_⟩
        have hlt := (List.getElem?_eq_some_iff.mp ha).1
        rw [SimulatedNetwork.log, List.length_map]
        dsimp only at hlt
        omega
  · obtain ⟨hrunning, hother, hreads⟩ := hlink
    by_cases hsent : packetsRead (programEvents es) < (n.link.sentIn .forward).length
    · refine Or.inl ⟨hrunning, hother, fun result hresult => ?_⟩
      obtain ⟨hout, w, hw, rfl⟩ := hreads result hresult
      obtain ⟨hnext, -⟩ := h.read_next (List.getElem?_eq_getElem hsent)
      refine ⟨hout, _, List.getElem?_eq_getElem hsent, ?_⟩
      rw [SimulatedNetwork.log, List.getElem?_map, Option.mem_def.mp hw] at hnext
      rw [← Option.some.inj hnext]
    · cases hresult : e.readable.result with
      | none =>
        refine Or.inl ⟨hrunning, hother, fun result hresult' => ?_⟩
        rw [hresult] at hresult'
        cases hresult'
      | some result =>
        obtain ⟨-, w, hw, -⟩ := hreads result hresult
        refine Or.inr ⟨.forward, ?_⟩
        have hlt := (List.getElem?_eq_some_iff.mp hw).1
        rw [SimulatedNetwork.log, List.length_map]
        dsimp only at hlt
        omega

/-! ## What the simulator can do -/

/-- The datagrams of the two programs are neither short nor cut by the simulator's buffer. -/
theorem InStep.length_log (h : InStep crc32 file ⟨n.sender, n.receiver⟩ t) (d : Direction) :
    ∀ buf ∈ n.log d, minPktLen ≤ buf.length ∧ buf.length ≤ maxPktLen := by
  have hencoding : ∀ (pkt : Pkt) (payload : List UInt8), payload.length ≤ 496 →
      minPktLen ≤ (encoding crc32 pkt payload).length ∧
        (encoding crc32 pkt payload).length ≤ maxPktLen := by
    intro pkt payload hlen
    have hmin := twelve_le_length_encoding crc32 pkt payload
    have hmax := length_encoding_le crc32 pkt payload
    unfold minPktLen maxPktLen minPktLen
    omega
  intro buf hbuf
  cases d with
  | forward =>
    obtain ⟨w, hw, rfl⟩ := List.mem_map.mp hbuf
    obtain ⟨pkt, -, hdatagram⟩ := h.sender.toGenuine.sent w hw
    rw [hdatagram]
    exact hencoding pkt _ ((length_chunk_le file w.position).trans (by decide))
  | reverse =>
    obtain ⟨a, ha, rfl⟩ := List.mem_map.mp hbuf
    obtain ⟨i, hi⟩ := List.getElem?_of_mem ha
    rw [(h.ack i a hi).bytes]
    exact hencoding a.1 [] (Nat.zero_le _)

theorem heard_turnAt {now : Timeval} {addr : SockaddrIn6} {buf : List UInt8}
    (hmin : minPktLen ≤ buf.length) (hmax : buf.length ≤ maxPktLen) :
    heard (turnAt now true (.received addr buf)) = some (addr, buf) := by
  have htake : buf.take maxPktLen = buf := List.take_of_length_le hmax
  show (if (buf.take maxPktLen).length < minPktLen then none
    else some (addr, buf.take maxPktLen)) = _
  rw [htake, if_neg (by omega)]

/-- What a turn in which no call fails does to the counts. -/
theorem WithoutLink.turn (hparams : Faultless params)
    (haddr : sameSockaddr params.destAddr srcAddr = false)
    (h : WithoutLink params srcAddr es n (programEvents es) ⟨n.sender, n.receiver⟩)
    (hacks : n.receiver.written.length ≤ packetsRead (programEvents es))
    (hrunning : n.link.running = true) {e : ProxyPoll} (hquiet : e.Quiet)
    (hsockets : FifoSockets crc32 params srcAddr es n (.link e)) :
    ∃ l, proxyLoop params n.link e = some l ∧ l.running = true ∧
      HeardInOrder params srcAddr (es ++ [.link e]) { n with link := l } ∧
      ∀ d, (n.link.sentIn d).length ≤ (l.sentIn d).length := by
  have hfirst : n.receiver.written ≠ [] → heardFrom es srcAddr ≠ 0 := by
    intro hne
    have hpos := List.length_pos_iff.mpr hne
    have hread := h.read
    omega
  have hvalid := h.forwards.balanced.valid
  have hdelay : appliedDelay params e.draws = some (params.delay % 10000) := by
    rw [appliedDelay, if_neg (not_not.mpr hparams.jitter)]
  obtain ⟨l, hl⟩ := exists_proxyLoop hvalid fun _ _ _ _ => Or.inr ⟨_, hdelay⟩
  exact ⟨l, hl, running_of_quiet hquiet hvalid hrunning hl,
    h.link_step hparams haddr hfirst hsockets hl,
    fun d => (sentIn_front_of_turn hvalid hl d).length_le⟩

/-- **A turn that hears the next datagram** of the program a direction leads from. -/
theorem WithoutLink.exists_hearing (hparams : Faultless params)
    (haddr : sameSockaddr params.destAddr srcAddr = false)
    (h : WithoutLink params srcAddr es n (programEvents es) ⟨n.sender, n.receiver⟩)
    (hacks : n.receiver.written.length ≤ packetsRead (programEvents es))
    (hlog : ∀ d, ∀ buf ∈ n.log d, minPktLen ≤ buf.length ∧ buf.length ≤ maxPktLen)
    (hrunning : n.link.running = true) {d : Direction}
    (hunheard : (trafficIn params (linkTurns es) d).length < (n.log d).length) :
    ∃ e l, FifoSockets crc32 params srcAddr es n (.link e) ∧ proxyLoop params n.link e = some l ∧
      l.running = true ∧
      relayed params es n < relayed params (es ++ [.link e]) { n with link := l } := by
  obtain ⟨now, hclock, -⟩ := exists_late n.link
  let buf := (n.log d)[(trafficIn params (linkTurns es) d).length]
  obtain ⟨hmin, hmax⟩ := hlog d buf (List.getElem_mem hunheard)
  have hnext : (n.log d)[heardFrom es (originOf params srcAddr d)]? = some buf := by
    rw [← h.length]
    exact List.getElem?_eq_getElem hunheard
  let e := turnAt now true (.received (originOf params srcAddr d) buf)
  have he : heard e = some (originOf params srcAddr d, buf) := heard_turnAt hmin hmax
  have hsockets : FifoSockets crc32 params srcAddr es n (.link e) := by
    refine ⟨fun now' hnow' => ?_, fun heard₁ hheard₁ => ?_⟩
    · obtain rfl := Option.some.inj hnow'
      exact ⟨hclock.le, fun _ => hclock⟩
    · obtain rfl := Option.some.inj (he.symm.trans hheard₁)
      cases d with
      | forward => exact Or.inl ⟨rfl, hnext⟩
      | reverse => exact Or.inr ⟨rfl, hnext⟩
  obtain ⟨l, hl, hl', hafter, hsent⟩ :=
    h.turn hparams haddr hacks hrunning (quiet_turnAt now true (by simp)) hsockets
  have hmore : ∀ d', (trafficIn params (linkTurns (es ++ [.link e])) d').length =
      (trafficIn params (linkTurns es) d').length +
        if (heard e).map Prod.fst = some (originOf params srcAddr d') then 1 else 0 := by
    intro d'
    rw [hafter.length, h.length, heardFrom_snoc]
  have hself : (heard e).map Prod.fst = some (originOf params srcAddr d) := by rw [he]; rfl
  refine ⟨e, l, hsockets, hl, hl', ?_⟩
  have hforward := hsent .forward
  have hreverse := hsent .reverse
  unfold relayed
  rw [hmore, hmore]
  cases d with
  | forward =>
    rw [if_pos hself]
    dsimp only
    omega
  | reverse =>
    rw [if_pos hself]
    dsimp only
    omega

/-- **A turn that sends what waits**, at a time behind all dates. -/
theorem WithoutLink.exists_sending (hparams : Faultless params)
    (haddr : sameSockaddr params.destAddr srcAddr = false)
    (h : WithoutLink params srcAddr es n (programEvents es) ⟨n.sender, n.receiver⟩)
    (hacks : n.receiver.written.length ≤ packetsRead (programEvents es))
    (hrunning : n.link.running = true) {d : Direction}
    (hwaits : (n.link.sentIn d).length < (trafficIn params (linkTurns es) d).length) :
    ∃ e l, FifoSockets crc32 params srcAddr es n (.link e) ∧ proxyLoop params n.link e = some l ∧
      l.running = true ∧
      relayed params es n < relayed params (es ++ [.link e]) { n with link := l } := by
  obtain ⟨now, hclock, hlate⟩ := exists_late n.link
  let e := turnAt now false (.error .eagain)
  have he : heard e = none := heard_of_not_ready (by simp [e, turnAt])
  have hquiet : e.Quiet := quiet_turnAt now false (by decide)
  have hsockets : FifoSockets crc32 params srcAddr es n (.link e) := by
    refine ⟨fun now' hnow' => ?_, fun heard₁ hheard₁ => ?_⟩
    · obtain rfl := Option.some.inj hnow'
      exact ⟨hclock.le, fun _ => hclock⟩
    · rw [he] at hheard₁
      cases hheard₁
  obtain ⟨l, hl, hl', hafter, hsent⟩ := h.turn hparams haddr hacks hrunning hquiet hsockets
  have hempty := emptied_of_late hquiet h.forwards.balanced.valid hrunning rfl rfl hlate hl
  have hsame : ∀ d', trafficIn params (linkTurns (es ++ [.link e])) d' =
      trafficIn params (linkTurns es) d' := by
    intro d'
    rw [linkTurns_snoc, trafficIn, (traffic_snoc_of_silent he).1, trafficIn]
  have hall : l.sentIn d = trafficIn params (linkTurns es) d := by
    rw [← hsame]
    exact hafter.forwards.sentIn_eq hl' hempty d
  refine ⟨e, l, hsockets, hl, hl', ?_⟩
  have hgrows : (n.link.sentIn d).length < (l.sentIn d).length := by
    rw [hall]
    exact hwaits
  have hforward := hsent .forward
  have hreverse := hsent .reverse
  unfold relayed
  rw [hsame, hsame]
  cases d with
  | forward =>
    dsimp only
    omega
  | reverse =>
    dsimp only
    omega

/-! ## The end can be reached -/

/-- An iteration of a program leaves the simulator as it is. -/
theorem simulatedStep_of_networkStep {d : Event} {m : Network}
    (h : networkStep crc32 ⟨n.sender, n.receiver⟩ d = some m) :
    simulatedStep crc32 params n (simulatedEvent d) = some ⟨m.sender, n.link, m.receiver⟩ := by
  rcases d with e | e
  · obtain ⟨s, hs, rfl⟩ := Option.map_eq_some_iff.mp h
    exact Option.map_eq_some_iff.mpr ⟨s, hs, rfl⟩
  · obtain ⟨r, hr, rfl⟩ := Option.map_eq_some_iff.mp h
    exact Option.map_eq_some_iff.mpr ⟨r, hr, rfl⟩

theorem programEvents_snoc (es : List SimulatedEvent) (d : Event) :
    programEvents (es ++ [simulatedEvent d]) = programEvents es ++ [d] := by
  rw [programEvents, List.filterMap_append]
  rcases d with e | e <;> rfl

theorem linkTurns_snoc_program (es : List SimulatedEvent) (d : Event) :
    linkTurns (es ++ [simulatedEvent d]) = linkTurns es := by
  rw [linkTurns, List.filterMap_append]
  rcases d with e | e <;> exact List.append_nil _

/-- All that is counted: what was written, read, heard and sent on. -/
def simulatedTotal (params : LinkParams) (es : List SimulatedEvent) (n : SimulatedNetwork) : ℕ :=
  n.sender.written.length + packetsRead (programEvents es) + acksRead (programEvents es) +
    relayed params es n

/-- Both programs have written what they counted, so the simulator heard and sent no more. -/
theorem HeardInOrder.relayed_le (h : HeardInOrder params srcAddr es n)
    (hacks : n.receiver.written.length ≤ packetsRead (programEvents es)) :
    relayed params es n ≤
      2 * (n.sender.written.length + packetsRead (programEvents es)) := by
  have hlen : ∀ d, (n.link.sentIn d).length ≤ (n.log d).length ∧
      (trafficIn params (linkTurns es) d).length ≤ (n.log d).length :=
    fun d => ⟨(h.sent d).length_le, (h.traffic d).length_le⟩
  have hforward := hlen .forward
  have hreverse := hlen .reverse
  simp only [SimulatedNetwork.log, List.length_map] at hforward hreverse
  unfold relayed
  omega

/-- **An event that gets further**, before the end of the transfer. -/
theorem exists_further_of_run {s₀ : Sender} (hgen : Genuine crc32 file s₀) (hstart : Starts s₀)
    {l₀ : LinkSim} {clock : Option Timeval} (hlink : l₀.Fresh clock) {bufferR : Memory}
    (hparams : Faultless params) (haddr : sameSockaddr params.destAddr srcAddr = false)
    (hrun : Run (simulatedStep crc32 params) (FifoSockets crc32 params srcAddr)
      ⟨s₀, l₀, Receiver.init bufferR⟩ es n)
    (hopen : n.receiver.status ≠ .hangup ∧ n.link.running = true)
    (hgoes : n.receiver.status ≠ .endOfData) :
    ∃ e n', FifoSockets crc32 params srcAddr es n e ∧ simulatedStep crc32 params n e = some n' ∧
      (n'.receiver.status ≠ .hangup ∧ n'.link.running = true) ∧
      simulatedTotal params es n < simulatedTotal params (es ++ [e]) n' ∧
      simulatedTotal params es n < 3 * transferBound file := by
  obtain ⟨hruns, hwithout⟩ := perfectLink_of_run hgen hstart hlink hparams haddr hrun
  obtain ⟨t, htransfer, hin⟩ := transfer_of_run hgen hstart hruns
  have hv := Transfer.valid_of_run reach_mono htransfer
  have hdelivered := (Transfer.counts_of_run htransfer).2
  rw [← packetsRead_eq] at hdelivered
  have hacks : n.receiver.written.length ≤ packetsRead (programEvents es) := by
    rw [← hdelivered]
    exact hin.acks_le
  have hbound : simulatedTotal params es n < 3 * transferBound file := by
    have htotal : t.total < transferBound file := by
      refine total_lt_transferBound hv ?_
      rw [hdelivered]
      exact nonempty_of_delivered hgen hstart hruns hgoes
    rw [hin.total_eq htransfer] at htotal
    have hrelayed := hwithout.relayed_le hacks
    unfold simulatedTotal
    dsimp only at htotal
    omega
  obtain ⟨d, m, t', hnext, hm, hopen', hin', htransfer', hmore⟩ :=
    hin.exists_further htransfer hopen.1 hgoes
  rcases hwithout.available hnext with hsockets | ⟨direction, hbehind⟩
  · -- an iteration of one of the programs
    refine ⟨simulatedEvent d, ⟨m.sender, n.link, m.receiver⟩, hsockets,
      simulatedStep_of_networkStep hm, ⟨hopen', hopen.2⟩, ?_, hbound⟩
    rw [hin.total_eq htransfer, hin'.total_eq htransfer'] at hmore
    unfold simulatedTotal relayed
    rw [programEvents_snoc, linkTurns_snoc_program]
    dsimp only at hmore ⊢
    omega
  · -- a turn of the simulator
    have hturn : ∃ e l, FifoSockets crc32 params srcAddr es n (.link e) ∧
        proxyLoop params n.link e = some l ∧ l.running = true ∧
        relayed params es n < relayed params (es ++ [.link e]) { n with link := l } := by
      by_cases hheard : (trafficIn params (linkTurns es) direction).length <
          (n.log direction).length
      · exact hwithout.exists_hearing hparams haddr hacks hin.length_log hopen.2 hheard
      · exact hwithout.exists_sending hparams haddr hacks hopen.2
          (hbehind.trans_le (not_lt.mp hheard))
    obtain ⟨e, l, hsockets, hl, hl', hgrows⟩ := hturn
    refine ⟨.link e, { n with link := l }, hsockets, Option.map_eq_some_iff.mpr ⟨l, hl, rfl⟩,
      ⟨hopen.1, hl'⟩, ?_, hbound⟩
    have hprograms : programEvents (es ++ [.link e]) = programEvents es := by
      simp [programEvents, programEvent]
    unfold simulatedTotal
    rw [hprograms]
    dsimp only
    omega

/-- **Every transfer through the simulator can be completed.**  With no loss, cuts, errors or
jitter, for files of every size, every delay and either direction: from every state the three
programs reach over FIFO sockets that are writable whenever something is read, without a
retransmission timeout and with a clock that ticks, as long as no socket has hung up and no call of
the simulator failed for good, some events of the same kind bring the transfer to its end, and the
output is the file then. -/
theorem simulatedCompletes_of_run (crc32 : List UInt8 → UInt32) (file : List UInt8)
    (buffer : Memory) (freshAck : Pkt) (clockAck : UInt32) (fill : FillInputs) (s₀ : Sender)
    (hinit : Sender.init crc32 file buffer freshAck clockAck fill = some s₀)
    (mallocQueue : Bool) (mallocSlots : Option (ℕ → PktSlot)) (clock : Option Timeval)
    (l₀ : LinkSim) (hlink : LinkSim.init mallocQueue mallocSlots clock = some l₀)
    (bufferR : Memory) (params : LinkParams) (hparams : Faultless params)
    (srcAddr : SockaddrIn6) (haddr : sameSockaddr params.destAddr srcAddr = false)
    (es : List SimulatedEvent) (n : SimulatedNetwork)
    (hrun : Run (simulatedStep crc32 params) (FifoSockets crc32 params srcAddr)
      ⟨s₀, l₀, Receiver.init bufferR⟩ es n)
    (hopen : n.receiver.status ≠ .hangup) (hrunning : n.link.running = true) :
    ∃ es' n', es'.length ≤ 3 * transferBound file ∧
      Run (simulatedStep crc32 params) (FifoSockets crc32 params srcAddr)
        ⟨s₀, l₀, Receiver.init bufferR⟩ (es ++ es') n' ∧
      n'.receiver.status = .endOfData ∧ n'.receiver.stdout.flatten = file := by
  obtain ⟨hgen, hstart⟩ := starts_of_init hinit
  have hfresh := fresh_of_init hlink
  -- what is left of the bound
  let left (es : List SimulatedEvent) (n : SimulatedNetwork) : ℕ :=
    3 * transferBound file - simulatedTotal params es n
  have hprogress : ∀ es n, Run (simulatedStep crc32 params) (FifoSockets crc32 params srcAddr)
      ⟨s₀, l₀, Receiver.init bufferR⟩ es n →
      n.receiver.status ≠ .hangup ∧ n.link.running = true → n.receiver.status ≠ .endOfData →
      ∃ e n', FifoSockets crc32 params srcAddr es n e ∧ simulatedStep crc32 params n e = some n' ∧
        (n'.receiver.status ≠ .hangup ∧ n'.link.running = true) ∧
        left (es ++ [e]) n' < left es n := by
    intro es n hruns hopen hgoes
    obtain ⟨e, n', hsockets, hn', hopen', hmore, hbound⟩ :=
      exists_further_of_run hgen hstart hfresh hparams haddr hruns hopen hgoes
    refine ⟨e, n', hsockets, hn', hopen', ?_⟩
    unfold left
    omega
  obtain ⟨es', n', hlen, hruns, hend⟩ := hrun.exists_reaching
    (I := fun n => n.receiver.status ≠ .hangup ∧ n.link.running = true)
    (Q := fun n => n.receiver.status = .endOfData) left hprogress ⟨hopen, hrunning⟩
  obtain ⟨hperfect, -⟩ := perfectLink_of_run hgen hstart hfresh hparams haddr hruns
  obtain ⟨t, -, hin⟩ := transfer_of_run hgen hstart hperfect
  exact ⟨es', n', hlen.trans (Nat.sub_le _ _), hruns, hend, hin.output_of_end hend⟩

/-- From the state in which the first packet is delayed. -/
theorem simulatedCompletes_oneByte :
    let es : List SimulatedEvent :=
      [.sender writePoll, .link (pollAt 1 0 (.received ⟨2, 1, 0⟩ (firstDatagram [65])))]
    ∃ es' n', es'.length ≤ 3 * transferBound [65] ∧
      Run (simulatedStep zlibCrc32 slowLink) (FifoSockets zlibCrc32 slowLink ⟨2, 1, 0⟩)
        (startSimulated [65]) (es ++ es') n' ∧
      n'.receiver.status = .endOfData ∧ n'.receiver.stdout.flatten = [65] := by
  intro es
  obtain ⟨n, hrun, hview⟩ := exists_run_of_follow (simulatedStep zlibCrc32 slowLink)
    (FifoSockets zlibCrc32 slowLink ⟨2, 1, 0⟩) (startSimulated [65]) es
    (fun n => (n.receiver.status, n.link.running)) (show _ = some (.running, true) by
      decide +kernel)
  obtain ⟨hstatus, hrunning⟩ := Prod.mk.inj hview
  exact simulatedCompletes_of_run zlibCrc32 [65] _ _ _ _ _ (init_startSender [65]) true
    (some emptySlots) (some ⟨0, 0⟩) _ init_startLink _ slowLink ⟨rfl, rfl, rfl, rfl⟩ ⟨2, 1, 0⟩
    (by decide) es n hrun (by rw [hstatus]; decide) hrunning

end TrtpNetwork
