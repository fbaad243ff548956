import TrtpNetwork.System.PerfectLink

/-!
# A transfer can always be completed

Over a perfect link no state that is reached is a dead end: while the receiver's loop goes on, every
move of the sliding window that the two loops refine is an iteration of one of them
(`InStep.exists_event`), and a sliding window never gets stuck.  So from every state the transfer
can be brought to its end, with the file written, in a number of iterations that the length of the
file bounds (`completes_of_run`).

The bound is the one on the three counters of the window.  No packet behind the end of the file is
delivered, because the first empty one ends the loop (`nonempty_of_delivered`).
-/

namespace TrtpNetwork

variable {crc32 : List UInt8 → UInt32} {file : List UInt8} {n n' : Network} {t t' : Transfer}
  {es : List Event}

/-! ## What is allowed -/

/-- An iteration of the receiver that reads a datagram, with the socket writable. -/
def readPoll (datagram : List UInt8) : ReceiverPoll where
  readable := .pollin (.bytes datagram)
  writable := .pollout
  beyond := fun _ => 0
  freshRcv := blankPkt
  freshNack := blankPkt
  freshAck := blankPkt

/-- No event of this iteration is a hang-up of the receiver's socket. -/
def Event.Quiet : Event → Prop
  | .sender _ => True
  | .receiver e => e.readable ≠ .other ∧ e.writable ≠ .other

/-- While the clock shows 0 no retransmission timeout fires. -/
theorem noTimeout {s : Sender} {e : SenderPoll} (hclock : e.clockTimer = 0) {k j : ℕ}
    (h : ∃ s', readWriteLoopSender crc32 s e = some s' ∧
      (UpToDate crc32 file k j s' ∨ TimedOut e s')) :
    ∀ s' ∈ readWriteLoopSender crc32 s e, ∀ w ∈ s'.written, w.cause ≠ .timeout := by
  intro s' hs' w hw
  obtain ⟨q, hq, hup | ⟨hlate, -⟩⟩ := h
  · obtain rfl := Option.some.inj (hs'.symm.trans hq)
    rw [hup.cause w hw]
    decide
  · rw [hclock] at hlate
    exact absurd hlate (Nat.lt_irrefl 0)

/-- A receiver that has not read the end of the file acknowledged everything it read. -/
theorem InStep.length_acks (h : InStep crc32 file n t) (hgoes : n.receiver.status ≠ .endOfData) :
    n.receiver.written.length = t.delivered := by
  rcases h.receiver with ⟨-, ds, hord, hcount, hidle⟩ | ⟨hend, -⟩
  · rw [hord.acks, ← hcount, hord.count, if_pos hidle, Nat.add_zero]
  · exact absurd hend hgoes

/-- **Every move of the window is an iteration** that the link allows, while the receiver's loop
goes on. -/
theorem InStep.exists_event (h : InStep crc32 file n t)
    (hruns : Transfer.Runs reach (es.map Event.move) t) (hrunning : n.receiver.status = .running)
    {m : Move} (hmove : m ≠ .stay) (hm : t.step reach m = some t') :
    ∃ e, e.move = m ∧ PerfectLink crc32 es n e ∧ e.Quiet := by
  have hv := Transfer.valid_of_run reach_mono hruns
  obtain ⟨hacked, hdelivered⟩ := Transfer.counts_of_run hruns
  rw [← acksRead_eq] at hacked
  rw [← packetsRead_eq] at hdelivered
  rcases Transfer.step_cases hm with ⟨rfl, -⟩ | ⟨rfl, hlt, -⟩ | ⟨rfl, hlt, -⟩ | ⟨rfl, -⟩
  · refine ⟨.sender writePoll, rfl, ⟨h.sender.running, by decide, fun result hresult => ?_,
      noTimeout rfl (h.sender.pass rfl rfl)⟩, trivial⟩
    cases hresult
  · rw [← h.sender.toLockstep.length_written, hdelivered] at hlt
    refine ⟨.receiver (readPoll n.sender.written[packetsRead es].datagram), rfl,
      ⟨hrunning, ?_, fun result hresult => ?_⟩, ?_, ?_⟩
    · simp [readPoll]
    · obtain rfl := Option.some.inj hresult
      exact ⟨rfl, _, List.getElem?_eq_getElem hlt, rfl⟩
    · simp [readPoll]
    · simp [readPoll]
  · have hlen := h.length_acks (by rw [hrunning]; decide)
    have hread : t.acked < n.receiver.written.length := hlen ▸ hlt
    have hget := List.getElem?_eq_getElem hread
    have hack := h.ack t.acked _ hget
    have hsent := hv.delivered_le
    refine ⟨.sender { writePoll with
      readable := .pollin (.bytes n.receiver.written[t.acked].2) }, rfl,
      ⟨h.sender.running, by simp, fun result hresult => ?_,
        noTimeout rfl (h.sender.read (by omega) hack rfl rfl)⟩, trivial⟩
    obtain rfl := Option.some.inj hresult
    rw [← hacked]
    exact ⟨rfl, _, hget, rfl⟩
  · exact absurd rfl hmove

/-! ## How far a transfer can come -/

/-- A receiver that goes on has read the packets before this one in order, and waits for it. -/
theorem InStep.inOrder (h : InStep crc32 file n t) (hrunning : n.receiver.status = .running) :
    ∃ ds, InOrder crc32 (chunk file) ds n.receiver ∧ (arrivals ds).length = t.delivered ∧
      n.receiver.partialAck = -1 := by
  rcases h.receiver with ⟨-, hds⟩ | ⟨hend, -⟩
  · exact hds
  · rw [hrunning] at hend
    cases hend

/-- What it reads is the packet of the file it waits for. -/
theorem InStep.readsPacket (h : InStep crc32 file n t) {e : ReceiverPoll}
    (hreads : ∀ result ∈ e.readable.result, e.writable = .pollout ∧
      ∃ w ∈ n.sender.written[t.delivered]?, result = .bytes w.datagram) :
    ReadsPacket crc32 (chunk file) n.receiver (e, t.delivered) := by
  intro result he
  obtain ⟨-, w, hw, hresult⟩ := hreads result (Readable.result_eq_some_iff.mpr he)
  have hsent := readsPacket_of_sent h.sender.toGenuine he ⟨List.mem_of_getElem? hw, hresult⟩
    n.receiver
  rw [h.sender.toLockstep.position_of_getElem? hw] at hsent
  exact hsent result he

/-- **The receiver's loop ends** with the first empty packet, without a reply, and not before. -/
theorem InStep.ends_iff (h : InStep crc32 file n t) {e : ReceiverPoll}
    (hrunning : n.receiver.status = .running)
    (hreads : ∀ result ∈ e.readable.result, e.writable = .pollout ∧
      ∃ w ∈ n.sender.written[t.delivered]?, result = .bytes w.datagram) {r' : Receiver}
    (hstep : readWriteLoop crc32 n.receiver e = some r') :
    (r'.status = .endOfData ↔ e.Reads ∧ chunk file t.delivered = []) ∧
      (r'.status = .endOfData → r'.written = n.receiver.written) := by
  obtain ⟨ds, hord, hcount, hidle⟩ := h.inOrder hrunning
  have hread := h.readsPacket hreads
  by_cases hempty : e.Reads ∧ chunk file t.delivered = []
  · obtain ⟨q, -, hq, hended, hkeeps⟩ := hord.closes (d := (e, t.delivered)) hidle hrunning
      hempty.1 hread hempty.2
    obtain rfl := Option.some.inj (hstep.symm.trans hq)
    exact ⟨iff_of_true hended hempty, fun _ => hkeeps.written⟩
  · obtain ⟨m, q, hq, hgoes, -⟩ := hord.step (d := (e, t.delivered))
      ⟨hrunning, hread, fun _ => hcount.symm⟩ (fun hyes hnil => hempty ⟨hyes, hnil⟩) fun _ => hidle
    obtain rfl := Option.some.inj (hstep.symm.trans hq)
    exact ⟨iff_of_false hgoes hempty, fun hended => absurd hended hgoes⟩

/-- **Before the end nothing behind the end of the file was delivered.** -/
theorem nonempty_of_delivered {s₀ : Sender} (hgen : Genuine crc32 file s₀) (hstart : Starts s₀)
    {bufferR : Memory} (hrun : Run (networkStep crc32) (PerfectLink crc32)
      ⟨s₀, Receiver.init bufferR⟩ es n) (hgoes : n.receiver.status ≠ .endOfData) :
    ∀ i < packetsRead es, chunk file i ≠ [] := by
  induction hrun with
  | nil =>
    intro i hi
    exact absurd hi (Nat.not_lt_zero i)
  | @snoc es n n' e hruns hlink hstep ih =>
    obtain ⟨t, htransfer, hin⟩ := transfer_of_run hgen hstart hruns
    rw [packetsRead_snoc]
    rcases e with e | e
    · obtain ⟨s, -, rfl⟩ := Option.map_eq_some_iff.mp hstep
      simpa [Event.receiverReads] using ih hgoes
    · obtain ⟨r', hr', rfl⟩ := Option.map_eq_some_iff.mp hstep
      obtain ⟨hrunning, -, hreads⟩ := hlink
      have hbefore := ih (by rw [hrunning]; decide)
      rw [packetsRead_eq, ← (Transfer.counts_of_run htransfer).2] at hreads hbefore
      intro i hi
      rw [packetsRead_eq, ← (Transfer.counts_of_run htransfer).2] at hi
      by_cases hlt : i < t.delivered
      · exact hbefore i hlt
      · by_cases hyes : (Event.receiver e).receiverReads = true
        · rw [if_pos hyes] at hi
          obtain rfl : i = t.delivered := by omega
          obtain ⟨result, hresult⟩ := Option.isSome_iff_exists.mp hyes
          intro hempty
          exact hgoes ((hin.ends_iff hrunning hreads hr').1.mpr
            ⟨⟨result, Readable.result_eq_some_iff.mp hresult⟩, hempty⟩)
        · rw [if_neg hyes] at hi
          omega

/-- The counters, as the two loops have them. -/
theorem InStep.total_eq (h : InStep crc32 file n t)
    (hruns : Transfer.Runs reach (es.map Event.move) t) :
    t.total = n.sender.written.length + packetsRead es + acksRead es := by
  obtain ⟨hacked, hdelivered⟩ := Transfer.counts_of_run hruns
  rw [Transfer.total, h.sender.toLockstep.length_written, packetsRead_eq, acksRead_eq, hacked,
    hdelivered]

/-- An upper bound of the three counters together. -/
def transferBound (file : List UInt8) : ℕ := 3 * (file.length / chunkSize) + 8

theorem total_lt_transferBound (hv : t.Valid reach)
    (hnonempty : ∀ i < t.delivered, chunk file i ≠ []) : t.total < transferBound file := by
  have hle : t.delivered ≤ file.length / chunkSize + 1 := by
    by_contra hlt
    have hlast := hnonempty (file.length / chunkSize + 1) (by omega)
    rw [ne_eq, chunk_eq_nil_iff, not_le] at hlast
    have hdiv := Nat.lt_mul_div_succ file.length (show 0 < chunkSize by decide)
    omega
  have hacked := hv.acked_le
  have hsent := hv.sent_le
  have hreach := reach_le_add t.acked
  unfold Transfer.total transferBound
  omega

/-! ## The end can be reached -/

/-- The receiver's loop goes on, or it was left at the end of the data. -/
theorem running_of_open {r : Receiver} (hopen : r.status ≠ .hangup)
    (hgoes : r.status ≠ .endOfData) : r.status = .running := by
  cases hstatus : r.status with
  | running => rfl
  | endOfData => exact absurd hstatus hgoes
  | hangup => exact absurd hstatus hopen

/-- **An iteration that gets further**, before the end of the transfer. -/
theorem InStep.exists_further (h : InStep crc32 file n t)
    (hruns : Transfer.Runs reach (es.map Event.move) t) (hopen : n.receiver.status ≠ .hangup)
    (hgoes : n.receiver.status ≠ .endOfData) :
    ∃ e n' t', PerfectLink crc32 es n e ∧ networkStep crc32 n e = some n' ∧
      n'.receiver.status ≠ .hangup ∧ InStep crc32 file n' t' ∧
      Transfer.Runs reach ((es ++ [e]).map Event.move) t' ∧ t.total < t'.total := by
  have hv := Transfer.valid_of_run reach_mono hruns
  obtain ⟨m, t', hm, hmore⟩ := hv.exists_progress reach_mono lt_reach
  have hmove : m ≠ .stay := by
    rintro rfl
    obtain rfl := Option.some.inj hm
    exact absurd hmore (Nat.lt_irrefl _)
  obtain ⟨e, rfl, hlink, hquiet⟩ :=
    h.exists_event hruns (running_of_open hopen hgoes) hmove hm
  obtain ⟨n', t'', hn', ht'', hin'⟩ := h.step hruns hlink
  obtain rfl := Option.some.inj (hm.symm.trans ht'')
  refine ⟨e, n', t', hlink, hn', ?_, hin', ?_, hmore⟩
  · rcases e with e | e
    · obtain ⟨s, -, rfl⟩ := Option.map_eq_some_iff.mp hn'
      exact hopen
    · obtain ⟨r', hr', rfl⟩ := Option.map_eq_some_iff.mp hn'
      exact status_ne_hangup crc32 hquiet.1 hquiet.2 hopen hr'
  · rw [List.map_append]
    exact hruns.snoc trivial hm

/-- The output at the end of the transfer. -/
theorem InStep.output_of_end (h : InStep crc32 file n t) (hend : n.receiver.status = .endOfData) :
    n.receiver.stdout.flatten = file := by
  rcases h.receiver with ⟨hgoes, -⟩ | ⟨-, hfile, -⟩
  · exact absurd hend hgoes
  · exact hfile

/-- **Every transfer over a perfect link can be completed.**  From every state that is reached, for
files of every size, and as long as the receiver's socket has not hung up, some iterations that the
link allows bring the transfer to its end, and the output is the file then. -/
theorem completes_of_run (crc32 : List UInt8 → UInt32) (file : List UInt8) (buffer : Memory)
    (freshAck : Pkt) (clockAck : UInt32) (fill : FillInputs) (s₀ : Sender)
    (hinit : Sender.init crc32 file buffer freshAck clockAck fill = some s₀) (bufferR : Memory)
    (es : List Event) (n : Network)
    (hrun : Run (networkStep crc32) (PerfectLink crc32) ⟨s₀, Receiver.init bufferR⟩ es n)
    (hopen : n.receiver.status ≠ .hangup) :
    ∃ es' n', es'.length ≤ transferBound file ∧
      Run (networkStep crc32) (PerfectLink crc32) ⟨s₀, Receiver.init bufferR⟩ (es ++ es') n' ∧
      n'.receiver.status = .endOfData ∧ n'.receiver.stdout.flatten = file := by
  obtain ⟨hgen, hstart⟩ := starts_of_init hinit
  -- what is left of the bound, by the counters in the logs
  let left (es : List Event) (n : Network) : ℕ :=
    transferBound file - (n.sender.written.length + packetsRead es + acksRead es)
  have hprogress : ∀ es n, Run (networkStep crc32) (PerfectLink crc32)
      ⟨s₀, Receiver.init bufferR⟩ es n → n.receiver.status ≠ .hangup →
      n.receiver.status ≠ .endOfData → ∃ e n', PerfectLink crc32 es n e ∧
        networkStep crc32 n e = some n' ∧ n'.receiver.status ≠ .hangup ∧
        left (es ++ [e]) n' < left es n := by
    intro es n hruns hopen hgoes
    obtain ⟨t, htransfer, hin⟩ := transfer_of_run hgen hstart hruns
    obtain ⟨e, n', t', hlink, hn', hopen', hin', htransfer', hmore⟩ :=
      hin.exists_further htransfer hopen hgoes
    have hbound : t.total < transferBound file := by
      refine total_lt_transferBound (Transfer.valid_of_run reach_mono htransfer) ?_
      rw [(Transfer.counts_of_run htransfer).2, ← packetsRead_eq]
      exact nonempty_of_delivered hgen hstart hruns hgoes
    refine ⟨e, n', hlink, hn', hopen', ?_⟩
    unfold left
    rw [← hin.total_eq htransfer, ← hin'.total_eq htransfer']
    omega
  obtain ⟨es', n', hlen, hruns, hend⟩ := hrun.exists_reaching
    (I := fun n => n.receiver.status ≠ .hangup) (Q := fun n => n.receiver.status = .endOfData)
    left hprogress hopen
  obtain ⟨t, -, hin⟩ := transfer_of_run hgen hstart hruns
  exact ⟨es', n', hlen.trans (Nat.sub_le _ _), hruns, hend, hin.output_of_end hend⟩

/-- From the state behind the first packet and its ACK. -/
theorem completes_oneByte :
    let es : List Event :=
      [.sender writePoll, .receiver (dataPoll [65] 0 .pollout), .sender (ackPoll 1 .pollout)]
    ∃ es' n', es'.length ≤ transferBound [65] ∧
      Run (networkStep zlibCrc32) (PerfectLink zlibCrc32) (startNetwork [65]) (es ++ es') n' ∧
      n'.receiver.status = .endOfData ∧ n'.receiver.stdout.flatten = [65] := by
  intro es
  obtain ⟨n, hrun, hview⟩ := exists_run_of_follow (networkStep zlibCrc32) (PerfectLink zlibCrc32)
    (startNetwork [65]) es (fun n => n.receiver.status) (show _ = some .running by decide +kernel)
  exact completes_of_run zlibCrc32 [65] (fun _ => 0) blankPkt 0 blankFill _ (init_startSender [65])
    (fun _ => 0) es n hrun (by rw [hview]; decide)

end TrtpNetwork
