import TrtpNetwork.Linksimulator.Conservation
import TrtpNetwork.Packet.Corruption
import TrtpNetwork.Sender.Table
import TrtpNetwork.System.Network

/-!
# The two programs with the link simulator between them

The sender writes to the simulator, the simulator to the receiver, and back.  A state is one of each
of the three programs, and an event is an iteration of one of them.  The sockets between them belong
to one machine; all that is assumed of them is that they make no datagrams up
(`ConnectedSockets`).

What the simulator may turn a datagram into is no danger: a packet whose first byte, or any one
byte, is another decodes to itself or not at all (`decodeRead_altered`).  `Carried` says that
nothing is on its way but what one of the two programs wrote, whole or altered.
-/

namespace TrtpNetwork

variable {crc32 : List UInt8 → UInt32} {file : List UInt8}

/-! ## Altered datagrams -/

/-- One byte of an encoding is replaced by another. -/
theorem pktDecode_of_oneByte (hcrc : DetectsByteChange crc32) {pkt : Pkt} {payload : List UInt8}
    (hcontent : pkt.content = some payload) (hlen : payload.length ≤ 512) {data sent : Memory}
    (hsent : StartsWith sent (encoding crc32 pkt payload)) {i : ℕ}
    (hi : i < (encoding crc32 pkt payload).length) (hne : data i ≠ sent i)
    (hsame : ∀ j < (encoding crc32 pkt payload).length, j ≠ i → data j = sent j) (malloc : Bool)
    (len : ℕ) (old : Pkt) : (pktDecode crc32 malloc data len old).1 ≠ .pktOk := by
  have hpl := Payload.length_of_read hcontent
  have hheader : ∀ j < 12, j ≠ i → data j = sent j :=
    fun j hj hji => hsame j (hj.trans_le (twelve_le_length_encoding crc32 pkt payload)) hji
  rcases Nat.lt_or_ge i 8 with h8 | h8
  · exact pktDecode_of_headerChanged hcrc hsent h8 hne hheader malloc len old
  rcases Nat.lt_or_ge i 12 with h12 | h12
  · exact pktDecode_of_crc1Changed hsent h8 h12 hne hheader malloc len old
  · exact pktDecode_of_payloadChanged hcrc hpl (by omega) hsent h12 hi hne hsame malloc len old

/-- **What a simulated link makes of a packet** is the packet or is rejected, whatever the buffer it
is read into holds. -/
theorem decodeRead_altered (hcrc : DetectsByteChange crc32) {pkt : Pkt} {payload : List UInt8}
    (hcontent : pkt.content = some payload) (htr : pkt.tr = 0) (hlen : payload.length ≤ 496)
    {out : List UInt8} (h : Altered (encoding crc32 pkt payload) out) :
    out = encoding crc32 pkt payload ∨ ∀ (buffer beyond : Memory) (fresh : Pkt),
      (decodeRead crc32 buffer (.bytes out) beyond fresh).1 ≠ .pktOk := by
  have hsize : (encoding crc32 pkt payload).length ≤ maxBufferSize :=
    (length_encoding_le crc32 pkt payload).trans (by unfold maxBufferSize; omega)
  have h12 := twelve_le_length_encoding crc32 pkt payload
  have hsent := startsWith_memcpy (fun _ => 0) (encoding crc32 pkt payload)
  cases h with
  | unchanged => exact Or.inl rfl
  | truncated hlong _ =>
    refine Or.inr fun buffer beyond fresh => ?_
    have hcut : (((encoding crc32 pkt payload).take minPktPdataLen).modify 0
        fun b => b ||| 0x20).length = 12 := by
      rw [List.length_modify, List.length_take]
      unfold minPktPdataLen at *
      omega
    have hfits : (((encoding crc32 pkt payload).take minPktPdataLen).modify 0
        fun b => b ||| 0x20).length ≤ maxBufferSize := by
      rw [hcut]
      decide
    have hstart := startsWith_bufferView hfits buffer beyond
    have hfirst := hstart 0 (by omega)
    refine pktDecode_of_headerChanged hcrc hsent (i := 0) (by decide) ?_ (fun j hj hj0 => ?_) true
      maxBufferSize fresh
    · rw [hfirst, List.getElem_modify_eq, List.getElem_take, ← hsent 0 (by omega)]
      exact or_tr_ne hsent htr
    · rw [hstart j (by omega), List.getElem_modify_ne _ _ (Ne.symm hj0), List.getElem_take,
        hsent j (by omega)]
  | @inverted i hi =>
    refine Or.inr fun buffer beyond fresh => ?_
    have hsame : ((encoding crc32 pkt payload).modify i fun b => ~~~b).length =
        (encoding crc32 pkt payload).length := List.length_modify ..
    have hfits : ((encoding crc32 pkt payload).modify i fun b => ~~~b).length ≤ maxBufferSize := by
      rw [hsame]
      exact hsize
    have hstart := startsWith_bufferView hfits buffer beyond
    refine pktDecode_of_oneByte hcrc hcontent (by omega) hsent hi ?_ (fun j hj hji => ?_) true
      maxBufferSize fresh
    · rw [hstart i (by omega), List.getElem_modify_eq, hsent i hi]
      exact UInt8.not_ne_self
    · rw [hstart j (by omega), List.getElem_modify_ne _ _ (Ne.symm hji), hsent j hj]

/-! ## The system -/

/-- A state of the sender, one of the link simulator and one of the receiver. -/
structure SimulatedNetwork where
  sender : Sender
  link : LinkSim
  receiver : Receiver

/-- A poll iteration of one of the programs, or a turn of the simulator. -/
inductive SimulatedEvent where
  | sender (e : SenderPoll)
  | link (e : ProxyPoll)
  | receiver (e : ReceiverPoll)

variable (crc32) in
/-- One iteration of the program whose event it is. -/
def simulatedStep (params : LinkParams) (n : SimulatedNetwork) :
    SimulatedEvent → Option SimulatedNetwork
  | .sender e => (readWriteLoopSender crc32 n.sender e).map fun s => { n with sender := s }
  | .link e => (proxyLoop params n.link e).map fun l => { n with link := l }
  | .receiver e => (readWriteLoop crc32 n.receiver e).map fun r => { n with receiver := r }

/-- **The sockets make no datagrams up.**  The two programs read what the simulator sent them, and
the simulator hears from their addresses what they wrote.  Datagrams may be lost, copied and
reordered, and others may send to the simulator; but not before it has heard the sender. -/
def ConnectedSockets (params : LinkParams) (srcAddr : SockaddrIn6) (n : SimulatedNetwork) :
    SimulatedEvent → Prop
  | .sender e => ∀ result ∈ e.readable.result, ∃ w ∈ n.link.sent,
      w.direction = .reverse ∧ result = .bytes w.datagram
  | .link e => ∀ h ∈ heard e,
      (n.link.source = none → sameSockaddr h.1 srcAddr = true) ∧
      (sameSockaddr h.1 srcAddr = true → ∃ w ∈ n.sender.written, h.2 = w.datagram) ∧
      (sameSockaddr h.1 params.destAddr = true → ∃ a ∈ n.receiver.written, h.2 = a.2)
  | .receiver e => ∀ result ∈ e.readable.result, ∃ w ∈ n.link.sent,
      w.direction = .forward ∧ result = .bytes w.datagram

variable {params : LinkParams} {srcAddr : SockaddrIn6} {n n' : SimulatedNetwork}

/-! ## The logs -/

/-- The log of the sender only grows. -/
theorem written_prefix_of_sender {s s' : Sender} {e : SenderPoll}
    (h : readWriteLoopSender crc32 s e = some s') : s.written <+: s'.written := by
  refine readWriteLoopSender_rule crc32 (P := fun m => s.written <+: m.written)
    (fun a m ha hm => ?_) (fun m b hm hb => ?_) List.prefix_rfl h
  · rw [written_senderReceive crc32 hm]
    exact ha
  · have hnext : ∀ a b, s.written <+: a.written → sendNext crc32 e a = some b →
        s.written <+: b.written := by
      intro a b ha hb
      rcases sendNext_cases crc32 hb with ⟨-, rfl⟩ | ⟨i, p, pkt, payload, -, -, -, -, -, rfl⟩
      · exact ha
      · exact ha.trans (List.prefix_append ..)
    refine senderReply_rule crc32 (P := fun m => s.written <+: m.written) (fun a b ha hb => ?_)
      (fun a b ha hb => ?_) (fun a b ha hb => ?_) hm hb
    · rcases retransmitNack_cases crc32 hb with rfl | rfl | ⟨i, p, pkt, payload, -, -, -, rfl⟩
      · exact ha
      · exact ha
      · exact ha.trans (List.prefix_append ..)
    · rcases sendWindow_cases crc32 hb with ⟨-, rfl⟩ | ⟨-, m, hm, hrest⟩
      · exact ha
      · have hloop : s.written <+: m.written :=
          sendLoop_rule crc32 (P := fun m => s.written <+: m.written)
            (fun a b ha _ hb => hnext a b ha hb) ha hm
        rcases hrest with ⟨-, rfl⟩ | ⟨-, rfl⟩
        · exact hloop
        · exact hloop
    · rcases resendTimeout_cases crc32 hb with rfl | ⟨p, pkt, payload, -, -, -, -, rfl⟩
      · exact ha
      · exact ha.trans (List.prefix_append ..)

variable (crc32) in
/-- Everything the receiver wrote is the encoding of an ACK or a NACK. -/
def RepliesOnly (r : Receiver) : Prop :=
  ∀ a ∈ r.written, a.2 = encoding crc32 a.1 [] ∧ a.1.content = some [] ∧ a.1.tr = 0 ∧
    a.1.type ≠ .data

/-- The log of the receiver only grows, and by replies. -/
theorem written_prefix_of_receiver {r r' : Receiver} {e : ReceiverPoll}
    (h : readWriteLoop crc32 r e = some r') :
    r.written <+: r'.written ∧ (RepliesOnly crc32 r → RepliesOnly crc32 r') := by
  have hsnoc : ∀ (a : Receiver) (type : Ptypes) (seqnum window : ℤ) (t : UInt32) (fresh : Pkt)
      (b : Receiver), type ≠ .data → b.written = a.written ++
        [(controlPkt fresh type seqnum window t,
          encoding crc32 (controlPkt fresh type seqnum window t) [])] →
      r.written <+: a.written ∧ (RepliesOnly crc32 r → RepliesOnly crc32 a) →
      r.written <+: b.written ∧ (RepliesOnly crc32 r → RepliesOnly crc32 b) := by
    rintro a type seqnum window t fresh b htype hb ⟨hgrown, honly⟩
    refine ⟨hgrown.trans (by rw [hb]; exact List.prefix_append ..), fun hr w hw => ?_⟩
    rw [hb] at hw
    rcases List.mem_append.mp hw with hw | hw
    · exact honly hr w hw
    · obtain rfl := List.mem_singleton.mp hw
      exact ⟨rfl, rfl, rfl, htype⟩
  refine readWriteLoop_rule crc32 (P := fun m => r.written <+: m.written ∧
      (RepliesOnly crc32 r → RepliesOnly crc32 m)) (fun a m ha hm => ?_) (fun m b hm hb => ?_)
    ⟨List.prefix_rfl, id⟩ h
  · have hwritten := (receives_of_receive crc32 hm).written
    unfold RepliesOnly at *
    rw [hwritten]
    exact ha
  · rcases reply_cases crc32 hb with ⟨-, status, rfl⟩ | ⟨-, q, hq, hack⟩
    · exact hm
    · have hq' : q.nack = -1 ∧ r.written <+: q.written ∧
          (RepliesOnly crc32 r → RepliesOnly crc32 q) := by
        rcases sendNack_cases crc32 hq with ⟨hnack, rfl⟩ | ⟨-, rfl⟩
        · exact ⟨hnack, hm⟩
        · exact ⟨rfl, hsnoc m .nack _ _ _ _ _ (by decide) rfl hm⟩
      rcases sendAck_cases crc32 hack hq'.1 with ⟨-, rfl⟩ | ⟨-, s, bytes, -, -, rfl⟩
      · exact hq'.2
      · exact hsnoc q .ack _ _ _ _ _ (by decide) rfl hq'.2

/-! ## What is on its way -/

/-- What the simulator sent or keeps was written by the program it is not for. -/
structure Carried (srcAddr : SockaddrIn6) (n : SimulatedNetwork) : Prop where
  valid : n.link.pktQueue.Valid PktSlot.key
  source : ∀ src ∈ n.link.source, sameSockaddr src srcAddr = true
  forward : ∀ out ∈ n.link.outgoing, out.1 = .forward →
    ∃ w ∈ n.sender.written, Altered w.datagram out.2
  reverse : ∀ out ∈ n.link.outgoing, out.1 = .reverse →
    ∃ a ∈ n.receiver.written, Altered a.2 out.2

theorem sameSockaddr_trans {a b c : SockaddrIn6} (h : sameSockaddr a b = true)
    (h' : sameSockaddr b c = true) : sameSockaddr a c = true := by
  unfold sameSockaddr at *
  simp only [Bool.and_eq_true, beq_iff_eq] at *
  exact ⟨h.1.trans h'.1, h.2.trans h'.2⟩

/-- Longer logs carry what shorter ones did. -/
theorem Carried.mono (h : Carried srcAddr n) (hlink : n'.link = n.link)
    (hsender : n.sender.written <+: n'.sender.written)
    (hreceiver : n.receiver.written <+: n'.receiver.written) : Carried srcAddr n' := by
  refine ⟨by rw [hlink]; exact h.valid, by rw [hlink]; exact h.source, ?_, ?_⟩
  · rw [hlink]
    intro out hout hdirection
    obtain ⟨w, hw, haltered⟩ := h.forward out hout hdirection
    exact ⟨w, hsender.subset hw, haltered⟩
  · rw [hlink]
    intro out hout hdirection
    obtain ⟨a, ha, haltered⟩ := h.reverse out hout hdirection
    exact ⟨a, hreceiver.subset ha, haltered⟩

theorem sourceAfter_eq_or (source : Option SockaddrIn6) (e : ProxyPoll) :
    sourceAfter source e = source ∨
      source = none ∧ ∃ h ∈ heard e, sourceAfter source e = some h.1 := by
  unfold sourceAfter
  cases source with
  | some src => exact Or.inl rfl
  | none =>
    cases heard e with
    | none => exact Or.inl rfl
    | some h => exact Or.inr ⟨rfl, h, rfl, rfl⟩

theorem Carried.link_step (h : Carried srcAddr n) {e : ProxyPoll}
    (hsockets : ConnectedSockets params srcAddr n (.link e)) {l : LinkSim}
    (hstep : proxyLoop params n.link e = some l) : Carried srcAddr { n with link := l } := by
  have hturn := turnAdds_of_proxyLoop h.valid hstep
  have hafter : ∀ src ∈ sourceAfter n.link.source e, sameSockaddr src srcAddr = true := by
    rcases sourceAfter_eq_or n.link.source e with hsame | ⟨hnone, h₁, hheard, hfirst⟩
    · rw [hsame]
      exact h.source
    · rw [hfirst]
      rintro src hsrc
      obtain rfl := Option.some.inj hsrc
      exact (hsockets h₁ hheard).1 hnone
  have hnew : ∀ out ∈ l.outgoing, out ∈ n.link.outgoing ∨
      passedOn params n.link.source e = some out := by
    intro out hout
    rcases Multiset.mem_add.mp (Multiset.mem_of_le hturn.bounded hout) with hold | hnow
    · exact Or.inl hold
    · exact Or.inr (Option.mem_toList.mp (Multiset.mem_coe.mp hnow))
  refine ⟨hturn.valid, ?_, ?_, ?_⟩
  · rcases hturn.source with hsource | hsource
    · rw [hsource]
      exact h.source
    · rw [hsource]
      exact hafter
  · rintro ⟨direction, out⟩ hout rfl
    rcases hnew _ hout with hold | hnow
    · exact h.forward _ hold rfl
    · obtain ⟨addr, buf, src, hheard, hsrc, hdirection, haltered, -⟩ := heard_of_passedOn hnow
      have haddr : sameSockaddr addr src = true := by
        unfold directionOf at hdirection
        split at hdirection
        · assumption
        · split at hdirection <;> cases hdirection
      obtain ⟨w, hw, hbuf⟩ := (hsockets _ hheard).2.1
        (sameSockaddr_trans haddr (hafter src hsrc))
      obtain rfl : buf = w.datagram := hbuf
      exact ⟨w, hw, haltered⟩
  · rintro ⟨direction, out⟩ hout rfl
    rcases hnew _ hout with hold | hnow
    · exact h.reverse _ hold rfl
    · obtain ⟨addr, buf, src, hheard, -, hdirection, haltered, -⟩ := heard_of_passedOn hnow
      have haddr : sameSockaddr addr params.destAddr = true := by
        unfold directionOf at hdirection
        split at hdirection
        · cases hdirection
        · split at hdirection
          · assumption
          · cases hdirection
      obtain ⟨a, ha, hbuf⟩ := (hsockets _ hheard).2.2 haddr
      obtain rfl : buf = a.2 := hbuf
      exact ⟨a, ha, haltered⟩

/-- **One event.** -/
theorem Carried.step (h : Carried srcAddr n) {e : SimulatedEvent}
    (hsockets : ConnectedSockets params srcAddr n e)
    (hstep : simulatedStep crc32 params n e = some n') : Carried srcAddr n' := by
  cases e with
  | sender e =>
    obtain ⟨s, hs, rfl⟩ := Option.map_eq_some_iff.mp hstep
    exact h.mono rfl (written_prefix_of_sender hs) List.prefix_rfl
  | link e =>
    obtain ⟨l, hl, rfl⟩ := Option.map_eq_some_iff.mp hstep
    exact h.link_step hsockets hl
  | receiver e =>
    obtain ⟨r, hr, rfl⟩ := Option.map_eq_some_iff.mp hstep
    exact h.mono rfl List.prefix_rfl (written_prefix_of_receiver hr).1

/-- What was sent is on its way. -/
theorem mem_outgoing_of_sent {l : LinkSim} {w : Sent} (hw : w ∈ l.sent) :
    (w.direction, w.datagram) ∈ l.outgoing :=
  Multiset.mem_add.mpr (Or.inl (Multiset.mem_coe.mpr (List.mem_map_of_mem hw)))

variable (crc32 file) in
/-- What holds of the three programs together: the logs of the two are of packets, and the simulator
carries them. -/
structure Linked (srcAddr : SockaddrIn6) (n : SimulatedNetwork) : Prop
    extends Carried srcAddr n where
  genuine : Genuine crc32 file n.sender
  replies : RepliesOnly crc32 n.receiver

/-- At the start nothing is on its way. -/
theorem linked_start {s₀ : Sender} {l₀ : LinkSim} {clock : Option Timeval}
    (hgen : Genuine crc32 file s₀) (hlink : l₀.Fresh clock) (buffer : Memory) :
    Linked crc32 file srcAddr ⟨s₀, l₀, Receiver.init buffer⟩ := by
  have hempty : l₀.outgoing = 0 := by
    rw [LinkSim.outgoing, hlink.sent, hlink.queue]
    rfl
  refine ⟨⟨hlink.valid, ?_, ?_, ?_⟩, hgen, ?_⟩
  · simp [hlink.source]
  · simp [hempty]
  · simp [hempty]
  · intro a ha
    cases ha

/-- **One event.** -/
theorem Linked.step (h : Linked crc32 file srcAddr n) {e : SimulatedEvent}
    (hsockets : ConnectedSockets params srcAddr n e)
    (hstep : simulatedStep crc32 params n e = some n') : Linked crc32 file srcAddr n' := by
  have hcarried := h.toCarried.step hsockets hstep
  cases e with
  | sender e =>
    obtain ⟨s, hs, rfl⟩ := Option.map_eq_some_iff.mp hstep
    exact ⟨hcarried, h.genuine.step hs, h.replies⟩
  | link e =>
    obtain ⟨l, hl, rfl⟩ := Option.map_eq_some_iff.mp hstep
    exact ⟨hcarried, h.genuine, h.replies⟩
  | receiver e =>
    obtain ⟨r, hr, rfl⟩ := Option.map_eq_some_iff.mp hstep
    exact ⟨hcarried, h.genuine, (written_prefix_of_receiver hr).2 h.replies⟩

/-- **What the receiver reads** is a datagram of the sender, or is rejected. -/
theorem Linked.receiver_reads (hcrc : DetectsByteChange crc32) (h : Linked crc32 file srcAddr n)
    {e : ReceiverPoll} (hsockets : ConnectedSockets params srcAddr n (.receiver e))
    {result : ReadResult} (he : e.readable = .pollin result) :
    (∃ w ∈ n.sender.written, result = .bytes w.datagram) ∨
      ∀ (buffer beyond : Memory) (fresh : Pkt),
        (decodeRead crc32 buffer result beyond fresh).1 ≠ .pktOk := by
  obtain ⟨u, hu, hforward, rfl⟩ := hsockets result (Readable.result_eq_some_iff.mpr he)
  obtain ⟨w, hw, haltered⟩ := h.forward _ (mem_outgoing_of_sent hu) hforward
  obtain ⟨pkt, ⟨⟨-, -, hcontent⟩, htr⟩, hdatagram⟩ := h.genuine.sent w hw
  have hlen : (chunk file w.position).length ≤ 496 :=
    (length_chunk_le file w.position).trans (by decide)
  rw [hdatagram] at haltered
  rcases decodeRead_altered hcrc hcontent htr hlen haltered with hsame | hrejected
  · exact Or.inl ⟨w, hw, by rw [hdatagram, ← hsame]⟩
  · exact Or.inr hrejected

/-- **What the sender reads** is a reply of the receiver, or is rejected. -/
theorem Linked.sender_reads (hcrc : DetectsByteChange crc32) (h : Linked crc32 file srcAddr n)
    {e : SenderPoll} (hsockets : ConnectedSockets params srcAddr n (.sender e))
    {result : ReadResult} (he : e.readable = .pollin result) :
    (∃ a ∈ n.receiver.written, result = .bytes a.2) ∨
      ∀ (buffer beyond : Memory) (fresh : Pkt),
        (decodeRead crc32 buffer result beyond fresh).1 ≠ .pktOk := by
  obtain ⟨u, hu, hreverse, rfl⟩ := hsockets result (Readable.result_eq_some_iff.mpr he)
  obtain ⟨a, ha, haltered⟩ := h.reverse _ (mem_outgoing_of_sent hu) hreverse
  obtain ⟨hdatagram, hcontent, htr, -⟩ := h.replies a ha
  rw [hdatagram] at haltered
  rcases decodeRead_altered hcrc hcontent htr (Nat.zero_le _) haltered with hsame | hrejected
  · exact Or.inl ⟨a, ha, by rw [hdatagram, ← hsame]⟩
  · exact Or.inr hrejected

instance (n : SimulatedNetwork) (e : SimulatedEvent) :
    Decidable (ConnectedSockets params srcAddr n e) :=
  match e with
  | .sender e => inferInstanceAs (Decidable (∀ result ∈ e.readable.result, ∃ w ∈ n.link.sent,
      w.direction = .reverse ∧ result = .bytes w.datagram))
  | .link e => inferInstanceAs (Decidable (∀ h ∈ heard e,
      (n.link.source = none → sameSockaddr h.1 srcAddr = true) ∧
      (sameSockaddr h.1 srcAddr = true → ∃ w ∈ n.sender.written, h.2 = w.datagram) ∧
      (sameSockaddr h.1 params.destAddr = true → ∃ a ∈ n.receiver.written, h.2 = a.2)))
  | .receiver e => inferInstanceAs (Decidable (∀ result ∈ e.readable.result, ∃ w ∈ n.link.sent,
      w.direction = .forward ∧ result = .bytes w.datagram))

/-- Packet 0 of a file, as it was when the table was first filled. -/
def firstDatagram (file : List UInt8) : List UInt8 :=
  encoding zlibCrc32 (dataPkt blankPkt (chunk file 0) 0 1 0) (chunk file 0)

/-- The three programs at the start of a transfer. -/
def startSimulated (file : List UInt8) : SimulatedNetwork :=
  ⟨startSender file, startLink, Receiver.init fun _ => 0⟩

end TrtpNetwork
