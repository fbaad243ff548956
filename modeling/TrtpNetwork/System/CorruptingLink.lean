import TrtpNetwork.Receiver.Accepted
import TrtpNetwork.Receiver.Rejected
import TrtpNetwork.System.LossyLink
import TrtpNetwork.System.PointerNetwork

/-!
# A link that corrupts datagrams

With the link simulator in between, whatever its options and its random numbers are, datagrams may
be lost, cut, corrupted, delayed and reordered on their way.

* Nothing that is corrupted gets through: what the receiver writes are chunks of the file that were
  sent, and what the sender takes for a reply is one (`integrity_of_run`).
* To the receive window a link that corrupts datagrams is one that loses them: leaving out the
  datagrams that are rejected, a run with the simulator is a run of the two programs on a link that
  only loses, copies and reorders (`losesOnly_of_run`).  So is a run of the programs with their
  pointers, however the receiver flushes (`exists_losesOnly_of_pointers`).
* So the output is the front of the file under the conditions of `System.LossyLink`, which now
  concern the datagrams that arrive whole (`intactPrefix_of_run`).
-/

namespace TrtpNetwork

variable {crc32 : List UInt8 → UInt32} {file : List UInt8} {params : LinkParams}
  {srcAddr : SockaddrIn6} {n n' : SimulatedNetwork} {m : Network}

/-! ## Integrity -/

/-- The block is the payload of a packet the sender sent. -/
def SentBlock (file : List UInt8) (s : Sender) (block : List UInt8) : Prop :=
  ∃ w ∈ s.written, block = chunk file w.position

/-- **An event keeps the receiver to what was sent.** -/
theorem holds_step (hcrc : DetectsByteChange crc32) (h : Linked crc32 file srcAddr n)
    (hholds : Holds (SentBlock file n.sender) n.receiver) {e : SimulatedEvent}
    (hsockets : ConnectedSockets params srcAddr n e)
    (hstep : simulatedStep crc32 params n e = some n') :
    Holds (SentBlock file n'.sender) n'.receiver := by
  cases e with
  | sender e =>
    obtain ⟨s, hs, rfl⟩ := Option.map_eq_some_iff.mp hstep
    refine hholds.mono fun block ⟨w, hw, hblock⟩ => ⟨w, ?_, hblock⟩
    exact (written_prefix_of_sender hs).subset hw
  | link e =>
    obtain ⟨l, hl, rfl⟩ := Option.map_eq_some_iff.mp hstep
    exact hholds
  | receiver e =>
    obtain ⟨r, hr, rfl⟩ := Option.map_eq_some_iff.mp hstep
    refine hholds.step (fun bytes haccepts => ?_) hr
    obtain ⟨result, he, hok, -, hbytes⟩ := haccepts
    rcases h.receiver_reads hcrc hsockets he with ⟨w, hw, hresult⟩ | hrejected
    · obtain ⟨-, -, -, hcontent⟩ :=
        readsPacket_of_sent h.genuine he ⟨hw, hresult⟩ n.receiver result he
      exact ⟨w, hw, Option.some.inj (hbytes.symm.trans hcontent)⟩
    · exact absurd hok (hrejected _ _ _)

/-- **Corruption is noticed on both sides.**  In every run with the simulator in between, of the
programs with their pointers, whatever its options are, each block the receiver wrote is the chunk
of the file in a packet that was sent, and each packet the sender is about to accept has the fields
of a reply the receiver wrote. -/
theorem integrity_of_run (crc32 : List UInt8 → UInt32) (hcrc : DetectsByteChange crc32)
    (file : List UInt8) (buffer : Memory) (freshAck : Pkt) (clockAck : UInt32) (fill : FillInputs)
    (s₀ : Sender) (hinit : Sender.init crc32 file buffer freshAck clockAck fill = some s₀)
    (mallocQueue : Bool) (mallocSlots : Option (ℕ → PktSlot)) (clock : Option Timeval)
    (l₀ : LinkSim) (hlink : LinkSim.init mallocQueue mallocSlots clock = some l₀)
    (bufferR : Memory) (params : LinkParams) (srcAddr : SockaddrIn6) (es : List SimulatedEvent)
    (n : PointerNetwork)
    (hrun : Run (pointerStep crc32 params)
      (fun _ n e => ConnectedSockets params srcAddr n.packets e)
      ⟨s₀, l₀, PointerReceiver.init bufferR⟩ es n) :
    (∀ block ∈ n.receiver.vars.stdout, SentBlock file n.sender block) ∧
      ∀ (e : SenderPoll) (result : ReadResult) (pkt : Pkt),
        ConnectedSockets params srcAddr n.packets (.sender e) → e.readable = .pollin result →
        decodeRead crc32 n.sender.buffer result e.beyond e.freshDecode = (.pktOk, pkt) →
        ∃ a ∈ n.receiver.vars.written, pkt.type = a.1.type ∧ pkt.seqnum = a.1.seqnum ∧
          pkt.window = a.1.window ∧ pkt.timestamp = a.1.timestamp := by
  obtain ⟨hgen, -⟩ := starts_of_init hinit
  obtain ⟨m, hruns, hviews⟩ := exists_viewsLive_of_pointerRun hrun
  have hinv : Linked crc32 file srcAddr m ∧ Holds (SentBlock file m.sender) m.receiver := by
    refine hruns.invariant (I := fun _ n => Linked crc32 file srcAddr n ∧
      Holds (SentBlock file n.sender) n.receiver)
      ⟨linked_start hgen (fresh_of_init hlink) bufferR, ?_, ?_⟩ ?_
    · intro block hblock
      cases hblock
    · intro k pkt bytes hk
      cases hk
    · rintro es n e n' ⟨h, hholds⟩ hsockets hstep
      exact ⟨h.step hsockets hstep, holds_step hcrc h hholds hsockets hstep⟩
  have hstdout : m.receiver.stdout = n.receiver.vars.stdout := by rw [hviews.receiver.vars]
  have hwritten : m.receiver.written = n.receiver.vars.written := by rw [hviews.receiver.vars]
  rw [hviews.sender, ← hstdout, ← hwritten]
  refine ⟨hinv.2.stdout, fun e result pkt hsockets he hdecode => ?_⟩
  have hconnected := connectedSockets_of_sameVars hviews.sender hviews.link hviews.receiver.vars
    hsockets
  rcases hinv.1.sender_reads hcrc hconnected he with ⟨a, ha, rfl⟩ | hrejected
  · obtain ⟨hdatagram, hcontent, htr, -⟩ := hinv.1.replies a ha
    rw [hdatagram, decodeRead_encoding crc32 hcontent htr (Nat.zero_le _)] at hdecode
    obtain ⟨-, rfl⟩ := Prod.mk.inj hdecode
    exact ⟨a, ha, rfl, rfl, rfl, rfl⟩
  · exact absurd (congrArg Prod.fst hdecode) (hrejected _ _ _)

/-- A link that inverts a byte of every other datagram, and delays none. -/
def corruptingLink : LinkParams := { slowLink with delay := 0, errRate := 50 }

/-- Packet 0 is heard twice and corrupted the first time; the receiver reads both and flushes. -/
def corruptedOnce (file : List UInt8) : List SimulatedEvent :=
  [.sender writePoll, .link (pollAt 1 0 (.received ⟨2, 1, 0⟩ (firstDatagram file))),
    .receiver { dataPoll file 0 .pollout with
      readable := .pollin (.bytes ((firstDatagram file).modify 0 fun b => ~~~b)) },
    .link { pollAt 2 0 (.received ⟨2, 1, 0⟩ (firstDatagram file)) with
      draws := ⟨100, 100, 100, 0, 0⟩ },
    .receiver (dataPoll file 0 .pollout)]

/-- The packet that was corrupted is rejected, and its copy is written. -/
theorem integrity_corruptedOnce : ∃ n : PointerNetwork, n.receiver.vars.stdout = [[65]] ∧
    n.receiver.vars.packetIgnored = 1 ∧
    ∀ block ∈ n.receiver.vars.stdout, SentBlock [65] n.sender block := by
  obtain ⟨n, hrun, hview⟩ := exists_run_of_follow (pointerStep zlibCrc32 corruptingLink)
    (fun _ n e => ConnectedSockets corruptingLink ⟨2, 1, 0⟩ n.packets e)
    ⟨startSender [65], startLink, PointerReceiver.init fun _ => 0⟩ (corruptedOnce [65])
    (fun n => (n.receiver.vars.stdout, n.receiver.vars.packetIgnored))
    (show _ = some ([[65]], 1) by decide +kernel)
  obtain ⟨hstdout, hignored⟩ := Prod.mk.inj hview
  exact ⟨n, hstdout, hignored, (integrity_of_run zlibCrc32 zlibCrc32_detectsByteChange [65] _ _ _ _
    _ (init_startSender [65]) true (some emptySlots) (some ⟨0, 0⟩) _ init_startLink _
    corruptingLink ⟨2, 1, 0⟩ _ n hrun).1⟩

/-! ## Corruption is loss -/

/-- The receiver reads datagrams of the sender, and the sender whatever it likes. -/
def LosingLink (m : Network) : Event → Prop
  | .sender _ => True
  | .receiver e => ∀ result ∈ e.readable.result, ∃ w ∈ m.sender.written,
      result = .bytes w.datagram

/-- The same sender, and receivers with the same window. -/
structure Mirrors (n : SimulatedNetwork) (m : Network) : Prop where
  sender : m.sender = n.sender
  receiver : SameWindow n.receiver m.receiver
  flushable : Flushable m.receiver.listPkt

/-- The event of the two programs that an event is taken for: none for a turn of the simulator, and
for an iteration that reads a datagram which is rejected, the one without it. -/
inductive TakenFor (crc32 : List UInt8 → UInt32) (n : SimulatedNetwork) :
    SimulatedEvent → Event → Prop
  | sender (e : SenderPoll) : TakenFor crc32 n (.sender e) (.sender e)
  | intact {e : ReceiverPoll}
      (h : ∀ result ∈ e.readable.result, ∃ w ∈ n.sender.written, result = .bytes w.datagram) :
      TakenFor crc32 n (.receiver e) (.receiver e)
  | rejected {e : ReceiverPoll} (h : Rejects crc32 n.receiver e) :
      TakenFor crc32 n (.receiver e) (.receiver e.withoutDatagram)

/-- A datagram of the sender decodes alike in every buffer. -/
theorem decodesSame_of_sent (hgen : Genuine crc32 file n.sender) {e : ReceiverPoll}
    (hsent : ∀ result ∈ e.readable.result, ∃ w ∈ n.sender.written, result = .bytes w.datagram)
    (r q : Receiver) : DecodesSame crc32 r q e := by
  intro result he
  obtain ⟨w, hw, rfl⟩ := hsent result (Readable.result_eq_some_iff.mpr he)
  obtain ⟨pkt, ⟨⟨-, -, hcontent⟩, htr⟩, hdatagram⟩ := hgen.sent w hw
  have hlen : (chunk file w.position).length ≤ 496 :=
    (length_chunk_le file w.position).trans (by decide)
  rw [hdatagram, decodeRead_encoding crc32 hcontent htr hlen,
    decodeRead_encoding crc32 hcontent htr hlen]

/-- **One event is matched by the event it is taken for**, if any. -/
theorem Mirrors.step (hcrc : DetectsByteChange crc32) (hlinked : Linked crc32 file srcAddr n)
    (h : Mirrors n m) {e : SimulatedEvent} (hsockets : ConnectedSockets params srcAddr n e)
    (hstep : simulatedStep crc32 params n e = some n') :
    Mirrors n' m ∨ ∃ d m', TakenFor crc32 n e d ∧ LosingLink m d ∧
      networkStep crc32 m d = some m' ∧ Mirrors n' m' := by
  cases e with
  | link e =>
    obtain ⟨l, hl, rfl⟩ := Option.map_eq_some_iff.mp hstep
    exact Or.inl ⟨h.sender, h.receiver, h.flushable⟩
  | sender e =>
    obtain ⟨s, hs, rfl⟩ := Option.map_eq_some_iff.mp hstep
    refine Or.inr ⟨.sender e, { m with sender := s }, TakenFor.sender e, trivial, ?_, rfl,
      h.receiver, h.flushable⟩
    rw [networkStep, h.sender, hs]
    rfl
  | receiver e =>
    obtain ⟨r, hr, rfl⟩ := Option.map_eq_some_iff.mp hstep
    have hmatched : ∀ {e' : ReceiverPoll} {q : Receiver}, TakenFor crc32 n (.receiver e)
        (.receiver e') → LosingLink m (.receiver e') →
        readWriteLoop crc32 m.receiver e' = some q → SameWindow r q →
        ∃ d m', TakenFor crc32 n (.receiver e) d ∧ LosingLink m d ∧
          networkStep crc32 m d = some m' ∧ Mirrors { n with receiver := r } m' := by
      intro e' q htaken hloses hq hsame
      refine ⟨.receiver e', { m with receiver := q }, htaken, hloses, ?_, h.sender, hsame,
        flushable_step h.flushable hq⟩
      rw [networkStep, hq]
      rfl
    have hintact : (∀ result ∈ e.readable.result, ∃ w ∈ n.sender.written,
        result = .bytes w.datagram) → ∃ d m', TakenFor crc32 n (.receiver e) d ∧
          LosingLink m d ∧ networkStep crc32 m d = some m' ∧
          Mirrors { n with receiver := r } m' := by
      intro hsent
      obtain ⟨q, hq, hsame⟩ := readWriteLoop_of_decodesSame h.flushable h.receiver
        (decodesSame_of_sent hlinked.genuine hsent n.receiver m.receiver) hr
      refine hmatched (TakenFor.intact hsent) (fun result hresult => ?_) hq hsame
      rw [h.sender]
      exact hsent result hresult
    right
    cases he : e.readable with
    | idle => exact hintact fun result hresult => by rw [he] at hresult; cases hresult
    | other => exact hintact fun result hresult => by rw [he] at hresult; cases hresult
    | pollin result =>
      rcases hlinked.receiver_reads hcrc hsockets he with hsent | hrejected
      · refine hintact fun result' hresult' => ?_
        rw [he] at hresult'
        obtain rfl := Option.some.inj hresult'
        exact hsent
      · have hrejects : Rejects crc32 n.receiver e := ⟨result, he, hrejected _ _ _⟩
        obtain ⟨q, hq, hsame⟩ := readWriteLoop_of_rejects h.flushable h.receiver hrejects hr
        exact hmatched (TakenFor.rejected hrejects) (fun result hresult => by cases hresult) hq
          hsame

/-- The start of the two. -/
theorem mirrors_start (s₀ : Sender) (l₀ : LinkSim) (buffer : Memory) :
    Mirrors ⟨s₀, l₀, Receiver.init buffer⟩ ⟨s₀, Receiver.init buffer⟩ :=
  ⟨rfl, ⟨rfl, rfl⟩, fun _ _ => rfl, fun k pkt hk => by cases hk⟩

/-- **Every run** of the three programs has one of the two beside it. -/
theorem exists_mirrors_of_run {s₀ : Sender} {l₀ : LinkSim} {clock : Option Timeval}
    (hcrc : DetectsByteChange crc32) (hgen : Genuine crc32 file s₀) (hlink : l₀.Fresh clock)
    {buffer : Memory} {es : List SimulatedEvent}
    (hrun : Run (simulatedStep crc32 params) (fun _ n e => ConnectedSockets params srcAddr n e)
      ⟨s₀, l₀, Receiver.init buffer⟩ es n) :
    ∃ ds m, Run (networkStep crc32) (fun _ m d => LosingLink m d) ⟨s₀, Receiver.init buffer⟩ ds m ∧
      Mirrors n m := by
  have hsim : ∃ ds m, Run (networkStep crc32) (fun _ m d => LosingLink m d)
      ⟨s₀, Receiver.init buffer⟩ ds m ∧ Linked crc32 file srcAddr n ∧ Mirrors n m := by
    refine hrun.simulates_stuttering (R := fun _ n _ m => Linked crc32 file srcAddr n ∧
      Mirrors n m) ⟨linked_start hgen hlink buffer, mirrors_start s₀ l₀ buffer⟩ ?_
    rintro es n e n' ds m - ⟨hlinked, hmirrors⟩ hsockets hstep
    have hlinked' := hlinked.step hsockets hstep
    rcases hmirrors.step hcrc hlinked hsockets hstep with hstays | ⟨d, m', -, hloses, hm', hgoes⟩
    · exact Or.inl ⟨hlinked', hstays⟩
    · exact Or.inr ⟨d, m', hloses, hm', hlinked', hgoes⟩
  obtain ⟨ds, m, hruns, -, hmirrors⟩ := hsim
  exact ⟨ds, m, hruns, hmirrors⟩

/-- **To the receive window a link that corrupts is a link that loses.**  Every run with the
simulator in between, whatever its options are, is matched by a run of the two programs in which the
receiver reads only datagrams of the sender, whole: with the same sender, and the same table,
output and ACKs of the receiver. -/
theorem losesOnly_of_run (crc32 : List UInt8 → UInt32) (hcrc : DetectsByteChange crc32)
    (file : List UInt8) (buffer : Memory) (freshAck : Pkt) (clockAck : UInt32) (fill : FillInputs)
    (s₀ : Sender) (hinit : Sender.init crc32 file buffer freshAck clockAck fill = some s₀)
    (mallocQueue : Bool) (mallocSlots : Option (ℕ → PktSlot)) (clock : Option Timeval)
    (l₀ : LinkSim) (hlink : LinkSim.init mallocQueue mallocSlots clock = some l₀)
    (bufferR : Memory) (params : LinkParams) (srcAddr : SockaddrIn6) (es : List SimulatedEvent)
    (n : SimulatedNetwork)
    (hrun : Run (simulatedStep crc32 params) (fun _ n e => ConnectedSockets params srcAddr n e)
      ⟨s₀, l₀, Receiver.init bufferR⟩ es n) :
    ∃ ds m, Run (networkStep crc32) (fun _ m d => LosingLink m d)
        ⟨s₀, Receiver.init bufferR⟩ ds m ∧
      m.sender = n.sender ∧ m.receiver.windowState = n.receiver.windowState ∧
      m.receiver.status = n.receiver.status := by
  obtain ⟨hgen, -⟩ := starts_of_init hinit
  obtain ⟨ds, m, hruns, hmirrors⟩ :=
    exists_mirrors_of_run hcrc hgen (fresh_of_init hlink) hrun
  exact ⟨ds, m, hruns, hmirrors.sender, hmirrors.receiver.window.symm,
    hmirrors.receiver.status.symm⟩

/-- The same of the programs with their pointers, however the receiver flushes. -/
theorem exists_losesOnly_of_pointers {s₀ : Sender} {l₀ : LinkSim} {clock : Option Timeval}
    (hcrc : DetectsByteChange crc32) (hgen : Genuine crc32 file s₀) (hlink : l₀.Fresh clock)
    {buffer : Memory} {es : List SimulatedEvent} {q : PointerNetwork}
    (hrun : Run (pointerStep crc32 params)
      (fun _ q e => ConnectedSockets params srcAddr q.packets e)
      ⟨s₀, l₀, PointerReceiver.init buffer⟩ es q) :
    ∃ r ds m, ViewsLive q.receiver r ∧
      Run (networkStep crc32) (fun _ m d => LosingLink m d) ⟨s₀, Receiver.init buffer⟩ ds m ∧
      m.sender = q.sender ∧ m.receiver.windowState = r.windowState ∧
      m.receiver.status = r.status := by
  obtain ⟨n, hsimulated, hviews⟩ := exists_viewsLive_of_pointerRun hrun
  obtain ⟨ds, m, hruns, hmirrors⟩ := exists_mirrors_of_run hcrc hgen hlink hsimulated
  exact ⟨n.receiver, ds, m, hviews.receiver, hruns, hmirrors.sender.trans hviews.sender.symm,
    hmirrors.receiver.window.symm, hmirrors.receiver.status.symm⟩

/-- The same run, and one in which the corrupted packet was lost. -/
theorem losesOnly_corruptedOnce : ∃ n : SimulatedNetwork, n.receiver.packetIgnored = 1 ∧
    ∃ ds m, Run (networkStep zlibCrc32) (fun _ m d => LosingLink m d) (startNetwork [65]) ds m ∧
      m.sender = n.sender ∧ m.receiver.windowState = n.receiver.windowState ∧
      m.receiver.status = n.receiver.status := by
  obtain ⟨n, hrun, hview⟩ := exists_run_of_follow (simulatedStep zlibCrc32 corruptingLink)
    (fun _ n e => ConnectedSockets corruptingLink ⟨2, 1, 0⟩ n e) (startSimulated [65])
    (corruptedOnce [65]) (fun n => n.receiver.packetIgnored) (show _ = some 1 by decide +kernel)
  exact ⟨n, hview, losesOnly_of_run zlibCrc32 zlibCrc32_detectsByteChange [65] _ _ _ _ _
    (init_startSender [65]) true (some emptySlots) (some ⟨0, 0⟩) _ init_startLink _
    corruptingLink ⟨2, 1, 0⟩ _ n hrun⟩

/-! ## The output -/

/-- What the receiver reads whole arrives in place, and the iteration flushes safely. -/
def IntactInPlace (crc32 : List UInt8 → UInt32) (file : List UInt8) (n : SimulatedNetwork) :
    SimulatedEvent → Prop
  | .receiver e =>
    (∀ result ∈ e.readable.result, (∃ w ∈ n.sender.written, result = .bytes w.datagram) →
      ∃ w ∈ n.sender.written, result = .bytes w.datagram ∧
        ArrivesInPlace file n.receiver w.position) ∧
    (e.writable = .pollout → ∀ r ∈ receive crc32 n.receiver e, FlushSafe r)
  | _ => True

theorem SameWindow.symm {r q : Receiver} (h : SameWindow r q) : SameWindow q r :=
  ⟨h.window.symm, h.status.symm⟩

/-- Both conditions are about the window. -/
theorem SameWindow.arrivesInPlace {r q : Receiver} (h : SameWindow r q) {i : ℕ}
    (hplace : ArrivesInPlace file r i) : ArrivesInPlace file q i := by
  obtain ⟨htable, hbase, -, -, hstdout, -⟩ := WindowState.mk.inj h.window
  unfold ArrivesInPlace AddressesTaken at *
  rwa [htable, hbase, hstdout] at hplace

theorem SameWindow.flushSafe {r q : Receiver} (h : SameWindow r q) (hsafe : FlushSafe r) :
    FlushSafe q := by
  obtain ⟨htable, hbase, -, hpartial', -, -⟩ := WindowState.mk.inj h.window
  unfold FlushSafe at *
  rwa [htable, hbase, hpartial'] at hsafe

/-- **The conditions carry over** to the event that an event is taken for. -/
theorem Mirrors.receivesInPlace (hgen : Genuine crc32 file n.sender) (h : Mirrors n m)
    {e : SimulatedEvent} (hplace : IntactInPlace crc32 file n e) {d : Event}
    (htaken : TakenFor crc32 n e d) : ReceivesInPlace crc32 file m d := by
  obtain ⟨htable, -⟩ := WindowState.mk.inj h.receiver.window
  have hflushable : Flushable n.receiver.listPkt := by
    rw [htable]
    exact h.flushable
  cases htaken with
  | sender e => trivial
  | @intact e hsent =>
    obtain ⟨harrives, hflush⟩ := hplace
    refine ⟨fun result hresult => ?_, fun hout q hq => ?_⟩
    · obtain ⟨w, hw, hbytes, hin⟩ := harrives result hresult (hsent result hresult)
      rw [h.sender]
      exact ⟨w, hw, hbytes, h.receiver.arrivesInPlace hin⟩
    · obtain ⟨r, hr, hsame⟩ := receive_sameWindow hflushable h.receiver.symm
        (decodesSame_of_sent hgen hsent m.receiver n.receiver) hq
      exact hsame.symm.flushSafe (hflush hout r hr)
  | @rejected e hrejects =>
    obtain ⟨-, hflush⟩ := hplace
    refine ⟨fun result hresult => (by cases hresult), fun hout q hq => ?_⟩
    obtain rfl : m.receiver = q := Option.some.inj hq
    obtain ⟨r, hr⟩ : ∃ r, receive crc32 n.receiver e = some r := by
      obtain ⟨result, he, hstatus⟩ := hrejects
      rw [receive, he]
      exact ⟨_, if_pos (Or.inl hstatus)⟩
    exact (receive_of_rejects h.receiver hrejects hr).flushSafe (hflush hout r hr)

/-- **The output is a prefix of the file**, whatever the options of the simulator are, in the runs
in which the datagrams that are read whole arrive in place and every flush is safe.  What is
corrupted may arrive at any time. -/
theorem intactPrefix_of_run (crc32 : List UInt8 → UInt32) (hcrc : DetectsByteChange crc32)
    (file : List UInt8) (buffer : Memory) (freshAck : Pkt) (clockAck : UInt32) (fill : FillInputs)
    (s₀ : Sender) (hinit : Sender.init crc32 file buffer freshAck clockAck fill = some s₀)
    (mallocQueue : Bool) (mallocSlots : Option (ℕ → PktSlot)) (clock : Option Timeval)
    (l₀ : LinkSim) (hlink : LinkSim.init mallocQueue mallocSlots clock = some l₀)
    (bufferR : Memory) (params : LinkParams) (srcAddr : SockaddrIn6) (es : List SimulatedEvent)
    (n : SimulatedNetwork)
    (hrun : Run (simulatedStep crc32 params)
      (fun _ n e => ConnectedSockets params srcAddr n e ∧ IntactInPlace crc32 file n e)
      ⟨s₀, l₀, Receiver.init bufferR⟩ es n) :
    n.receiver.stdout.flatten <+: file := by
  obtain ⟨hgen, -⟩ := starts_of_init hinit
  have hinv : Linked crc32 file srcAddr n ∧ ∃ m, Mirrors n m ∧ InPlace file m.receiver := by
    refine hrun.invariant (I := fun _ n => Linked crc32 file srcAddr n ∧
      ∃ m, Mirrors n m ∧ InPlace file m.receiver)
      ⟨linked_start hgen (fresh_of_init hlink) bufferR, _, mirrors_start s₀ l₀ bufferR,
        InPlace.of_aligned (aligned_init (chunk file) bufferR)⟩ ?_
    rintro es n e n' ⟨hlinked, m, hmirrors, hin⟩ ⟨hsockets, hplace⟩ hstep
    refine ⟨hlinked.step hsockets hstep, ?_⟩
    rcases hmirrors.step hcrc hlinked hsockets hstep with hstays | ⟨d, m', htaken, -, hm', hgoes⟩
    · exact ⟨m, hstays, hin⟩
    · have hgen' : Genuine crc32 file m.sender := by
        rw [hmirrors.sender]
        exact hlinked.genuine
      exact ⟨m', hgoes, hin.step hgen' (hmirrors.receivesInPlace hlinked.genuine hplace htaken) hm'⟩
  obtain ⟨-, m, hmirrors, hin⟩ := hinv
  obtain ⟨-, -, -, -, hstdout, -⟩ := WindowState.mk.inj hmirrors.receiver.window
  have hsame : n.receiver.stdout = m.receiver.stdout := hstdout
  rw [hsame, hin.stdout, flatten_chunks]
  exact List.take_prefix ..

instance (n : SimulatedNetwork) (e : SimulatedEvent) :
    Decidable (IntactInPlace crc32 file n e) :=
  match e with
  | .sender _ => isTrue trivial
  | .link _ => isTrue trivial
  | .receiver e => inferInstanceAs (Decidable (
      (∀ result ∈ e.readable.result, (∃ w ∈ n.sender.written, result = .bytes w.datagram) →
        ∃ w ∈ n.sender.written, result = .bytes w.datagram ∧
          ArrivesInPlace file n.receiver w.position) ∧
      (e.writable = .pollout → ∀ r ∈ receive crc32 n.receiver e, FlushSafe r)))

/-- The same run: the output is the file. -/
theorem intactPrefix_corruptedOnce : ∃ n : SimulatedNetwork, n.receiver.packetIgnored = 1 ∧
    n.receiver.stdout.flatten <+: [65] := by
  obtain ⟨n, hrun, hview⟩ := exists_run_of_follow (simulatedStep zlibCrc32 corruptingLink)
    (fun _ n e => ConnectedSockets corruptingLink ⟨2, 1, 0⟩ n e ∧
      IntactInPlace zlibCrc32 [65] n e) (startSimulated [65])
    (corruptedOnce [65]) (fun n => n.receiver.packetIgnored) (show _ = some 1 by decide +kernel)
  exact ⟨n, hview, intactPrefix_of_run zlibCrc32 zlibCrc32_detectsByteChange [65] _ _ _ _ _
    (init_startSender [65]) true (some emptySlots) (some ⟨0, 0⟩) _ init_startLink _
    corruptingLink ⟨2, 1, 0⟩ _ n hrun⟩

end TrtpNetwork
