import TrtpNetwork.Linksimulator.Options
import TrtpNetwork.Receiver.MemorySafety
import TrtpNetwork.Sender.MemorySafety
import TrtpNetwork.System.CorruptingLink

/-!
# The memory the three programs touch

With the link simulator in between, the two programs read nothing but what the other one wrote,
whole or altered.  So less can go wrong than on a socket where anything arrives.

* Altered datagrams are rejected, and do no harm to the receiver.  It leaves its table for a whole
  packet of the sender that comes late: one that is not empty and has a number below `base_r`, other
  than 0 (`ReadsLate`).
* The sender releases what it rejects, with a length that may have been corrupted (`RejectsWild`).
* The simulator itself divides by zero only with options that are not sensible.

`simulated_defined_iff` says that this is all, for the receiver with its pointers.
-/

namespace TrtpNetwork

/-! ## What can go wrong -/

/-- No pointer is left in two slots, on either side. -/
def KeepsTables (crc32 : List UInt8 → UInt32) (m : SimulatedNetwork) : SimulatedEvent → Prop
  | .sender e => RefillsShortRun crc32 m.sender e
  | .link _ => True
  | .receiver e => FlushesWhole crc32 m.receiver e

/-- The same sender and the same simulator, and a receiver whose pointers show the packets. -/
structure ShowsNetwork (n : PointerNetwork) (m : SimulatedNetwork) : Prop where
  sender : n.sender = m.sender
  link : n.link = m.link
  receiver : Shows n.receiver m.receiver

/-- A packet is read that comes late. -/
def ReadsLate (file : List UInt8) (m : SimulatedNetwork) (e : ReceiverPoll) : Prop :=
  ∃ w ∈ m.sender.written, e.readable = .pollin (.bytes w.datagram) ∧
    chunk file w.position ≠ [] ∧ w.position % 256 ≠ 0 ∧
    ((w.position % 256 : ℕ) : ℤ) < m.receiver.baseR

/-- The event does none of what can go wrong. -/
def Harmless (crc32 : List UInt8 → UInt32) (file : List UInt8) (m : SimulatedNetwork) :
    SimulatedEvent → Prop
  | .sender e => LookupsInPlace crc32 m.sender e ∧
      (m.sender.status = .running → ¬ RejectsWild crc32 m.sender e)
  | .link _ => True
  | .receiver e => m.receiver.status = .running → ¬ ReadsLate file m e

variable {crc32 : List UInt8 → UInt32} {file : List UInt8} {params : LinkParams}
  {srcAddr : SockaddrIn6} {n : PointerNetwork} {m m' : SimulatedNetwork} {e : SimulatedEvent}

/-! ## What the pointers show -/

/-- The conditions are about the packets. -/
theorem ShowsNetwork.connectedSockets (h : ShowsNetwork n m)
    (hsockets : ConnectedSockets params srcAddr n.packets e) :
    ConnectedSockets params srcAddr m e :=
  connectedSockets_of_sameVars h.sender h.link h.receiver.vars hsockets

theorem ShowsNetwork.keepsTables (h : ShowsNetwork n m)
    (hkeeps : KeepsTables crc32 n.packets e) : KeepsTables crc32 m e := by
  cases e with
  | sender e =>
    have hsender : n.packets.sender = m.sender := h.sender
    rwa [KeepsTables, hsender] at hkeeps
  | link e => trivial
  | receiver e => exact h.receiver.flushesWhole hkeeps

theorem ShowsNetwork.harmless_iff (h : ShowsNetwork n m) :
    Harmless crc32 file n.packets e ↔ Harmless crc32 file m e := by
  have hsender : n.packets.sender = m.sender := h.sender
  have hstatus : n.packets.receiver.status = m.receiver.status := by
    rw [h.receiver.vars]
    rfl
  have hbase : n.packets.receiver.baseR = m.receiver.baseR := by
    rw [h.receiver.vars]
    rfl
  cases e <;> simp only [Harmless, ReadsLate, hsender, hstatus, hbase]

/-- **One event** does the same to the pointers as to the packets. -/
theorem rel_pointerStep (h : ShowsNetwork n m) (hflush : Flushable m.receiver.listPkt)
    (e : SimulatedEvent) :
    Option.Rel (fun n' m' => n'.sender = m'.sender ∧ (KeepsTables crc32 m e → ShowsNetwork n' m'))
      (pointerStep crc32 params n e) (simulatedStep crc32 params m e) := by
  cases e with
  | sender e =>
    rw [pointerStep, simulatedStep, h.sender]
    cases readWriteLoopSender crc32 m.sender e with
    | none => exact Option.Rel.none
    | some s => exact Option.Rel.some ⟨rfl, fun _ => ⟨rfl, h.link, h.receiver⟩⟩
  | link e =>
    rw [pointerStep, simulatedStep, h.link]
    cases proxyLoop params m.link e with
    | none => exact Option.Rel.none
    | some l => exact Option.Rel.some ⟨h.sender, fun _ => ⟨h.sender, rfl, h.receiver⟩⟩
  | receiver e =>
    refine rel_map (rel_readWriteLoop h.receiver hflush e) ?_
    rintro q r ⟨-, hshows⟩
    exact ⟨h.sender, fun hkeeps => ⟨h.sender, h.link, hshows hkeeps⟩⟩

/-! ## Runs -/

/-- What is known of the three programs. -/
structure SoundNetwork (crc32 : List UInt8 → UInt32) (file : List UInt8) (srcAddr : SockaddrIn6)
    (m : SimulatedNetwork) : Prop where
  linked : Linked crc32 file srcAddr m
  table : SoundTable crc32 file m.sender
  base : BaseInWindow m.receiver
  flushable : Flushable m.receiver.listPkt

theorem SoundNetwork.step (h : SoundNetwork crc32 file srcAddr m)
    (hsockets : ConnectedSockets params srcAddr m e) (hkeeps : KeepsTables crc32 m e)
    (hstep : simulatedStep crc32 params m e = some m') : SoundNetwork crc32 file srcAddr m' := by
  have hlinked := h.linked.step hsockets hstep
  cases e with
  | sender e =>
    obtain ⟨s, hs, rfl⟩ := Option.map_eq_some_iff.mp hstep
    exact ⟨hlinked, h.table.step hkeeps hs, h.base, h.flushable⟩
  | link e =>
    obtain ⟨l, hl, rfl⟩ := Option.map_eq_some_iff.mp hstep
    exact ⟨hlinked, h.table, h.base, h.flushable⟩
  | receiver e =>
    obtain ⟨r, hr, rfl⟩ := Option.map_eq_some_iff.mp hstep
    exact ⟨hlinked, h.table, h.base.step hr, flushable_step h.flushable hr⟩

/-- **What is read below `base_r`** is a packet of the sender that comes late. -/
theorem SoundNetwork.readsBelowBase_iff (hcrc : DetectsByteChange crc32)
    (h : SoundNetwork crc32 file srcAddr m) {e : ReceiverPoll}
    (hsockets : ConnectedSockets params srcAddr m (.receiver e)) :
    ReadsBelowBase crc32 m.receiver e ↔ ReadsLate file m e := by
  constructor
  · rintro ⟨result, he, hbelow⟩
    rcases h.linked.receiver_reads hcrc hsockets he with ⟨w, hw, rfl⟩ | hrejected
    · have hpacket := readsPacket_of_sent h.linked.genuine he ⟨hw, rfl⟩ m.receiver
      exact ⟨w, hw, he, (hpacket.readsBelowBase_iff he).mp ⟨_, he, hbelow⟩⟩
    · exact absurd hbelow.1 (hrejected _ _ _)
  · rintro ⟨w, hw, he, hlate⟩
    have hpacket := readsPacket_of_sent h.linked.genuine he ⟨hw, rfl⟩ m.receiver
    exact (hpacket.readsBelowBase_iff he).mpr hlate

/-- **When an event has an outcome**, without a lookup that misses. -/
theorem SoundNetwork.goes_iff (hcrc : DetectsByteChange crc32) (hparams : params.Sensible)
    (h : SoundNetwork crc32 file srcAddr m) (hfound : m.sender.status ≠ .absentLookup)
    (hsockets : ConnectedSockets params srcAddr m e) :
    (∃ m', simulatedStep crc32 params m e = some m' ∧ m'.sender.status ≠ .absentLookup) ↔
      Harmless crc32 file m e := by
  cases e with
  | sender e =>
    rw [Harmless, ← h.table.goes_iff hfound e]
    constructor
    · rintro ⟨m', hm', hgoes⟩
      obtain ⟨s, hs, rfl⟩ := Option.map_eq_some_iff.mp hm'
      exact ⟨s, hs, hgoes⟩
    · rintro ⟨s, hs, hgoes⟩
      exact ⟨{ m with sender := s }, Option.map_eq_some_iff.mpr ⟨s, hs, rfl⟩, hgoes⟩
  | link e =>
    obtain ⟨l, hl⟩ := exists_proxyLoop (e := e) h.linked.valid fun _ _ _ _ =>
      Or.inr (Option.isSome_iff_exists.mp
        ((appliedDelay_isSome_iff e.draws).mpr hparams.not_divisorVanishes))
    exact iff_of_true ⟨{ m with link := l }, Option.map_eq_some_iff.mpr ⟨l, hl, rfl⟩, hfound⟩
      trivial
  | receiver e =>
    rw [Harmless, ← h.readsBelowBase_iff hcrc hsockets,
      ← exists_readWriteLoop_iff h.base h.flushable e]
    constructor
    · rintro ⟨m', hm', -⟩
      obtain ⟨r, hr, rfl⟩ := Option.map_eq_some_iff.mp hm'
      exact ⟨r, hr⟩
    · rintro ⟨r, hr⟩
      exact ⟨{ m with receiver := r }, Option.map_eq_some_iff.mpr ⟨r, hr, rfl⟩, hfound⟩

/-- **Every run** with pointers has one with packets beside it, of which all this is known. -/
theorem exists_soundNetwork_of_run {s₀ : Sender} {l₀ : LinkSim} {clock : Option Timeval}
    (hgen : Genuine crc32 file s₀) (hstart : Starts s₀) (hlink : l₀.Fresh clock) {buffer : Memory}
    {es : List SimulatedEvent}
    (hrun : Run (pointerStep crc32 params)
      (fun _ n e => ConnectedSockets params srcAddr n.packets e ∧ KeepsTables crc32 n.packets e)
      ⟨s₀, l₀, PointerReceiver.init buffer⟩ es n) :
    ∃ m, ShowsNetwork n m ∧ SoundNetwork crc32 file srcAddr m := by
  have hmatched : ∃ m, Run (simulatedStep crc32 params)
      (fun _ m e => ConnectedSockets params srcAddr m e ∧ KeepsTables crc32 m e)
      ⟨s₀, l₀, Receiver.init buffer⟩ es m ∧
      (ShowsNetwork n m ∧ SoundNetwork crc32 file srcAddr m) := by
    refine exists_run_of_rel
      (R := fun n m => ShowsNetwork n m ∧ SoundNetwork crc32 file srcAddr m) ⟨?_, ?_⟩ ?_ ?_ hrun
    · exact ⟨rfl, rfl, shows_init buffer⟩
    · exact ⟨linked_start hgen hlink buffer, soundTable_of_starts hgen hstart,
        baseInWindow_init buffer, fun _ _ => rfl, fun k pkt hk => by cases hk⟩
    · rintro es n m e ⟨hshows, -⟩ ⟨hsockets, hkeeps⟩
      exact ⟨hshows.connectedSockets hsockets, hshows.keepsTables hkeeps⟩
    · rintro es n m e ⟨hshows, hsound⟩ ⟨hsockets, hkeeps⟩
      have hsockets' := hshows.connectedSockets hsockets
      have hkeeps' := hshows.keepsTables hkeeps
      refine rel_mono (rel_and (rel_pointerStep hshows hsound.flushable e) fun m' hm' =>
        hsound.step hsockets' hkeeps' hm') ?_
      rintro n' m' ⟨⟨-, hshows'⟩, hsound'⟩
      exact ⟨hshows' hkeeps', hsound'⟩
  obtain ⟨m, -, hrel⟩ := hmatched
  exact ⟨m, hrel⟩

/-- **What can go wrong in the system.**  With the simulator in between and options that are
sensible, in every run in which no pointer is left in two slots and no lookup has missed: an event
that the sockets allow has an outcome, without a lookup that misses, if and only if it is
harmless. -/
theorem simulated_defined_iff (crc32 : List UInt8 → UInt32) (hcrc : DetectsByteChange crc32)
    (file : List UInt8) (buffer : Memory) (freshAck : Pkt) (clockAck : UInt32) (fill : FillInputs)
    (s₀ : Sender) (hinit : Sender.init crc32 file buffer freshAck clockAck fill = some s₀)
    (mallocQueue : Bool) (mallocSlots : Option (ℕ → PktSlot)) (clock : Option Timeval)
    (l₀ : LinkSim) (hlink : LinkSim.init mallocQueue mallocSlots clock = some l₀)
    (bufferR : Memory) (params : LinkParams) (hparams : params.Sensible) (srcAddr : SockaddrIn6)
    (es : List SimulatedEvent) (n : PointerNetwork)
    (hrun : Run (pointerStep crc32 params)
      (fun _ n e => ConnectedSockets params srcAddr n.packets e ∧ KeepsTables crc32 n.packets e)
      ⟨s₀, l₀, PointerReceiver.init bufferR⟩ es n)
    (hfound : n.sender.status ≠ .absentLookup) (e : SimulatedEvent)
    (hsockets : ConnectedSockets params srcAddr n.packets e) :
    (∃ n', pointerStep crc32 params n e = some n' ∧ n'.sender.status ≠ .absentLookup) ↔
      Harmless crc32 file n.packets e := by
  obtain ⟨hgen, hstart⟩ := starts_of_init hinit
  obtain ⟨m, hshows, hsound⟩ :=
    exists_soundNetwork_of_run hgen hstart (fresh_of_init hlink) hrun
  rw [hshows.sender] at hfound
  rw [hshows.harmless_iff, ← hsound.goes_iff hcrc hparams hfound (hshows.connectedSockets hsockets)]
  refine exists_and_iff_of_rel (rel_pointerStep hshows hsound.flushable e) ?_
  rintro n' m' ⟨hsender, -⟩
  rw [hsender]

instance (m : SimulatedNetwork) (e : SimulatedEvent) : Decidable (KeepsTables crc32 m e) :=
  match e with
  | .sender e => inferInstanceAs (Decidable (RefillsShortRun crc32 m.sender e))
  | .link _ => isTrue trivial
  | .receiver e => inferInstanceAs (Decidable (FlushesWhole crc32 m.receiver e))

/-- A link that inverts a byte of every other datagram on the way back. -/
def answeringLink : LinkParams := { corruptingLink with linkDirection := .reverse }

/-- Packet 0 is written and answered, and the length of the ACK is inverted. -/
def ackCorrupted (file : List UInt8) : List SimulatedEvent :=
  [.sender writePoll, .link (pollAt 1 0 (.received ⟨2, 1, 0⟩ (firstDatagram file))),
    .receiver (dataPoll file 0 .pollout),
    .link { pollAt 2 0 (.received answeringLink.destAddr
        (encoding zlibCrc32 (controlPkt blankPkt .ack 1 4 0) [])) with draws := ⟨0, 0, 0, 1, 0⟩ }]

/-- The sender ignores it when it is decoded into a structure of zeros, and has no outcome when the
structure holds a length and a pointer to nothing. -/
theorem simulated_defined_ackCorrupted : ∃ n : PointerNetwork,
    n.receiver.vars.stdout = [[65]] ∧
    (∃ n', pointerStep zlibCrc32 answeringLink n (.sender (brokenAckPoll 1 blankPkt)) = some n' ∧
      n'.sender.status ≠ .absentLookup) ∧
    ¬ ∃ n', pointerStep zlibCrc32 answeringLink n (.sender (brokenAckPoll 1 danglingPkt)) =
      some n' ∧ n'.sender.status ≠ .absentLookup := by
  obtain ⟨n, hrun, hview⟩ := exists_run_of_follow (pointerStep zlibCrc32 answeringLink)
    (fun _ n e => ConnectedSockets answeringLink ⟨2, 1, 0⟩ n.packets e ∧
      KeepsTables zlibCrc32 n.packets e)
    ⟨startSender [65], startLink, PointerReceiver.init fun _ => 0⟩ (ackCorrupted [65])
    (fun n => (n.receiver.vars.stdout, n.sender.status,
      decide (ConnectedSockets answeringLink ⟨2, 1, 0⟩ n.packets
          (.sender (brokenAckPoll 1 blankPkt)) ∧
        LookupsInPlace zlibCrc32 n.sender (brokenAckPoll 1 blankPkt)),
      decodeRead zlibCrc32 n.sender.buffer (.bytes (brokenAck 1)) (fun _ => 0) danglingPkt))
    (show _ = some ([[65]], .running, true, .eLength,
      { danglingPkt with type := .ack, window := 4 }) by decide +kernel)
  obtain ⟨hstdout, hrest⟩ := Prod.mk.inj hview
  obtain ⟨hrunning, hrest⟩ := Prod.mk.inj hrest
  obtain ⟨hallowed, hdecode⟩ := Prod.mk.inj hrest
  obtain ⟨hsockets, hplace⟩ := of_decide_eq_true hallowed
  have hconnected : ∀ fresh, ConnectedSockets answeringLink ⟨2, 1, 0⟩ n.packets
      (.sender (brokenAckPoll 1 fresh)) := fun _ => hsockets
  have hiff := fun fresh => simulated_defined_iff zlibCrc32 zlibCrc32_detectsByteChange [65] _ _ _ _
    _ (init_startSender [65]) true (some emptySlots) (some ⟨0, 0⟩) _ init_startLink _
    answeringLink (by constructor <;> decide) ⟨2, 1, 0⟩ _ n hrun (by rw [hrunning]; decide)
    (.sender (brokenAckPoll 1 fresh)) (hconnected fresh)
  refine ⟨n, hstdout, (hiff blankPkt).mpr ⟨hplace, ?_⟩, fun hgoes => ?_⟩
  · rintro - ⟨-, -, -, -, hwild⟩
    cases hwild
  · refine ((hiff danglingPkt).mp hgoes).2 hrunning ⟨_, rfl, ?_, ?_, rfl⟩
    · exact fun hok => by cases (congrArg Prod.fst hdecode).symm.trans hok
    · exact fun hzero => by
        have hlength := congrArg (fun r => r.2.length) hdecode
        exact absurd (hlength.symm.trans hzero) (by decide)

end TrtpNetwork
