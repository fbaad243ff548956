import TrtpNetwork.Receiver.Deliveries

/-!
# Reassembly over whole runs

A run delivers packets of a stream of non-empty payloads, each at most once and each inside the
receive window at the time it arrives, in any order and with flushes at any time.  `Reassembled` is
what the receiver owes in every state of such a run: no packet was dropped, the output is the
stream so far, and the table holds what has arrived and is not written, every packet once and in
its slot.

The code keeps this up (`reassembled_of_run`) in the runs in which no packet arrives ahead of a
block of 256 that is not written out yet and every flush is safe.  Outside them it does not:
`not_reassembled` is the shortest way to lose the table, a packet in the last slot behind a hole.
The shift copies it forward and leaves it where it was.
-/

namespace TrtpNetwork

variable (crc32 : List UInt8 → UInt32) (stream : ℕ → List UInt8)

/-- A delivery inside the window of a packet that has not arrived before. -/
def ArrivesOnceInWindow (ds : List Delivery) (r : Receiver) (d : Delivery) : Prop :=
  r.status = .running ∧ ReadsPacket crc32 stream r d ∧ InWindow r d ∧
    (d.1.Reads → d.2 ∉ arrivals ds)

instance (ds : List Delivery) (r : Receiver) (d : Delivery) :
    Decidable (ArrivesOnceInWindow crc32 stream ds r d) := by
  unfold ArrivesOnceInWindow
  infer_instance

/-- What the receiver owes after the deliveries `ds`. -/
structure Reassembled (ds : List Delivery) (r : Receiver) : Prop where
  no_drop : r.packetIgnored = 0
  stdout : r.stdout = (List.range r.stdout.length).map stream
  slot : ∀ k < realWindow, r.listPkt k = none ∨
    ∃ pkt, r.listPkt k = some pkt ∧ IsStreamPacket stream (r.stdout.length + k) pkt
  once : ∀ i ∈ arrivals ds, r.stdout.length ≤ i →
    ∃! k, k < realWindow ∧ ∃ pkt, r.listPkt k = some pkt ∧ IsStreamPacket stream i pkt

/-- The conditions under which an iteration keeps the receiver's table in order. -/
def KeepsOrder (_ds : List Delivery) (r : Receiver) (d : Delivery) : Prop :=
  SameBlock r d ∧ FlushesSafely crc32 r d

instance (ds : List Delivery) (r : Receiver) (d : Delivery) :
    Decidable (KeepsOrder crc32 ds r d) := by
  unfold KeepsOrder
  infer_instance

/-- The invariant of such runs: aligned, nothing dropped, and the table is the set of arrivals that
are not written yet. -/
structure WindowInv (ds : List Delivery) (r : Receiver) : Prop extends Aligned stream r where
  ignored : r.packetIgnored = 0
  arrived : ∀ k pkt, r.listPkt k = some pkt → r.stdout.length + k ∈ arrivals ds
  held : ∀ i ∈ arrivals ds, r.stdout.length ≤ i → r.listPkt (i - r.stdout.length) ≠ none

variable {crc32 stream}

theorem WindowInv.init (buffer : Memory) : WindowInv stream [] (Receiver.init buffer) where
  toAligned := aligned_init stream buffer
  ignored := rfl
  arrived := fun k pkt h => by cases h
  held := fun i h => by cases h

/-- The input half keeps the invariant: a packet that has not arrived before finds its slot
free. -/
theorem WindowInv.receive {ds : List Delivery} {r m : Receiver} {d : Delivery}
    (h : WindowInv stream ds r) (hwindow : InWindow r d) (honce : d.1.Reads → d.2 ∉ arrivals ds)
    (hal : Aligned stream m) (heff : ReceiveEffect stream r m d) :
    WindowInv stream (ds ++ [d]) m := by
  rcases heff with ⟨hno, hk⟩ | ⟨hyes, hfree, pkt, hpkt, hst⟩ | ⟨hyes, htaken, -⟩
  · refine ⟨hal, hk.packetIgnored.trans h.ignored, ?_, ?_⟩
    · intro k p hp
      rw [hk.stdout, mem_arrivals_snoc]
      exact Or.inl (h.arrived k p (by rwa [hk.table] at hp))
    · intro i hi hlo
      rw [hk.stdout] at hlo ⊢
      rw [hk.table]
      rcases mem_arrivals_snoc.mp hi with hi | ⟨hyes, -⟩
      · exact h.held i hi hlo
      · exact absurd hyes hno
  · obtain ⟨hlo', -⟩ := hwindow hyes
    refine ⟨hal, hst.packetIgnored.trans h.ignored, ?_, ?_⟩
    · intro k p hp
      rw [hst.stdout, mem_arrivals_snoc]
      rw [hst.table] at hp
      rcases eq_some_of_update_some hp with ⟨hki, -⟩ | ⟨-, hp⟩
      · exact Or.inr ⟨hyes, by omega⟩
      · exact Or.inl (h.arrived k p hp)
    · intro i hi hlo
      rw [hst.stdout] at hlo ⊢
      rw [hst.table]
      by_cases hki : i - r.stdout.length = d.2 - r.stdout.length
      · rw [hki, Function.update_self]
        simp
      · rw [Function.update_of_ne hki]
        rcases mem_arrivals_snoc.mp hi with hi | ⟨-, rfl⟩
        · exact h.held i hi hlo
        · exact absurd rfl hki
  · -- a taken slot means the packet is in the table, so it has arrived
    obtain ⟨hlo', -⟩ := hwindow hyes
    obtain ⟨pkt, hpkt⟩ := Option.ne_none_iff_exists'.mp htaken
    have := h.arrived _ pkt hpkt
    rw [Nat.add_sub_cancel' hlo'] at this
    exact absurd this (honce hyes)

/-- The output half keeps it: a flush moves the count of written packets and the table
together. -/
theorem WindowInv.reply {ds : List Delivery} {m r' : Receiver} {e : ReceiverPoll}
    (h : WindowInv stream ds m) (hal : Aligned stream r') (heff : ReplyEffect crc32 m r' e) :
    WindowInv stream ds r' := by
  rcases heff with ⟨hk, -⟩ | ⟨-, s, hf⟩
  · refine ⟨hal, hk.packetIgnored.trans h.ignored, ?_, ?_⟩
    · intro k p hp
      rw [hk.stdout]
      exact h.arrived k p (by rwa [hk.table] at hp)
    · intro i hi hlo
      rw [hk.stdout] at hlo ⊢
      rw [hk.table]
      exact h.held i hi hlo
  · refine ⟨hal, hf.packetIgnored.trans h.ignored, ?_, ?_⟩
    · intro k p hp
      have := h.arrived (k + s) p (by rwa [hf.table] at hp)
      rw [hf.stdout_length]
      rwa [Nat.add_assoc, Nat.add_comm s k]
    · intro i hi hlo
      rw [hf.stdout_length] at hlo ⊢
      rw [hf.table]
      have := h.held i hi (by omega)
      rwa [show i - (m.stdout.length + s) + s = i - m.stdout.length by omega]

/-- **One iteration.**  It has an outcome, and keeps the invariant. -/
theorem WindowInv.step {ds : List Delivery} {r : Receiver} {d : Delivery}
    (hne : ∀ i, stream i ≠ []) (h : WindowInv stream ds r)
    (hok : ArrivesOnceInWindow crc32 stream ds r d) (hkeep : KeepsOrder crc32 ds r d) :
    ∃ r', deliver crc32 r d = some r' ∧ WindowInv stream (ds ++ [d]) r' := by
  obtain ⟨hrunning, hread, hwindow, honce⟩ := hok
  obtain ⟨m, r', hr', hmal, hal, hrcv, hrep⟩ :=
    h.toAligned.iterate crc32 hrunning (fun _ => hne _) hread hwindow hkeep.1 hkeep.2
  exact ⟨r', hr', (h.receive hwindow honce hmal hrcv).reply hal hrep⟩

/-- The invariant says what the receiver owes. -/
theorem WindowInv.reassembled {ds : List Delivery} {r : Receiver} (h : WindowInv stream ds r) :
    Reassembled stream ds r where
  no_drop := h.ignored
  stdout := h.stdout
  slot := by
    intro k _
    cases hk : r.listPkt k with
    | none => exact Or.inl rfl
    | some pkt => exact Or.inr ⟨pkt, rfl, (h.slot k pkt hk).2⟩
  once := by
    intro i hi hlo
    obtain ⟨pkt, hpkt⟩ := Option.ne_none_iff_exists'.mp (h.held i hi hlo)
    obtain ⟨hk4, hstream⟩ := h.slot _ pkt hpkt
    rw [Nat.add_sub_cancel' hlo] at hstream
    refine ⟨i - r.stdout.length, ⟨hk4, pkt, hpkt, hstream⟩, ?_⟩
    rintro k ⟨hk, p, hp, hpi⟩
    -- two positions of one window with one sequence number are one position
    have hmod := (h.slot k p hp).2.2.1.symm.trans hpi.2.1
    unfold realWindow at *
    have := eq_of_mod_eq hmod (by omega) (by omega)
    omega

/-- **Reassembly.**  In every run of the receiver on packets of a stream of non-empty payloads,
each arriving at most once and inside the window, whose iterations meet the two conditions: every
state is `Reassembled`, and every further such iteration has an outcome. -/
theorem reassembled_of_run (crc32 : List UInt8 → UInt32) (stream : ℕ → List UInt8)
    (hne : ∀ i, stream i ≠ []) (buffer : Memory) (ds : List Delivery) (r : Receiver)
    (hrun : Run (deliver crc32)
      (fun ds r d => ArrivesOnceInWindow crc32 stream ds r d ∧ KeepsOrder crc32 ds r d)
      (Receiver.init buffer) ds r) :
    Reassembled stream ds r ∧
      ∀ d, ArrivesOnceInWindow crc32 stream ds r d → KeepsOrder crc32 ds r d →
        (deliver crc32 r d).isSome := by
  have hinv : WindowInv stream ds r := by
    refine hrun.invariant (WindowInv.init buffer) ?_
    intro ds r d r' h hok hstep
    obtain ⟨r'', hr'', hinv⟩ := h.step hne hok.1 hok.2
    obtain rfl := Option.some.inj (hr''.symm.trans hstep)
    exact hinv
  refine ⟨hinv.reassembled, fun d hok hkeep => ?_⟩
  obtain ⟨r', hr', -⟩ := hinv.step hne hok hkeep
  rw [hr']
  rfl

/-- Packets 1 and 0 before the first flush, then packet 2. -/
def swappedDeliveries : List Delivery :=
  [streamDelivery zlibCrc32 countingStream blankPkt 1 .idle,
   streamDelivery zlibCrc32 countingStream blankPkt 0 .pollout,
   streamDelivery zlibCrc32 countingStream blankPkt 2 .pollout]

/-- Two packets in the wrong order are written in the right one. -/
theorem reassembled_swapped :
    ∃ r, Reassembled countingStream swappedDeliveries r ∧ r.stdout = [[0], [1], [2]] := by
  obtain ⟨r, hrun, hout⟩ := exists_run_of_follow (deliver zlibCrc32)
    (fun ds r d => ArrivesOnceInWindow zlibCrc32 countingStream ds r d ∧
      KeepsOrder zlibCrc32 ds r d) (Receiver.init fun _ => 0) swappedDeliveries Receiver.stdout
    (show _ = some [[0], [1], [2]] by decide +kernel)
  exact ⟨r, (reassembled_of_run zlibCrc32 countingStream (by simp [countingStream]) _ _ r hrun).1,
    hout⟩

/-- Packet 3 in the last slot, behind a hole, and packet 0, which is flushed. -/
def holeDeliveries : List Delivery :=
  [streamDelivery zlibCrc32 countingStream blankPkt 3 .idle,
   streamDelivery zlibCrc32 countingStream blankPkt 0 .pollout]

/-- **The shift duplicates.**  After the two deliveries packet 3 is in slot 2, where it belongs, and
still in slot 3, the place of packet 4. -/
theorem not_reassembled :
    ¬ ∀ (stream : ℕ → List UInt8), (∀ i, stream i ≠ []) → ∀ (buffer : Memory)
      (ds : List Delivery) (r : Receiver),
      Run (deliver zlibCrc32) (ArrivesOnceInWindow zlibCrc32 stream) (Receiver.init buffer) ds r →
      Reassembled stream ds r := by
  intro h
  obtain ⟨r, hrun, hview⟩ := exists_run_of_follow (deliver zlibCrc32)
    (ArrivesOnceInWindow zlibCrc32 countingStream) (Receiver.init fun _ => 0) holeDeliveries
    (fun r => (r.stdout.length, (r.listPkt 3).map Pkt.seqnum))
    (show _ = some (1, some 3) by decide +kernel)
  obtain ⟨hlen, hseq⟩ := Prod.mk.inj hview
  have hslot := (h countingStream (by simp [countingStream]) _ _ r hrun).slot 3 (by decide)
  obtain ⟨pkt, hpkt, hnum⟩ := Option.map_eq_some_iff.mp hseq
  rw [hpkt] at hslot
  obtain hnone | ⟨p, hp, hstream⟩ := hslot
  · cases hnone
  · obtain rfl := Option.some.inj hp
    have := hstream.2.1
    rw [hnum, hlen] at this
    exact absurd this (by decide)

end TrtpNetwork
