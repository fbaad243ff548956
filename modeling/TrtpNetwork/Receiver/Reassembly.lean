import TrtpNetwork.Library.SerialNumbers
import TrtpNetwork.Packet.Stream
import TrtpNetwork.Receiver.Steps

/-!
# The receive window

What the table of the receiver is for: with `n` packets of a stream written, slot `k` is the place
of stream packet `n + k`.  `Aligned` is this reading of a state, together with the arithmetic that
makes it work, `base_r = n mod 4`.

Two things keep a state aligned, and each has a condition.

* A packet that arrives inside the window finds its slot (`slotIndex_of_window`) as long as it lies
  in the same block of 256 stream positions as the first unwritten one.  Past the end of a block
  the sequence number restarts from 0 while `base_r` does not.
* A flush shifts the table (`Aligned.reply`) as long as nothing sits in the last slot behind a
  hole and the reset of `base_r` for ACK number 0 changes nothing.  `FlushSafe` is this condition
  on the state the flush starts from.

`Aligned.receive` and `Aligned.reply` are the two halves of a poll iteration under these
conditions; every result about runs of the receiver is built on them.
-/

namespace TrtpNetwork

variable (stream : ℕ → List UInt8)

/-- The state of a receiver that has written the first `n` packets, `n` being the number of
`fwrite` calls, and holds stream packet `n + k` in slot `k` or nothing. -/
structure Aligned (r : Receiver) : Prop where
  stdout : r.stdout = (List.range r.stdout.length).map stream
  base : r.baseR = (r.stdout.length % realWindow : ℕ)
  slot : ∀ k pkt, r.listPkt k = some pkt →
    k < realWindow ∧ IsStreamPacket stream (r.stdout.length + k) pkt
  nack : r.nack = -1

/-- The condition of the flush: the leading run reaches to a point from which the shift leaves
nothing behind, and the reset of `base_r` after ACK number 0 changes nothing. -/
def FlushSafe (r : Receiver) : Prop :=
  r.partialAck ≠ -1 → ∀ s, firstEmptyPlace r.listPkt = some s →
    (s = 0 ∨ s = realWindow ∨ r.listPkt (realWindow - 1) = none) ∧
    (r.partialAck = 0 → (r.baseR + s).tmod realWindow = 0)

instance (r : Receiver) : Decidable (FlushSafe r) :=
  inferInstanceAs (Decidable (r.partialAck ≠ -1 → ∀ s ∈ firstEmptyPlace r.listPkt,
    (s = 0 ∨ s = realWindow ∨ r.listPkt (realWindow - 1) = none) ∧
    (r.partialAck = 0 → (r.baseR + s).tmod realWindow = 0)))

theorem aligned_init (buffer : Memory) : Aligned stream (Receiver.init buffer) where
  stdout := rfl
  base := rfl
  slot := fun k pkt h => by cases h
  nack := rfl

variable {stream} {r : Receiver}

/-! ## Scanning the table -/

theorem firstEmptyPlace_eq_some_iff {t : Slots Pkt} {s : ℕ} :
    firstEmptyPlace t = some s ↔ s < receiveCells ∧ t s = none ∧ ∀ k < s, t k ≠ none := by
  rw [firstEmptyPlace, scanWhile_zero_eq_some_iff]
  simp [Option.isSome_iff_ne_none]

/-- A table whose cell behind the last slot is empty is scanned without leaving it. -/
theorem exists_firstEmptyPlace {t : Slots Pkt} (h : t realWindow = none) :
    ∃ s ≤ realWindow, firstEmptyPlace t = some s :=
  exists_scanWhile (by decide) (by rw [h]; rfl)

/-- Its leading run lies within the window. -/
theorem firstEmptyPlace_le {t : Slots Pkt} {s : ℕ} (h : t realWindow = none)
    (hs : firstEmptyPlace t = some s) : s ≤ realWindow := by
  obtain ⟨-, -, hfull⟩ := firstEmptyPlace_eq_some_iff.mp hs
  by_contra hlt
  exact hfull realWindow (Nat.not_le.mp hlt) h

theorem Aligned.empty_of_ge (h : Aligned stream r) {k : ℕ} (hk : realWindow ≤ k) :
    r.listPkt k = none := by
  by_contra hne
  obtain ⟨pkt, hpkt⟩ := Option.ne_none_iff_exists'.mp hne
  have := (h.slot k pkt hpkt).1
  omega

/-! ## Finding the slot -/

/-- The index C's remainder gives when `base_r` is not above the sequence number. -/
theorem slotIndex_of_le {seqnum k : ℕ} {baseR : ℤ} (hle : baseR ≤ seqnum)
    (hk : ((seqnum : ℤ) - baseR) % realWindow = k) : slotIndex seqnum baseR = some k := by
  have htmod : ((seqnum : ℤ) - baseR).tmod realWindow = k := by
    rw [Int.tmod_eq_emod_of_nonneg (by omega), hk]
  simp [slotIndex, htmod]

/-- For number 0 the reset of `base_r` is no change. -/
theorem base_of_window {n i : ℕ} (hlo : n ≤ i) (hblock : i / 256 = n / 256) :
    (if i % 256 = 0 then (0 : ℤ) else (n % realWindow : ℕ)) = (n % realWindow : ℕ) := by
  unfold realWindow
  split
  · have : n % 4 = 0 := by omega
    rw [this]
    rfl
  · rfl

/-- **The slot of a packet inside the window**, in a block of 256 that the window has reached: the
distance from the first unwritten packet.  Number 0 comes first in its block, so the reset of
`base_r` for it finds `n` itself. -/
theorem slotIndex_of_window {n i : ℕ} (hlo : n ≤ i) (hhi : i < n + realWindow)
    (hblock : i / 256 = n / 256) :
    slotIndex (i % 256) (if i % 256 = 0 then 0 else (n % realWindow : ℕ)) = some (i - n) := by
  rw [base_of_window hlo hblock]
  unfold realWindow at *
  exact slotIndex_of_le (by omega) (by unfold realWindow; omega)

/-! ## Receiving a packet of the stream -/

/-- A packet of the stream goes to the table, or ends the transfer when it is empty. -/
theorem handlePacket_of_stream {i : ℕ} {decoded : PktStatusCode × Pkt} (hok : decoded.1 = .pktOk)
    (h : IsStreamPacket stream i decoded.2) (r : Receiver) :
    ∃ t, handlePacket r decoded =
      if stream i = [] then closeTransfer { r with lastTimePkt := t } decoded.2
      else placePacket { r with lastTimePkt := t } decoded.2 := by
  have hnack : ¬ (decoded.1 ≠ .pktOk ∨ decoded.2.type = .nack) := by
    rw [hok, h.1]
    simp
  rw [handlePacket, if_neg hnack, goodPacket]
  simp only [← h.length_eq_zero_iff]
  by_cases ht : decoded.2.timestamp > r.lastTimePkt
  · exact ⟨decoded.2.timestamp, by simp [ht, h.1]⟩
  · exact ⟨r.lastTimePkt, by simp [ht, h.1]⟩

/-- What storing stream packet `i` in slot `k` changes. -/
structure Stores (r r' : Receiver) (i k : ℕ) (pkt : Pkt) : Prop where
  table : r'.listPkt = Function.update r.listPkt k (some pkt)
  partialAck : r'.partialAck = ((i + 1) % 256 : ℕ)
  freePlace : r'.freePlace = r.freePlace - 1
  stdout : r'.stdout = r.stdout
  written : r'.written = r.written
  packetIgnored : r'.packetIgnored = r.packetIgnored
  status : r'.status = r.status

/-- What dropping a packet leaves alone. -/
structure Drops (r r' : Receiver) : Prop where
  table : r'.listPkt = r.listPkt
  partialAck : r'.partialAck = r.partialAck
  freePlace : r'.freePlace = r.freePlace
  stdout : r'.stdout = r.stdout
  written : r'.written = r.written
  status : r'.status = r.status

/-- **Storing a packet inside the window keeps the state aligned.** -/
theorem Aligned.place (h : Aligned stream r) {i : ℕ} {pkt : Pkt}
    (hpkt : IsStreamPacket stream i pkt) (hlo : r.stdout.length ≤ i)
    (hhi : i < r.stdout.length + realWindow) (hblock : i / 256 = r.stdout.length / 256) :
    ∃ r', placePacket r pkt = some r' ∧ Aligned stream r' ∧
      (r.listPkt (i - r.stdout.length) = none ∧ Stores r r' i (i - r.stdout.length) pkt ∨
        r.listPkt (i - r.stdout.length) ≠ none ∧ Drops r r') := by
  have hslot : slotIndex pkt.seqnum.toNat (if pkt.seqnum.toNat = 0 then 0 else r.baseR) =
      some (i - r.stdout.length) := by
    rw [hpkt.2.1, h.base]
    exact slotIndex_of_window hlo hhi hblock
  have hbase : (if pkt.seqnum.toNat = 0 then 0 else r.baseR) = r.baseR := by
    rw [hpkt.2.1, h.base]
    exact base_of_window hlo hblock
  by_cases hfree : r.listPkt (i - r.stdout.length) = none
  · refine ⟨_, placePacket_of_free hslot hfree, ⟨h.stdout, ?_, ?_, h.nack⟩,
      Or.inl ⟨hfree, rfl, ?_, rfl, rfl, rfl, rfl, rfl⟩⟩
    · rw [hbase]
      exact h.base
    · intro k p hk
      rcases eq_some_of_update_some hk with ⟨hki, rfl⟩ | ⟨-, hk⟩
      · exact ⟨by omega, by rw [hki, Nat.add_sub_cancel' hlo]; exact hpkt⟩
      · exact h.slot k p hk
    · simp only [hpkt.2.1]
      omega
  · refine ⟨_, placePacket_of_taken hslot hfree, ⟨h.stdout, ?_, h.slot, h.nack⟩,
      Or.inr ⟨hfree, rfl, rfl, rfl, rfl, rfl, rfl⟩⟩
    rw [hbase]
    exact h.base

/-- The slot a packet addresses is taken, and number 0 does not move `base_r`. -/
def AddressesTaken (r : Receiver) (i : ℕ) : Prop :=
  (i % 256 = 0 → r.baseR = 0) ∧ ∃ k ∈ slotIndex (i % 256) r.baseR, r.listPkt k ≠ none

instance (r : Receiver) (i : ℕ) : Decidable (AddressesTaken r i) := by
  unfold AddressesTaken
  infer_instance

/-- **A packet that addresses a taken slot is dropped**, wherever in the stream it is from. -/
theorem Aligned.drop (h : Aligned stream r) {i : ℕ} {pkt : Pkt}
    (hpkt : IsStreamPacket stream i pkt) (htaken : AddressesTaken r i) :
    ∃ r', placePacket r pkt = some r' ∧ Aligned stream r' ∧ Drops r r' := by
  obtain ⟨hzero, k, hk, hfull⟩ := htaken
  have hbase : (if pkt.seqnum.toNat = 0 then 0 else r.baseR) = r.baseR := by
    rw [hpkt.2.1]
    split
    · exact (hzero (by assumption)).symm
    · rfl
  have hslot :
      slotIndex pkt.seqnum.toNat (if pkt.seqnum.toNat = 0 then 0 else r.baseR) = some k := by
    rw [hbase, hpkt.2.1]
    exact hk
  refine ⟨_, placePacket_of_taken hslot hfull, ⟨h.stdout, ?_, h.slot, h.nack⟩, rfl, rfl, rfl, rfl,
    rfl, rfl⟩
  rw [hbase]
  exact h.base

/-! ## The flush -/

/-- What a flush of the leading run changes. -/
structure Flushes (crc32 : List UInt8 → UInt32) (r r' : Receiver) (fresh : Pkt) (s : ℕ) :
    Prop where
  first : firstEmptyPlace r.listPkt = some s
  pending : r.partialAck ≠ -1
  table : ∀ k, r'.listPkt k = r.listPkt (k + s)
  partialAck : r'.partialAck = -1
  freePlace : r'.freePlace = r.freePlace + s
  stdout_length : r'.stdout.length = r.stdout.length + s
  written : r'.written =
    r.written ++ [(ackPkt r fresh s, encoding crc32 (ackPkt r fresh s) [])]
  packetIgnored : r'.packetIgnored = r.packetIgnored
  status : r'.status = r.status

variable (crc32 : List UInt8 → UInt32)

/-- **A safe flush keeps the state aligned**, with as many packets written as the leading run was
long. -/
theorem Aligned.sendAck (h : Aligned stream r) (hsafe : FlushSafe r) (hack : r.partialAck ≠ -1)
    (fresh : Pkt) :
    ∃ r' s, sendAck crc32 r fresh = some r' ∧ Aligned stream r' ∧
      Flushes crc32 r r' fresh s := by
  obtain ⟨s, hs4, hs⟩ := exists_firstEmptyPlace (h.empty_of_ge (Nat.le_refl _))
  obtain ⟨htail, hreset⟩ := hsafe hack s hs
  obtain ⟨-, hfree, hfull⟩ := firstEmptyPlace_eq_some_iff.mp hs
  -- the leading run holds the next `s` packets of the stream
  have hrun : ∀ i < s, ∃ pkt, r.listPkt i = some pkt ∧
      pkt.content = some (stream (r.stdout.length + i)) := by
    intro i hi
    obtain ⟨pkt, hpkt⟩ := Option.ne_none_iff_exists'.mp (hfull i hi)
    exact ⟨pkt, hpkt, (h.slot i pkt hpkt).2.2.2⟩
  have htable : ∀ k, flushedTable r.listPkt s k = r.listPkt (k + s) := by
    refine flushedTable_eq_shift hs4 (fun k hk => h.empty_of_ge hk) fun k hk hsk hk4 => ?_
    unfold realWindow at *
    rcases htail with h0 | h4 | hlast
    · omega
    · omega
    · by_cases hks : k = s
      · rw [hks]
        exact hfree
      · -- a slot behind the first hole that the shift does not reach is the last one
        by_cases hk3 : k = 3
        · rw [hk3]
          exact hlast
        · obtain rfl : k = 2 := by omega
          obtain rfl : s = 1 := by omega
          omega
  have hbase : (if r.partialAck = 0 then 0 else (r.baseR + s).tmod realWindow) =
      ((r.stdout.length + s) % realWindow : ℕ) := by
    have hmod : (r.baseR + s).tmod realWindow = ((r.stdout.length + s) % realWindow : ℕ) := by
      rw [h.base, Int.tmod_eq_emod_of_nonneg (by omega)]
      unfold realWindow
      omega
    split
    · rw [← hmod]
      exact (hreset (by assumption)).symm
    · exact hmod
  refine ⟨_, s, sendAck_eq crc32 hack h.nack hs hrun fresh, ⟨?_, ?_, ?_, h.nack⟩,
    ⟨hs, hack, htable, rfl, rfl, ?_, rfl, rfl, rfl⟩⟩
  · simp only [List.length_append, List.length_map, List.length_range]
    rw [List.range_add, List.map_append, ← h.stdout, List.map_map]
    rfl
  · simp only [List.length_append, List.length_map, List.length_range]
    exact hbase
  · intro k pkt hk
    simp only [List.length_append, List.length_map, List.length_range]
    have hk' : r.listPkt (k + s) = some pkt := (htable k).symm.trans hk
    obtain ⟨hk4, hpkt⟩ := h.slot _ _ hk'
    refine ⟨by omega, ?_⟩
    rwa [Nat.add_assoc, Nat.add_comm s k]
  · simp

/-! ## The end of the transfer -/

/-- **Ending the transfer from an aligned state** writes as many packets more as there are leading
slots with data, and changes nothing else. -/
theorem Aligned.close (h : Aligned stream r) {pkt : Pkt} {n : ℕ}
    (hn : closingRun r.listPkt = some n) (hdel : pktDel pkt = some ()) :
    closeTransfer r pkt = some { r with
      stdout := (List.range (r.stdout.length + n)).map stream
      status := .endOfData } := by
  obtain ⟨-, -, hfull⟩ := closingRun_eq_some_iff.mp hn
  have hbytes : ∀ k < n, ∃ p, r.listPkt k = some p ∧
      p.content = some ((fun k => stream (r.stdout.length + k)) k) := by
    intro k hk
    obtain ⟨p, hp, -⟩ := hfull k hk
    exact ⟨p, hp, (h.slot k p hp).2.2.2⟩
  rw [closeTransfer_eq hn hbytes hdel, List.range_add, List.map_append, ← h.stdout, List.map_map]
  rfl

end TrtpNetwork
