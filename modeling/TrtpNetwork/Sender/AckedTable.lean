import TrtpNetwork.Sender.Lookups

/-!
# What an ACK takes out of the table

An ACK frees the slot of the packet before its number, if that is in the first `window` slots, and
the free slots at the front are then shifted out and refilled.  Both can be read off the state
before the ACK: `freedTable` is the table behind the deletion and `refillCount` the number of
packets made.  A packet is taken out if its slot is freed, or if it is one of the last of the table
and the shift over several free slots loses it (`TakesOut`).  Every other packet stays
(`Refills.placed`).
-/

namespace TrtpNetwork

/-- The packet is in the table, in the slot for its position among the last 50 made. -/
def Placed (s : Sender) (p : ℕ) : Prop :=
  p < s.seqnum ∧ s.seqnum ≤ p + tableSize ∧ s.listPkt (p + tableSize - s.seqnum) = some p

instance (s : Sender) (p : ℕ) : Decidable (Placed s p) := by
  unfold Placed
  infer_instance

/-- The packet has the number before that of the ACK, and is in the first `window` slots. -/
def FreedBy (s : Sender) (seqnum p : ℕ) : Prop :=
  Placed s p ∧ p + tableSize < s.seqnum + s.window ∧ p % 256 = ackedSeqnum seqnum

instance (s : Sender) (seqnum p : ℕ) : Decidable (FreedBy s seqnum p) := by
  unfold FreedBy
  infer_instance

/-- The table without the packet of the ACK. -/
def freedTable (s : Sender) (seqnum : ℕ) : Slots ℕ := fun i =>
  if FreedBy s seqnum (s.seqnum - tableSize + i) then none else s.listPkt i

/-- The state without the packet of the ACK. -/
def withoutAcked (s : Sender) (seqnum : ℕ) : Sender :=
  { s with
    listPkt := freedTable s seqnum
    packets := fun p => if FreedBy s seqnum p then none else s.packets p }

/-- The number of packets made for the ACK: as many as there are free slots at the front. -/
def refillCount (s : Sender) (seqnum : ℕ) : ℕ :=
  (scanWhile Option.isNone (freedTable s seqnum) tableSize 0).getD 0

/-- The ACK takes the packet out of the table: it frees its slot, or the shift over several free
slots loses it. -/
def TakesOut (s : Sender) (seqnum p : ℕ) : Prop :=
  FreedBy s seqnum p ∨ p < s.seqnum ∧ s.seqnum < p + refillCount s seqnum

instance (s : Sender) (seqnum p : ℕ) : Decidable (TakesOut s seqnum p) := by
  unfold TakesOut
  infer_instance

variable {crc32 : List UInt8 → UInt32} {file : List UInt8} {s s' : Sender}

theorem Placed.congr (hlist : s'.listPkt = s.listPkt) (hseq : s'.seqnum = s.seqnum) (p : ℕ) :
    Placed s' p ↔ Placed s p := by
  unfold Placed
  rw [hlist, hseq]

/-- **The ACK frees the slot of its packet**, if that is in the first `window` slots. -/
theorem Indexed.deleteAcked_table (h : Indexed crc32 file s) {seqnum : ℕ} (hlt : seqnum < 256)
    (hdel : deleteAcked s seqnum = some s') :
    s'.listPkt = freedTable s seqnum ∧ s'.packets = (withoutAcked s seqnum).packets := by
  have hfull := h.full
  have hacked : ackedSeqnum seqnum < 256 := by
    unfold ackedSeqnum
    split <;> omega
  unfold freedTable withoutAcked
  rcases deleteAcked_lookup hdel with ⟨hnone, rfl⟩ | ⟨k, p, hk, hfound, hp, rfl⟩
  · have hkept : ∀ q, ¬ FreedBy s' seqnum q := by
      rintro q ⟨⟨-, hle, hslot⟩, hwin, hnum⟩
      obtain ⟨pkt, hpkt, hne⟩ := findBuffer_eq_neg_one_iff.mp hnone _ (by omega) _ hslot
      rw [h.seqnum_eq hpkt] at hne
      exact hne hnum
    exact ⟨funext fun i => (if_neg (hkept _)).symm, funext fun q => (if_neg (hkept q)).symm⟩
  · -- the slot found is the one for the packet's position
    have heq := h.place_of_found hfound hp
    obtain ⟨hkt, ⟨q, pkt, hq, hpkt, hnum⟩, -⟩ := findBuffer_eq_some_iff.mp hfound
    obtain rfl := Option.some.inj (hp.symm.trans hq)
    rw [h.seqnum_eq hpkt] at hnum
    have hmade := h.made k hkt p hp
    have hfreed : ∀ q, FreedBy s seqnum q ↔ q = p := by
      refine fun q => ⟨?_, ?_⟩
      · rintro ⟨⟨hlt', hle, -⟩, -, hnum'⟩
        unfold tableSize at *
        omega
      · rintro rfl
        refine ⟨⟨hmade, by omega, ?_⟩, by omega, hnum⟩
        rw [show q + tableSize - s.seqnum = k by omega]
        exact hp
    refine ⟨funext fun i => ?_, funext fun q => ?_⟩
    · show Function.update s.listPkt k none i = _
      rw [Function.update_apply]
      exact if_congr (by rw [hfreed]; omega) rfl rfl
    · show Function.update s.packets p none q = _
      rw [Function.update_apply]
      exact if_congr (hfreed q).symm rfl rfl

/-- What an ACK makes of the table and of the variables of a pass. -/
structure Refills (s s' : Sender) (ack : Pkt) : Prop where
  full : tableSize ≤ s.seqnum
  count_lt : refillCount s ack.seqnum.toNat < tableSize
  front : ∀ i < refillCount s ack.seqnum.toNat, freedTable s ack.seqnum.toNat i = none
  listPkt : s'.listPkt =
    refilled (freedTable s ack.seqnum.toNat) s.seqnum (refillCount s ack.seqnum.toNat)
  seqnum : s'.seqnum = s.seqnum + refillCount s ack.seqnum.toNat
  bufferUpdate : s'.bufferUpdate = (s.bufferUpdate || (freedTable s ack.seqnum.toNat 0).isNone)
  packets : ∃ v, s'.packets = overwrite (withoutAcked s ack.seqnum.toNat).packets s.seqnum
    (refillCount s ack.seqnum.toNat) v
  recent : Recent (withoutAcked s ack.seqnum.toNat)
  nack : s'.nack = s.nack

/-- **An ACK is processed.** -/
theorem Indexed.refills (h : Indexed crc32 file s) {e : SenderPoll} {ack : Pkt}
    (hread : ackRead crc32 s e = some ack)
    (hrcv : TrtpNetwork.senderReceive crc32 s e = some s') : Refills s s' ack := by
  rw [senderReceive_of_ackRead crc32 hread] at hrcv
  obtain ⟨d, m, hd, hm, rfl⟩ := handleAck_cases crc32 hrcv
  have hbase : Indexed crc32 file
      { s with buffer := readBuffer s e, base := ackedBase s ack.seqnum.toNat } :=
    ⟨h.toGenuine.mono rfl rfl rfl fun _ _ hq => hq, h.toRecent.mono rfl rfl fun _ hq => hq,
      h.full, h.nack_le⟩
  obtain ⟨hlist, hpackets⟩ : d.listPkt = freedTable s ack.seqnum.toNat ∧
      d.packets = (withoutAcked s ack.seqnum.toNat).packets :=
    hbase.deleteAcked_table ack.seqnum.toNat_lt hd
  obtain ⟨hseq, hupdate, hnack⟩ : d.seqnum = s.seqnum ∧ d.bufferUpdate = s.bufferUpdate ∧
      d.nack = s.nack := by
    rcases deleteAcked_cases hd with rfl | ⟨k, p, -, -, -, -, rfl⟩
    · exact ⟨rfl, rfl, rfl⟩
    · exact ⟨rfl, rfl, rfl⟩
  obtain ⟨n, hn, rfl⟩ := clearAndFillBuffer_cases crc32 hm
  rw [hlist] at hn
  obtain rfl : refillCount s ack.seqnum.toNat = n := by
    rw [refillCount, hn, Option.getD_some]
  obtain ⟨hlt, -, hfront⟩ := scanWhile_zero_eq_some_iff.mp hn
  have hrecent : Recent (withoutAcked s ack.seqnum.toNat) := by
    refine (hbase.toRecent.deleteAcked hd).mono hlist.symm hseq.symm fun q hq => ?_
    rwa [hpackets]
  refine ⟨h.full, hlt, fun i hi => Option.isNone_iff_eq_none.mp (hfront i hi), ?_, ?_, ?_, ?_,
    hrecent, hnack⟩
  · show refilled d.listPkt d.seqnum _ = _
    rw [hlist, hseq]
  · show d.seqnum + _ = _
    rw [hseq]
  · show (if d.listPkt 0 = none then true else d.bufferUpdate) = _
    rw [hlist, hupdate]
    cases freedTable s ack.seqnum.toNat 0 <;> simp
  · refine ⟨filledPkt e.fill ack.window.val d, ?_⟩
    show overwrite d.packets d.seqnum _ _ = _
    rw [hpackets, hseq]

/-- **A packet the ACK does not take out stays in the table.** -/
theorem Refills.placed {ack : Pkt} (h : Refills s s' ack) {p : ℕ} (hp : Placed s p)
    (hkept : ¬ TakesOut s ack.seqnum.toNat p) : Placed s' p := by
  obtain ⟨hmade, hle, hslot⟩ := hp
  obtain ⟨hfreed, hlost⟩ := not_or.mp hkept
  have hfull := h.full
  have hlt := h.count_lt
  have hin : freedTable s ack.seqnum.toNat (p + tableSize - s.seqnum) = some p := by
    rw [freedTable, if_neg, hslot]
    intro hsame
    rw [show s.seqnum - tableSize + (p + tableSize - s.seqnum) = p by omega] at hsame
    exact hfreed hsame
  have hbehind : refillCount s ack.seqnum.toNat ≤ p + tableSize - s.seqnum := by
    by_contra hfront
    rw [h.front _ (by omega)] at hin
    cases hin
  have hseq := h.seqnum
  refine ⟨by omega, by omega, ?_⟩
  rw [h.listPkt, refilled_apply hlt.le (by omega), if_neg (by omega), if_pos (by omega), ← hin]
  congr 1
  omega

/-- The packets made for the ACK are in the table. -/
theorem Refills.placed_of_le {ack : Pkt} (h : Refills s s' ack) {p : ℕ} (hlo : s.seqnum ≤ p)
    (hp : p < s'.seqnum) : Placed s' p := by
  have hlt := h.count_lt
  have hfull := h.full
  have hseq := h.seqnum
  refine ⟨hp, by omega, ?_⟩
  rw [h.listPkt, refilled_apply hlt.le (by omega), if_pos (by omega)]
  congr 1
  omega

end TrtpNetwork
