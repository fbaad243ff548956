import TrtpNetwork.Library.Runs
import TrtpNetwork.Sender.Loop

/-!
# The steps of the sender in closed form

One lemma per function of `Sender.Loop`, for every state.

* `foldlM_insertPkt`, `clearAndFillBuffer_eq`: the refill, with the table it leaves (`refilled`).
* `findBuffer_eq_some_iff`, `findBuffer_eq_neg_one_iff`: the lookup.
* `deleteAcked_cases`, `handleAck_cases`: what an ACK does.
* `OutputFrame`, `InputFrame`: what the two halves of an iteration leave alone.
* `senderReply_cases`, `readWriteLoopSender_cases`: the ways an iteration goes, with
  `senderReply_rule` and `readWriteLoopSender_rule` for what all of them keep.
* `readWriteLoopSender_acked`: `base`, `window` and `lastAck` over one iteration.
-/

namespace TrtpNetwork

variable (crc32 : List UInt8 → UInt32)

/-! ## Filling the table -/

/-- The packet made for position `p` when the table is filled from the state `s` on. -/
def filledPkt (fill : FillInputs) (win : ℤ) (s : Sender) (p : ℕ) : Pkt :=
  dataPkt (fill.fresh p) ((s.fd.drop (chunkSize * (p - s.seqnum))).take chunkSize) p win
    (fill.clock p)

theorem insertPkt_eq (fill : FillInputs) (win : ℤ) (s : Sender) (i : ℕ) :
    insertPkt crc32 fill win s i = some { s with
      fd := s.fd.drop chunkSize
      seqnum := s.seqnum + 1
      packets := Function.update s.packets s.seqnum (some (filledPkt fill win s s.seqnum))
      listPkt := Function.update s.listPkt i (some s.seqnum) } := by
  have hlen : (s.fd.take chunkSize).length ≤ 512 :=
    Nat.le_trans (List.length_take_le ..) (by decide)
  have hdata : bytesAt (memcpy (fun _ => 0) 0 (s.fd.take chunkSize)) 0
      (s.fd.take chunkSize).length = s.fd.take chunkSize := bytesAt_memcpy ..
  have hput := putOnPkt_data crc32 hlen (fill.fresh s.seqnum) (fun _ => 0)
    (memcpy (fun _ => 0) 0 (s.fd.take chunkSize)) s.seqnum win maxBufferSize (fill.clock s.seqnum)
    hdata
  unfold insertPkt
  simp only [hput, Option.bind_eq_bind, Option.bind_some]
  simp [filledPkt]

/-- **The loop that fills `n` slots from `a` on.** -/
theorem foldlM_insertPkt (fill : FillInputs) (win : ℤ) (s : Sender) (a n : ℕ) :
    (List.range' a n).foldlM (insertPkt crc32 fill win) s = some { s with
      fd := s.fd.drop (chunkSize * n)
      seqnum := s.seqnum + n
      packets := overwrite s.packets s.seqnum n (filledPkt fill win s)
      listPkt := overwrite s.listPkt a n fun i => s.seqnum + (i - a) } := by
  induction n with
  | zero => simp
  | succ n ih =>
    rw [List.range'_1_concat, foldlM_snoc, ih, Option.bind_some, insertPkt_eq]
    have htable := update_overwrite s.listPkt a n fun i => s.seqnum + (i - a)
    rw [Nat.add_sub_cancel_left] at htable
    have hpkt : filledPkt fill win { s with
        fd := s.fd.drop (chunkSize * n)
        seqnum := s.seqnum + n
        packets := overwrite s.packets s.seqnum n (filledPkt fill win s)
        listPkt := overwrite s.listPkt a n fun i => s.seqnum + (i - a) } (s.seqnum + n) =
        filledPkt fill win s (s.seqnum + n) := by
      simp [filledPkt, List.drop_drop]
    simp only [hpkt, htable, update_overwrite, List.drop_drop, Nat.mul_succ, Nat.add_assoc]

/-- The table after a refill of `n` slots behind the shift, the counter at `c`. -/
def refilled (listPkt : Slots ℕ) (c n : ℕ) : Slots ℕ :=
  overwrite (shiftDown listPkt n (tableSize + 1 - 2 * n)) (tableSize - n) n
    fun i => c + (i - (tableSize - n))

theorem refilled_apply {listPkt : Slots ℕ} {c n i : ℕ} (hn : n ≤ tableSize) (hi : i < tableSize) :
    refilled listPkt c n i =
      if tableSize ≤ i + n then some (c + (i + n - tableSize))
      else if i + 2 * n ≤ tableSize then listPkt (i + n)
      else listPkt i := by
  unfold refilled
  by_cases hnew : tableSize ≤ i + n
  · rw [if_pos hnew, overwrite_of_mem _ _ (by omega) (by omega)]
    congr 1
    omega
  · rw [if_neg hnew, overwrite_of_lt _ _ _ (by omega), shiftDown_apply]
    split <;> split <;> first | rfl | omega

/-- **A refill of at most one slot** moves every packet down by the same distance and loses none. -/
theorem refilled_of_le_one {listPkt : Slots ℕ} {c n i : ℕ} (hn : n ≤ 1) (hi : i < tableSize) :
    refilled listPkt c n i =
      if i + n < tableSize then listPkt (i + n) else some (c + (i + n - tableSize)) := by
  unfold tableSize at hi
  rw [refilled_apply (by unfold tableSize; omega) hi]
  unfold tableSize
  split <;> split <;> first | rfl | omega | (split <;> first | rfl | omega)

/-- **`clear_and_fill_buffer`.** -/
theorem clearAndFillBuffer_eq (fill : FillInputs) (win : ℤ) {s : Sender} {n : ℕ}
    (hn : scanWhile Option.isNone s.listPkt tableSize 0 = some n) :
    clearAndFillBuffer crc32 fill win s = some { s with
      bufferUpdate := if s.listPkt 0 = none then true else s.bufferUpdate
      fd := s.fd.drop (chunkSize * n)
      seqnum := s.seqnum + n
      packets := overwrite s.packets s.seqnum n (filledPkt fill win s)
      listPkt := refilled s.listPkt s.seqnum n } := by
  unfold clearAndFillBuffer
  by_cases h0 : s.listPkt 0 = none
  · simp only [h0, if_true, hn, Option.bind_eq_bind, Option.bind_some, foldlM_insertPkt]
    rfl
  · simp only [h0, if_false, hn, Option.bind_eq_bind, Option.bind_some, foldlM_insertPkt]
    rfl

/-- The refill has an outcome when the scan stays inside the table, and no other. -/
theorem clearAndFillBuffer_cases {fill : FillInputs} {win : ℤ} {s s' : Sender}
    (h : clearAndFillBuffer crc32 fill win s = some s') :
    ∃ n, scanWhile Option.isNone s.listPkt tableSize 0 = some n ∧
      s' = { s with
        bufferUpdate := if s.listPkt 0 = none then true else s.bufferUpdate
        fd := s.fd.drop (chunkSize * n)
        seqnum := s.seqnum + n
        packets := overwrite s.packets s.seqnum n (filledPkt fill win s)
        listPkt := refilled s.listPkt s.seqnum n } := by
  cases hn : scanWhile Option.isNone s.listPkt tableSize 0 with
  | none =>
    unfold clearAndFillBuffer at h
    by_cases h0 : s.listPkt 0 = none <;> simp [h0, hn] at h
  | some n =>
    rw [clearAndFillBuffer_eq crc32 fill win hn] at h
    exact ⟨n, rfl, (Option.some.inj h).symm⟩

/-! ## Looking up a sequence number -/

/-- The slot holds a packet with this number. -/
def HoldsSeqnum (s : Sender) (seq i : ℕ) : Prop :=
  ∃ p pkt, s.listPkt i = some p ∧ s.packets p = some pkt ∧ pkt.seqnum.toNat = seq

/-- The slot is free or holds a packet with another number. -/
def LacksSeqnum (s : Sender) (seq i : ℕ) : Prop :=
  ∀ p, s.listPkt i = some p → ∃ pkt, s.packets p = some pkt ∧ pkt.seqnum.toNat ≠ seq

/-- One turn of the loop of `find_buffer`. -/
theorem findFrom_succ {s : Sender} {seq n i : ℕ} {found : Option ℕ}
    (h : findFrom s.listPkt s.packets seq (n + 1) i = some found) :
    HoldsSeqnum s seq i ∧ found = some i ∨
      LacksSeqnum s seq i ∧ findFrom s.listPkt s.packets seq n (i + 1) = some found := by
  rw [findFrom] at h
  cases hp : s.listPkt i with
  | none =>
    rw [hp] at h
    refine Or.inr ⟨fun p hp' => ?_, h⟩
    rw [hp] at hp'
    cases hp'
  | some p =>
    rw [hp] at h
    obtain ⟨pkt, hpkt, h⟩ := Option.bind_eq_some_iff.mp h
    split at h
    · exact Or.inl ⟨⟨p, pkt, hp, hpkt, by assumption⟩, (Option.some.inj h).symm⟩
    · refine Or.inr ⟨fun p' hp' => ?_, h⟩
      obtain rfl := Option.some.inj (hp.symm.trans hp')
      exact ⟨pkt, hpkt, by assumption⟩

theorem findFrom_of_holds {s : Sender} {seq n i : ℕ} (h : HoldsSeqnum s seq i) :
    findFrom s.listPkt s.packets seq (n + 1) i = some (some i) := by
  obtain ⟨p, pkt, hp, hpkt, hseq⟩ := h
  rw [findFrom, hp]
  simp [hpkt, hseq]

theorem findFrom_of_lacks {s : Sender} {seq n i : ℕ} (h : LacksSeqnum s seq i) :
    findFrom s.listPkt s.packets seq (n + 1) i = findFrom s.listPkt s.packets seq n (i + 1) := by
  rw [findFrom]
  cases hp : s.listPkt i with
  | none => rfl
  | some p =>
    obtain ⟨pkt, hpkt, hne⟩ := h p hp
    simp [hpkt, hne]

theorem findFrom_eq_some_iff {s : Sender} {seq n i k : ℕ} :
    findFrom s.listPkt s.packets seq n i = some (some k) ↔
      i ≤ k ∧ k < i + n ∧ HoldsSeqnum s seq k ∧ ∀ j, i ≤ j → j < k → LacksSeqnum s seq j := by
  induction n generalizing i with
  | zero =>
    simp only [findFrom, Option.some_inj, reduceCtorEq, false_iff]
    omega
  | succ n ih =>
    constructor
    · intro h
      rcases findFrom_succ h with ⟨hholds, hk⟩ | ⟨hlacks, hrest⟩
      · obtain rfl := Option.some.inj hk
        exact ⟨Nat.le_refl _, by omega, hholds, fun j hj hjk => absurd hjk (by omega)⟩
      · obtain ⟨h1, h2, h3, h4⟩ := ih.mp hrest
        refine ⟨by omega, by omega, h3, fun j hj hjk => ?_⟩
        rcases Nat.eq_or_lt_of_le hj with rfl | hlt
        · exact hlacks
        · exact h4 j hlt hjk
    · rintro ⟨h1, h2, h3, h4⟩
      rcases Nat.eq_or_lt_of_le h1 with rfl | hlt
      · exact findFrom_of_holds h3
      · rw [findFrom_of_lacks (h4 i (Nat.le_refl _) hlt)]
        exact ih.mpr ⟨hlt, by omega, h3, fun j hj hjk => h4 j (by omega) hjk⟩

theorem findFrom_eq_none_iff {s : Sender} {seq n i : ℕ} :
    findFrom s.listPkt s.packets seq n i = some none ↔
      ∀ j, i ≤ j → j < i + n → LacksSeqnum s seq j := by
  induction n generalizing i with
  | zero =>
    simp only [findFrom, true_iff]
    omega
  | succ n ih =>
    constructor
    · intro h j hj hjn
      rcases findFrom_succ h with ⟨-, hk⟩ | ⟨hlacks, hrest⟩
      · cases hk
      · rcases Nat.eq_or_lt_of_le hj with rfl | hlt
        · exact hlacks
        · exact ih.mp hrest j hlt (by omega)
    · intro h
      rw [findFrom_of_lacks (h i (Nat.le_refl _) (by omega))]
      exact ih.mpr fun j hj hjn => h j (by omega) (by omega)

/-- **`find_buffer`** returns the first slot with the number. -/
theorem findBuffer_eq_some_iff {s : Sender} {seq win k : ℕ} :
    findBuffer s seq win = some (some k) ↔
      k < win ∧ HoldsSeqnum s seq k ∧ ∀ j < k, LacksSeqnum s seq j := by
  rw [findBuffer, findFrom_eq_some_iff]
  simp

/-- `find_buffer` returns -1 when no slot has the number. -/
theorem findBuffer_eq_neg_one_iff {s : Sender} {seq win : ℕ} :
    findBuffer s seq win = some none ↔ ∀ j < win, LacksSeqnum s seq j := by
  rw [findBuffer, findFrom_eq_none_iff]
  simp

theorem HoldsSeqnum.not_lacks {s : Sender} {seq i : ℕ} (h : HoldsSeqnum s seq i) :
    ¬ LacksSeqnum s seq i := by
  obtain ⟨p, pkt, hp, hpkt, hseq⟩ := h
  intro hlacks
  obtain ⟨pkt', hpkt', hne⟩ := hlacks p hp
  obtain rfl := Option.some.inj (hpkt.symm.trans hpkt')
  exact hne hseq

/-- What a slot holds and lacks depends on its pointer, and on the packet that refers to. -/
theorem holdsSeqnum_lacksSeqnum_congr {s m : Sender} {i j : ℕ} (seq : ℕ)
    (hslot : m.listPkt i = s.listPkt j)
    (hpkt : ∀ p, s.listPkt j = some p → m.packets p = s.packets p) :
    (HoldsSeqnum m seq i ↔ HoldsSeqnum s seq j) ∧ (LacksSeqnum m seq i ↔ LacksSeqnum s seq j) := by
  unfold HoldsSeqnum LacksSeqnum
  rw [hslot]
  constructor
  · refine exists_congr fun p => exists_congr fun pkt => and_congr_right fun hp => ?_
    rw [hpkt p hp]
  · refine forall_congr' fun p => forall_congr' fun hp => ?_
    rw [hpkt p hp]

/-- **A lookup in a table that was shifted down** over free slots, as far as the slots in front of
what is found go. -/
theorem findBuffer_shifted_iff {s m : Sender} {seq n i : ℕ} (hi : i + n < tableSize)
    (hfront : ∀ j < n, s.listPkt j = none)
    (hslot : ∀ j ≤ i, m.listPkt j = s.listPkt (j + n))
    (hpkt : ∀ j ≤ i, ∀ p, s.listPkt (j + n) = some p → m.packets p = s.packets p) :
    findBuffer m seq tableSize = some (some i) ↔
      findBuffer s seq tableSize = some (some (i + n)) := by
  rw [findBuffer_eq_some_iff, findBuffer_eq_some_iff]
  have hsame := fun j hj => holdsSeqnum_lacksSeqnum_congr seq (hslot j hj) (hpkt j hj)
  constructor
  · rintro ⟨-, hholds, hlacks⟩
    refine ⟨hi, (hsame i (Nat.le_refl i)).1.mp hholds, fun j hj => ?_⟩
    rcases Nat.lt_or_ge j n with hlt | hle
    · intro p hp
      rw [hfront j hlt] at hp
      cases hp
    · have hmoved := (hsame (j - n) (by omega)).2.mp (hlacks (j - n) (by omega))
      rwa [Nat.sub_add_cancel hle] at hmoved
  · rintro ⟨-, hholds, hlacks⟩
    exact ⟨by omega, (hsame i (Nat.le_refl i)).1.mpr hholds,
      fun j hj => (hsame j hj.le).2.mpr (hlacks (j + n) (by omega))⟩

/-- Where a lookup in `win` slots finds something, no other lookup ends behind them. -/
theorem findBuffer_lt_of_found {s : Sender} {seq win win' k i : ℕ}
    (hk : findBuffer s seq win = some (some k)) (hi : findBuffer s seq win' = some (some i)) :
    i < win := by
  obtain ⟨hlt, hholds, -⟩ := findBuffer_eq_some_iff.mp hk
  obtain ⟨-, -, hfirst⟩ := findBuffer_eq_some_iff.mp hi
  by_contra hle
  exact hholds.not_lacks (hfirst k (by omega))

/-! ## Acknowledgements -/

/-- **What an ACK deletes**, with the lookup that decides about it: nothing, or the first slot with
the number before its own, which is in the window. -/
theorem deleteAcked_lookup {s s' : Sender} {seqnum : ℕ} (h : deleteAcked s seqnum = some s') :
    findBuffer s (ackedSeqnum seqnum) s.window = some none ∧ s' = s ∨
      ∃ k p, k < s.window ∧ findBuffer s (ackedSeqnum seqnum) tableSize = some (some k) ∧
        s.listPkt k = some p ∧
        s' = { s with
          packets := Function.update s.packets p none
          listPkt := Function.update s.listPkt k none } := by
  obtain ⟨found, hwin, h⟩ := Option.bind_eq_some_iff.mp h
  cases found with
  | none => exact Or.inl ⟨hwin, (Option.some.inj h).symm⟩
  | some j =>
    obtain ⟨found, hfound, h⟩ := Option.bind_eq_some_iff.mp h
    obtain ⟨k, hk, h⟩ := Option.bind_eq_some_iff.mp h
    rw [hk] at hfound
    obtain ⟨p, hp, h⟩ := Option.bind_eq_some_iff.mp h
    obtain ⟨pkt, -, h⟩ := Option.bind_eq_some_iff.mp h
    obtain ⟨-, -, h⟩ := Option.bind_eq_some_iff.mp h
    exact Or.inr ⟨k, p, findBuffer_lt_of_found hwin hfound, hfound, hp, (Option.some.inj h).symm⟩

/-- An ACK deletes nothing, or a packet of the window. -/
theorem deleteAcked_cases {s s' : Sender} {seqnum : ℕ} (h : deleteAcked s seqnum = some s') :
    s' = s ∨ ∃ k p, k < s.window ∧ k < tableSize ∧ s.listPkt k = some p ∧
      HoldsSeqnum s (ackedSeqnum seqnum) k ∧
      s' = { s with
        packets := Function.update s.packets p none
        listPkt := Function.update s.listPkt k none } := by
  rcases deleteAcked_lookup h with ⟨-, rfl⟩ | ⟨k, p, hk, hfound, hp, rfl⟩
  · exact Or.inl rfl
  · obtain ⟨hlt, hholds, -⟩ := findBuffer_eq_some_iff.mp hfound
    exact Or.inr ⟨k, p, hk, hlt, hp, hholds, rfl⟩

/-- The deletion of a packet that is found in the window. -/
theorem deleteAcked_of_found {s : Sender} {seqnum k p : ℕ} {pkt : Pkt}
    (hwin : s.window ≤ tableSize)
    (hfound : findBuffer s (ackedSeqnum seqnum) s.window = some (some k))
    (hp : s.listPkt k = some p) (hpkt : s.packets p = some pkt) (hdel : pktDel pkt = some ()) :
    deleteAcked s seqnum = some { s with
      packets := Function.update s.packets p none
      listPkt := Function.update s.listPkt k none } := by
  obtain ⟨hk, hrest⟩ := findBuffer_eq_some_iff.mp hfound
  have hfound' : findBuffer s (ackedSeqnum seqnum) tableSize = some (some k) :=
    findBuffer_eq_some_iff.mpr ⟨by omega, hrest⟩
  simp [deleteAcked, hfound, hfound', hp, hpkt, hdel]

/-- `base` after an ACK. -/
def ackedBase (s : Sender) (seqnum : ℕ) : ℕ :=
  if seqnum > s.lastAck.seqnum.toNat ∨ seqnum = 0 then seqnum else s.base

/-- The assignment to `base`. -/
theorem ackedBase_eq (s : Sender) (seqnum : ℕ) :
    (if seqnum > s.lastAck.seqnum.toNat ∨ seqnum = 0 then { s with base := seqnum } else s) =
      { s with base := ackedBase s seqnum } := by
  unfold ackedBase
  split <;> rfl

/-- The branch for an ACK, put together from its parts. -/
theorem handleAck_eq {fill : FillInputs} {s d m : Sender} {decode : Pkt}
    (hd : deleteAcked { s with base := ackedBase s decode.seqnum.toNat } decode.seqnum.toNat =
      some d)
    (hm : clearAndFillBuffer crc32 fill decode.window.val d = some m)
    (hlast : pktDel m.lastAck = some ()) :
    handleAck crc32 fill s decode = some { m with
      window := if decode.window.val > m.window then decode.window.val else m.window
      lastValid := decode.seqnum.toNat
      lastAck := decode } := by
  unfold handleAck
  simp only [ackedBase_eq, hd, hm, hlast, Option.bind_eq_bind, Option.bind_some]

/-- **The branch for an ACK**: the new `base`, the deletion, the refill, and the rest of the
bookkeeping. -/
theorem handleAck_cases {fill : FillInputs} {s s' : Sender} {decode : Pkt}
    (h : handleAck crc32 fill s decode = some s') :
    ∃ d m, deleteAcked { s with base := ackedBase s decode.seqnum.toNat } decode.seqnum.toNat =
        some d ∧
      clearAndFillBuffer crc32 fill decode.window.val d = some m ∧
      s' = { m with
        window := if decode.window.val > m.window then decode.window.val else m.window
        lastValid := decode.seqnum.toNat
        lastAck := decode } := by
  unfold handleAck at h
  simp only [ackedBase_eq] at h
  obtain ⟨d, hd, h⟩ := Option.bind_eq_some_iff.mp h
  obtain ⟨m, hm, h⟩ := Option.bind_eq_some_iff.mp h
  obtain ⟨-, -, h⟩ := Option.bind_eq_some_iff.mp h
  exact ⟨d, m, hd, hm, (Option.some.inj h).symm⟩

/-- What handling an ACK does to the variables outside the table. -/
theorem handleAck_frame {fill : FillInputs} {s s' : Sender} {decode : Pkt}
    (h : handleAck crc32 fill s decode = some s') :
    s'.written = s.written ∧ s'.nextseqnum = s.nextseqnum ∧ s'.status = s.status ∧
      s'.base = ackedBase s decode.seqnum.toNat ∧
      s'.window = (if decode.window.val > s.window then decode.window.val else s.window) := by
  obtain ⟨d, m, hd, hm, rfl⟩ := handleAck_cases crc32 h
  obtain ⟨n, -, rfl⟩ := clearAndFillBuffer_cases crc32 hm
  rcases deleteAcked_cases hd with rfl | ⟨k, p, -, -, -, -, rfl⟩
  · exact ⟨rfl, rfl, rfl, rfl, rfl⟩
  · exact ⟨rfl, rfl, rfl, rfl, rfl⟩

theorem lastAck_handleAck {fill : FillInputs} {s s' : Sender} {decode : Pkt}
    (h : handleAck crc32 fill s decode = some s') : s'.lastAck = decode := by
  obtain ⟨d, m, -, -, rfl⟩ := handleAck_cases crc32 h
  rfl

/-- Packets are only added. -/
theorem seqnum_le_handleAck {fill : FillInputs} {s s' : Sender} {decode : Pkt}
    (h : handleAck crc32 fill s decode = some s') : s.seqnum ≤ s'.seqnum := by
  obtain ⟨d, m, hd, hm, rfl⟩ := handleAck_cases crc32 h
  obtain ⟨n, -, rfl⟩ := clearAndFillBuffer_cases crc32 hm
  rcases deleteAcked_cases hd with rfl | ⟨k, p, -, -, -, -, rfl⟩
  · exact Nat.le_add_right ..
  · exact Nat.le_add_right ..

/-- What an iteration without an ACK leaves alone. -/
structure InputFrame (s s' : Sender) : Prop where
  listPkt : s'.listPkt = s.listPkt
  packets : s'.packets = s.packets
  fd : s'.fd = s.fd
  seqnum : s'.seqnum = s.seqnum
  window : s'.window = s.window
  base : s'.base = s.base
  nextseqnum : s'.nextseqnum = s.nextseqnum
  lastAck : s'.lastAck = s.lastAck
  bufferUpdate : s'.bufferUpdate = s.bufferUpdate
  written : s'.written = s.written

/-- The ACK an iteration reads, if it reads one. -/
def ackRead (s : Sender) (e : SenderPoll) : Option Pkt :=
  match e.readable with
  | .pollin (.bytes datagram) =>
    let decoded := decodeRead crc32 s.buffer (.bytes datagram) e.beyond e.freshDecode
    if decoded.1 = .pktOk ∧ decoded.2.type = .ack then some decoded.2 else none
  | _ => none

/-- The buffer after the input half. -/
def readBuffer (s : Sender) (e : SenderPoll) : Memory :=
  match e.readable with
  | .pollin result => readInto s.buffer result
  | _ => s.buffer

/-- **What is decoded** is passed over, is a NACK and sets the number that is pending, or is an
ACK. -/
theorem handleDecoded_cases {fill : FillInputs} {s m : Sender} {decoded : PktStatusCode × Pkt}
    (h : handleDecoded crc32 fill s decoded = some m) :
    (decoded.1 = .pktOk → decoded.2.type ≠ .nack ∧ decoded.2.type ≠ .ack) ∧ m = s ∨
      decoded.1 = .pktOk ∧ decoded.2.type = .nack ∧ handleNack s decoded.2 = some m ∨
      decoded.1 = .pktOk ∧ decoded.2.type = .ack ∧
        handleAck crc32 fill s decoded.2 = some m := by
  unfold handleDecoded at h
  split at h
  · next hbad =>
    obtain ⟨-, -, h⟩ := Option.bind_eq_some_iff.mp h
    exact Or.inl ⟨fun hok => absurd hok hbad, (Option.some.inj h).symm⟩
  · next hgood =>
    have hok : decoded.1 = .pktOk := not_not.mp hgood
    split at h
    · next hnack => exact Or.inr (Or.inl ⟨hok, hnack, h⟩)
    · next hno =>
      split at h
      · next hack => exact Or.inr (Or.inr ⟨hok, hack, h⟩)
      · next hother =>
        obtain ⟨-, -, h⟩ := Option.bind_eq_some_iff.mp h
        exact Or.inl ⟨fun _ => ⟨hno, hother⟩, (Option.some.inj h).symm⟩

/-- A NACK changes the number that is pending, and nothing else. -/
theorem handleNack_cases {s m : Sender} {nack : Pkt} (h : handleNack s nack = some m) :
    m = { s with nack :=
      if nack.seqnum.toNat < s.lastValid ∨ nack.seqnum.toNat > s.lastValid + s.window then 256
      else nack.seqnum.toNat } := by
  obtain ⟨-, -, h⟩ := Option.bind_eq_some_iff.mp h
  exact (Option.some.inj h).symm

/-- **The input half** handles the ACK that was read, or touches nothing of the table. -/
theorem senderReceive_cases {s m : Sender} {e : SenderPoll}
    (h : senderReceive crc32 s e = some m) :
    ackRead crc32 s e = none ∧ InputFrame s m ∨
      ∃ ack, ackRead crc32 s e = some ack ∧
        handleAck crc32 e.fill { s with buffer := readBuffer s e } ack = some m := by
  have hsame : InputFrame s s := ⟨rfl, rfl, rfl, rfl, rfl, rfl, rfl, rfl, rfl, rfl⟩
  unfold senderReceive at h
  unfold ackRead
  split at h
  · next he =>
    obtain rfl := Option.some.inj h
    exact Or.inl ⟨by rw [he], hsame⟩
  · next he =>
    obtain rfl := Option.some.inj h
    exact Or.inl ⟨by rw [he], ⟨rfl, rfl, rfl, rfl, rfl, rfl, rfl, rfl, rfl, rfl⟩⟩
  · next datagram he =>
    rw [he]
    simp only
    rcases handleDecoded_cases crc32 h with
      ⟨hpassed, rfl⟩ | ⟨-, hnack, hhandle⟩ | ⟨hok, hack, hhandle⟩
    · exact Or.inl ⟨if_neg fun hc => (hpassed hc.1).2 hc.2,
        ⟨rfl, rfl, rfl, rfl, rfl, rfl, rfl, rfl, rfl, rfl⟩⟩
    · obtain rfl := handleNack_cases hhandle
      refine Or.inl ⟨if_neg fun hc => ?_, ⟨rfl, rfl, rfl, rfl, rfl, rfl, rfl, rfl, rfl, rfl⟩⟩
      rw [hnack] at hc
      cases hc.2
    · refine Or.inr ⟨_, if_pos ⟨hok, hack⟩, ?_⟩
      rw [readBuffer, he]
      exact hhandle
  · next he =>
    obtain rfl := Option.some.inj h
    exact Or.inl ⟨by rw [he], ⟨rfl, rfl, rfl, rfl, rfl, rfl, rfl, rfl, rfl, rfl⟩⟩

/-- What is decoded changes the pending NACK to a sequence number or to 256, or not at all. -/
theorem handleDecoded_control {fill : FillInputs} {s m : Sender} {decoded : PktStatusCode × Pkt}
    (h : handleDecoded crc32 fill s decoded = some m) :
    (m.nack = s.nack ∨ m.nack ≤ 256) ∧ m.status = s.status := by
  rcases handleDecoded_cases crc32 h with ⟨-, rfl⟩ | ⟨-, -, hhandle⟩ | ⟨-, -, hhandle⟩
  · exact ⟨Or.inl rfl, rfl⟩
  · obtain rfl := handleNack_cases hhandle
    refine ⟨Or.inr ?_, rfl⟩
    have hlt := decoded.2.seqnum.toNat_lt
    simp only
    split <;> omega
  · obtain ⟨d, q, hd, hq, rfl⟩ := handleAck_cases crc32 hhandle
    obtain ⟨n, -, rfl⟩ := clearAndFillBuffer_cases crc32 hq
    rcases deleteAcked_cases hd with rfl | ⟨k, p, -, -, -, -, rfl⟩
    · exact ⟨Or.inl rfl, rfl⟩
    · exact ⟨Or.inl rfl, rfl⟩

/-- **What the input half does to the pending NACK and to the status.** -/
theorem senderReceive_control {s m : Sender} {e : SenderPoll}
    (h : senderReceive crc32 s e = some m) :
    (m.nack = s.nack ∨ m.nack ≤ 256) ∧
      (m.status = s.status ∨ m.status = .readFailed ∨ m.status = .hangup) := by
  unfold senderReceive at h
  split at h
  · obtain rfl := Option.some.inj h
    exact ⟨Or.inl rfl, Or.inl rfl⟩
  · obtain rfl := Option.some.inj h
    exact ⟨Or.inl rfl, Or.inr (Or.inl rfl)⟩
  · obtain ⟨hnack, hstatus⟩ := handleDecoded_control crc32 h
    exact ⟨hnack, Or.inl hstatus⟩
  · obtain rfl := Option.some.inj h
    exact ⟨Or.inl rfl, Or.inr (Or.inr rfl)⟩

/-- No lookup fails in the input half. -/
theorem status_senderReceive_ne {s m : Sender} {e : SenderPoll}
    (h : senderReceive crc32 s e = some m) (hs : s.status ≠ .absentLookup) :
    m.status ≠ .absentLookup := by
  rcases (senderReceive_control crc32 h).2 with hsame | hfailed | hhangup
  · rwa [hsame]
  · simp [hfailed]
  · simp [hhangup]

theorem seqnum_le_senderReceive {s m : Sender} {e : SenderPoll}
    (h : senderReceive crc32 s e = some m) : s.seqnum ≤ m.seqnum := by
  rcases senderReceive_cases crc32 h with ⟨-, hf⟩ | ⟨ack, -, hack⟩
  · rw [hf.seqnum]
  · have hle := seqnum_le_handleAck crc32 hack
    exact hle

/-- What was read leaves a packet as it was, or frees it. -/
theorem packets_senderReceive {s m : Sender} {e : SenderPoll}
    (h : senderReceive crc32 s e = some m) {p : ℕ} {pkt : Pkt} (hp : p < s.seqnum)
    (hpkt : m.packets p = some pkt) : s.packets p = some pkt := by
  rcases senderReceive_cases crc32 h with ⟨-, hf⟩ | ⟨ack, -, hack⟩
  · rwa [hf.packets] at hpkt
  · obtain ⟨d, q, hd, hq, rfl⟩ := handleAck_cases crc32 hack
    obtain ⟨n, -, rfl⟩ := clearAndFillBuffer_cases crc32 hq
    have hold : d.packets p = some pkt := by
      have hd : p < d.seqnum := by
        rcases deleteAcked_cases hd with rfl | ⟨k, r, -, -, -, -, rfl⟩ <;> exact hp
      have hfilled : overwrite d.packets d.seqnum n _ p = some pkt := hpkt
      rwa [overwrite_of_lt _ _ _ hd] at hfilled
    rcases deleteAcked_cases hd with rfl | ⟨k, r, -, -, -, -, rfl⟩
    · exact hold
    · exact eq_some_of_update_none hold

/-- The input half writes nothing. -/
theorem written_senderReceive {s m : Sender} {e : SenderPoll}
    (h : senderReceive crc32 s e = some m) : m.written = s.written := by
  rcases senderReceive_cases crc32 h with ⟨-, hf⟩ | ⟨ack, -, hack⟩
  · exact hf.written
  · obtain ⟨hwritten, -⟩ := handleAck_frame crc32 hack
    exact hwritten

/-- Reading an ACK is handling it. -/
theorem senderReceive_of_ackRead {s : Sender} {e : SenderPoll} {ack : Pkt}
    (h : ackRead crc32 s e = some ack) :
    senderReceive crc32 s e = handleAck crc32 e.fill { s with buffer := readBuffer s e } ack := by
  unfold ackRead at h
  unfold senderReceive readBuffer
  split at h
  · next datagram he =>
    simp only at h
    split at h
    · next hok =>
      obtain rfl := Option.some.inj h
      rw [he]
      simp only [handleDecoded]
      rw [if_neg (not_not.mpr hok.1), if_neg (by rw [hok.2]; simp), if_pos hok.2]
    · cases h
  · cases h

/-! ## Sending -/

/-- What the output half leaves alone: the table, and all that depends on ACKs. -/
structure OutputFrame (s s' : Sender) : Prop where
  listPkt : s'.listPkt = s.listPkt
  fd : s'.fd = s.fd
  seqnum : s'.seqnum = s.seqnum
  window : s'.window = s.window
  base : s'.base = s.base
  lastAck : s'.lastAck = s.lastAck

theorem OutputFrame.refl (s : Sender) : OutputFrame s s := ⟨rfl, rfl, rfl, rfl, rfl, rfl⟩

theorem OutputFrame.trans {s m s' : Sender} (h : OutputFrame s m) (h' : OutputFrame m s') :
    OutputFrame s s' :=
  ⟨h'.listPkt.trans h.listPkt, h'.fd.trans h.fd, h'.seqnum.trans h.seqnum,
    h'.window.trans h.window, h'.base.trans h.base, h'.lastAck.trans h.lastAck⟩

/-- The state after the packet `pkt` at position `p` was handed to `write`. -/
def transmitted (s : Sender) (cause : SendCause) (p : ℕ) (pkt : Pkt) (payload : List UInt8) :
    Sender :=
  { s with
    buffer := memcpy s.buffer 0 (encoding crc32 pkt payload)
    written := s.written ++ [⟨cause, p, s.base, s.window, encoding crc32 pkt payload⟩] }

/-- What can be encoded has a payload that can be read. -/
theorem content_of_pktEncode {pkt : Pkt} {buf : Memory} {len : ℕ} {encoded : Encoded}
    (h : pktEncode crc32 pkt buf len = some encoded) : ∃ payload, pkt.content = some payload := by
  by_cases hz : pkt.length > 0
  · unfold pktEncode at h
    simp only [hz, if_true] at h
    obtain ⟨payload, hpayload, -⟩ := Option.bind_eq_some_iff.mp h
    exact ⟨payload, hpayload⟩
  · refine ⟨[], ?_⟩
    have h0 : pkt.length.toNat = 0 := by
      rw [gt_iff_lt, UInt16.lt_iff_toNat_lt] at hz
      exact Nat.eq_zero_of_not_pos hz
    simp [Pkt.content, Payload.read, h0]

theorem transmit_eq {s : Sender} {cause : SendCause} {i p : ℕ} {pkt : Pkt} {payload : List UInt8}
    (hp : s.listPkt i = some p) (hpkt : s.packets p = some pkt)
    (hcontent : pkt.content = some payload) :
    transmit crc32 s cause i = some (transmitted crc32 s cause p pkt payload) := by
  unfold transmit
  simp [hp, hpkt, pktEncode_eq crc32 hcontent, transmitted, bytesAt_memcpy]

theorem transmit_cases {s s' : Sender} {cause : SendCause} {i : ℕ}
    (h : transmit crc32 s cause i = some s') :
    ∃ p pkt payload, s.listPkt i = some p ∧ s.packets p = some pkt ∧
      pkt.content = some payload ∧ s' = transmitted crc32 s cause p pkt payload := by
  obtain ⟨p, hp, h'⟩ := Option.bind_eq_some_iff.mp h
  obtain ⟨pkt, hpkt, h'⟩ := Option.bind_eq_some_iff.mp h'
  obtain ⟨encoded, henc, -⟩ := Option.bind_eq_some_iff.mp h'
  obtain ⟨payload, hcontent⟩ := content_of_pktEncode crc32 henc
  rw [transmit_eq crc32 hp hpkt hcontent] at h
  exact ⟨p, pkt, payload, hp, hpkt, hcontent, (Option.some.inj h).symm⟩

/-- The state after the packet at position `p` got a new timestamp. -/
def restamped (s : Sender) (p : ℕ) (pkt : Pkt) (clock : UInt32) : Sender :=
  { s with packets := Function.update s.packets p (some { pkt with timestamp := clock }) }

theorem setTimestampAt_eq {s : Sender} {i p : ℕ} {pkt : Pkt} (hp : s.listPkt i = some p)
    (hpkt : s.packets p = some pkt) (clock : UInt32) :
    setTimestampAt s i clock = some (restamped s p pkt clock) := by
  simp [setTimestampAt, hp, hpkt, pktSetTimestamp, restamped]

theorem setTimestampAt_cases {s s' : Sender} {i : ℕ} {clock : UInt32}
    (h : setTimestampAt s i clock = some s') :
    ∃ p pkt, s.listPkt i = some p ∧ s.packets p = some pkt ∧ s' = restamped s p pkt clock := by
  obtain ⟨p, hp, h'⟩ := Option.bind_eq_some_iff.mp h
  obtain ⟨pkt, hpkt, -⟩ := Option.bind_eq_some_iff.mp h'
  rw [setTimestampAt_eq hp hpkt] at h
  exact ⟨p, pkt, hp, hpkt, (Option.some.inj h).symm⟩

/-- The state after the loop over `nextseqnum` sent the packet `pkt` at position `p`. -/
def sentNext (e : SenderPoll) (s : Sender) (p : ℕ) (pkt : Pkt) (payload : List UInt8) : Sender :=
  { restamped (transmitted crc32 s .sendLoop p pkt payload) p pkt (e.clockSend s.nextseqnum) with
    bufferUpdate := false
    nextseqnum := s.nextseqnum + 1 }

theorem sendNext_eq {e : SenderPoll} {s : Sender} {i p : ℕ} {pkt : Pkt} {payload : List UInt8}
    (hfound : findBuffer s (s.nextseqnum % 256) tableSize = some (some i))
    (hp : s.listPkt i = some p) (hpkt : s.packets p = some pkt)
    (hcontent : pkt.content = some payload) :
    sendNext crc32 e s = some (sentNext crc32 e s p pkt payload) := by
  have hset := setTimestampAt_eq (s := transmitted crc32 s .sendLoop p pkt payload) hp hpkt
    (e.clockSend s.nextseqnum)
  unfold sendNext
  simp only [hfound, Option.bind_eq_bind, Option.bind_some, transmit_eq crc32 hp hpkt hcontent]
  simp only [transmitted] at hset ⊢
  simp only [hset, Option.bind_some]
  rfl

/-- The body of the loop over `nextseqnum` finds the packet and sends it, or stops. -/
theorem sendNext_cases {e : SenderPoll} {s s' : Sender} (h : sendNext crc32 e s = some s') :
    (∀ j < tableSize, LacksSeqnum s (s.nextseqnum % 256) j) ∧
        s' = { s with status := .absentLookup } ∨
      ∃ i p pkt payload, i < tableSize ∧ s.listPkt i = some p ∧ s.packets p = some pkt ∧
        pkt.seqnum.toNat = s.nextseqnum % 256 ∧ pkt.content = some payload ∧
        s' = sentNext crc32 e s p pkt payload := by
  obtain ⟨found, hfound, h'⟩ := Option.bind_eq_some_iff.mp h
  cases found with
  | none => exact Or.inl ⟨findBuffer_eq_neg_one_iff.mp hfound, (Option.some.inj h').symm⟩
  | some i =>
    obtain ⟨hi, ⟨p, pkt, hp, hpkt, hseq⟩, -⟩ := findBuffer_eq_some_iff.mp hfound
    obtain ⟨m, hm, -⟩ := Option.bind_eq_some_iff.mp h'
    obtain ⟨p', pkt', payload, hp', hpkt', hcontent, -⟩ := transmit_cases crc32 hm
    obtain rfl := Option.some.inj (hp.symm.trans hp')
    obtain rfl := Option.some.inj (hpkt.symm.trans hpkt')
    rw [sendNext_eq crc32 hfound hp hpkt hcontent] at h
    exact Or.inr ⟨i, p, pkt, payload, hi, hp, hpkt, hseq, hcontent, (Option.some.inj h).symm⟩

/-- **The rule for the loop over `nextseqnum`**: what its body keeps, the loop keeps. -/
theorem sendLoop_rule {P : Sender → Prop} {e : SenderPoll}
    (hnext : ∀ s s', P s → MaySend s → sendNext crc32 e s = some s' → P s') {fuel : ℕ}
    {s s' : Sender} (hs : P s) (h : sendLoop crc32 e fuel s = some s') : P s' := by
  induction fuel generalizing s with
  | zero =>
    obtain rfl := Option.some.inj h
    exact hs
  | succ fuel ih =>
    rw [sendLoop] at h
    split at h
    · obtain ⟨m, hm, h⟩ := Option.bind_eq_some_iff.mp h
      have hPm := hnext s m hs (by assumption) hm
      split at h
      · obtain rfl := Option.some.inj h
        exact hPm
      · exact ih hPm h
    · obtain rfl := Option.some.inj h
      exact hs

/-- The whole pass over the window: the loop, and the reduction of `nextseqnum` behind it. -/
theorem sendWindow_cases {e : SenderPoll} {s s' : Sender} (h : sendWindow crc32 s e = some s') :
    s.bufferUpdate = false ∧ s' = s ∨
      s.bufferUpdate = true ∧
        ∃ m, sendLoop crc32 e (s.base + s.window - s.nextseqnum) s = some m ∧
          (m.status = .absentLookup ∧ s' = m ∨
            m.status ≠ .absentLookup ∧ s' = { m with nextseqnum := m.nextseqnum % 256 }) := by
  unfold sendWindow at h
  split at h
  · next hupd =>
    obtain ⟨m, hm, h⟩ := Option.bind_eq_some_iff.mp h
    refine Or.inr ⟨hupd, m, hm, ?_⟩
    split at h
    · exact Or.inl ⟨by assumption, (Option.some.inj h).symm⟩
    · exact Or.inr ⟨by assumption, (Option.some.inj h).symm⟩
  · next hupd =>
    exact Or.inl ⟨Bool.not_eq_true _ ▸ hupd, (Option.some.inj h).symm⟩

/-- **The answer to a NACK**, with the lookup that decides how it ends. -/
theorem retransmitNack_lookup {s s' : Sender} (h : retransmitNack crc32 s = some s') :
    (s.nack = -1 ∨ s.nack = 256) ∧ s' = s ∨
      (s.nack ≠ -1 ∧ s.nack ≠ 256) ∧
        (findBuffer s s.nack.toNat tableSize = some none ∧
            s' = { s with status := .absentLookup } ∨
          ∃ i p pkt payload, findBuffer s s.nack.toNat tableSize = some (some i) ∧
            s.listPkt i = some p ∧ s.packets p = some pkt ∧ pkt.content = some payload ∧
            s' = { transmitted crc32 s .nack p pkt payload with nack := -1 }) := by
  unfold retransmitNack at h
  split at h
  · next hpending =>
    obtain ⟨found, hfound, h⟩ := Option.bind_eq_some_iff.mp h
    refine Or.inr ⟨hpending, ?_⟩
    cases found with
    | none => exact Or.inl ⟨hfound, (Option.some.inj h).symm⟩
    | some i =>
      obtain ⟨m, hm, h⟩ := Option.bind_eq_some_iff.mp h
      obtain ⟨p, pkt, payload, hp, hpkt, hcontent, rfl⟩ := transmit_cases crc32 hm
      exact Or.inr ⟨i, p, pkt, payload, hfound, hp, hpkt, hcontent, (Option.some.inj h).symm⟩
  · next hidle =>
    exact Or.inl ⟨by omega, (Option.some.inj h).symm⟩

/-- Answering a NACK sends one packet of the table, or stops, or does nothing. -/
theorem retransmitNack_cases {s s' : Sender} (h : retransmitNack crc32 s = some s') :
    s' = s ∨ s' = { s with status := .absentLookup } ∨
      ∃ i p pkt payload, s.listPkt i = some p ∧ s.packets p = some pkt ∧
        pkt.content = some payload ∧
        s' = { transmitted crc32 s .nack p pkt payload with nack := -1 } := by
  rcases retransmitNack_lookup crc32 h with
    ⟨-, rfl⟩ | ⟨-, ⟨-, rfl⟩ | ⟨i, p, pkt, payload, -, hp, hpkt, hcontent, rfl⟩⟩
  · exact Or.inl rfl
  · exact Or.inr (Or.inl rfl)
  · exact Or.inr (Or.inr ⟨i, p, pkt, payload, hp, hpkt, hcontent, rfl⟩)

/-- The timeout, for the packet found in slot 0. -/
theorem resendTimeout_eq {e : SenderPoll} {s : Sender} {p : ℕ} (hp : s.listPkt 0 = some p) :
    resendTimeout crc32 s e = (s.packets p).bind fun pkt =>
      if (pkt.timestamp + 500000).toNat < e.clockTimer then
        (setTimestampAt s 0 e.clockResend).bind fun s => transmit crc32 s .timeout 0
      else some s := by
  unfold resendTimeout
  split
  · next hnone =>
    rw [hp] at hnone
    cases hnone
  · next p' hp' =>
    obtain rfl := Option.some.inj (hp.symm.trans hp')
    exact Eq.refl _

/-- The timeout sends the packet in slot 0 again, with a new timestamp, or does nothing. -/
theorem resendTimeout_cases {e : SenderPoll} {s s' : Sender}
    (h : resendTimeout crc32 s e = some s') :
    s' = s ∨ ∃ p pkt payload, s.listPkt 0 = some p ∧ s.packets p = some pkt ∧
      (pkt.timestamp + 500000).toNat < e.clockTimer ∧ pkt.content = some payload ∧
      s' = transmitted crc32 (restamped s p pkt e.clockResend) .timeout p
        { pkt with timestamp := e.clockResend } payload := by
  unfold resendTimeout at h
  split at h
  · exact Or.inl (Option.some.inj h).symm
  · next p hp =>
    obtain ⟨pkt, hpkt, h⟩ := Option.bind_eq_some_iff.mp h
    split at h
    · next hlate =>
      obtain ⟨m, hm, h⟩ := Option.bind_eq_some_iff.mp h
      obtain ⟨p₁, pkt₁, hp₁, hpkt₁, rfl⟩ := setTimestampAt_cases hm
      obtain rfl := Option.some.inj (hp.symm.trans hp₁)
      obtain rfl := Option.some.inj (hpkt.symm.trans hpkt₁)
      obtain ⟨p₂, pkt₂, payload, hp₂, hpkt₂, hcontent, rfl⟩ := transmit_cases crc32 h
      obtain rfl := Option.some.inj (hp.symm.trans hp₂)
      have hpkt' : pkt₂ = { pkt with timestamp := e.clockResend } := by
        simpa [restamped] using hpkt₂.symm
      subst hpkt'
      exact Or.inr ⟨p, pkt, payload, hp, hpkt, hlate, hcontent, rfl⟩
    · exact Or.inl (Option.some.inj h).symm

/-- The timeout has an outcome when the packet in slot 0 can be sent. -/
theorem exists_resendTimeout {e : SenderPoll} {s : Sender} {p : ℕ} {pkt : Pkt}
    {payload : List UInt8} (hp : s.listPkt 0 = some p) (hpkt : s.packets p = some pkt)
    (hcontent : pkt.content = some payload) : ∃ s', resendTimeout crc32 s e = some s' := by
  have hsent : transmit crc32 (restamped s p pkt e.clockResend) .timeout 0 = some _ :=
    transmit_eq crc32 hp (Function.update_self ..) hcontent
  unfold resendTimeout
  split
  · exact ⟨s, rfl⟩
  · next p' hp' =>
    obtain rfl := Option.some.inj (hp.symm.trans hp')
    by_cases hlate : (pkt.timestamp + 500000).toNat < e.clockTimer
    · refine ⟨transmitted crc32 (restamped s p pkt e.clockResend) .timeout p
        { pkt with timestamp := e.clockResend } payload,
        Option.bind_eq_some_iff.mpr ⟨pkt, hpkt, ?_⟩⟩
      rw [if_pos hlate]
      exact Option.bind_eq_some_iff.mpr ⟨_, setTimestampAt_eq hp hpkt e.clockResend, hsent⟩
    · refine ⟨s, Option.bind_eq_some_iff.mpr ⟨pkt, hpkt, ?_⟩⟩
      rw [if_neg hlate]

/-- **The output half**, stopping where a lookup failed. -/
theorem senderReply_cases {e : SenderPoll} {s s' : Sender}
    (h : senderReply crc32 s e = some s') :
    e.writable ≠ .pollout ∧ s' = s ∨
      e.writable = .pollout ∧ ∃ a, retransmitNack crc32 s = some a ∧
        (a.status = .absentLookup ∧ s' = a ∨
          a.status ≠ .absentLookup ∧ ∃ b, sendWindow crc32 a e = some b ∧
            (b.status = .absentLookup ∧ s' = b ∨
              b.status ≠ .absentLookup ∧ resendTimeout crc32 b e = some s')) := by
  unfold senderReply at h
  split at h
  · next hout =>
    obtain ⟨a, ha, h⟩ := Option.bind_eq_some_iff.mp h
    refine Or.inr ⟨hout, a, ha, ?_⟩
    split at h
    · exact Or.inl ⟨by assumption, (Option.some.inj h).symm⟩
    · obtain ⟨b, hb, h⟩ := Option.bind_eq_some_iff.mp h
      refine Or.inr ⟨by assumption, b, hb, ?_⟩
      split at h
      · exact Or.inl ⟨by assumption, (Option.some.inj h).symm⟩
      · exact Or.inr ⟨by assumption, h⟩
  · next hidle =>
    exact Or.inl ⟨hidle, (Option.some.inj h).symm⟩

/-- **The rule for the output half**: what a NACK's answer, a pass over the window and the timeout
keep, the output half keeps. -/
theorem senderReply_rule {P : Sender → Prop} {e : SenderPoll}
    (hnack : ∀ s s', P s → retransmitNack crc32 s = some s' → P s')
    (hsend : ∀ s s', P s → sendWindow crc32 s e = some s' → P s')
    (htime : ∀ s s', P s → resendTimeout crc32 s e = some s' → P s') {s s' : Sender} (hs : P s)
    (h : senderReply crc32 s e = some s') : P s' := by
  rcases senderReply_cases crc32 h with
    ⟨-, rfl⟩ | ⟨-, a, ha, ⟨-, rfl⟩ | ⟨-, b, hb, ⟨-, rfl⟩ | ⟨-, hs'⟩⟩⟩
  · exact hs
  · exact hnack s _ hs ha
  · exact hsend a _ (hnack s a hs ha) hb
  · exact htime b s' (hsend a b (hnack s a hs ha) hb) hs'

/-- **An iteration**: an input half, and an output half unless `read` failed. -/
theorem readWriteLoopSender_cases {e : SenderPoll} {s s' : Sender}
    (h : readWriteLoopSender crc32 s e = some s') :
    s.status ≠ .running ∧ s' = s ∨
      s.status = .running ∧
        ∃ m, senderReceive crc32 s e = some m ∧
          (m.status = .readFailed ∧ s' = m ∨
            m.status ≠ .readFailed ∧ senderReply crc32 m e = some s') := by
  unfold readWriteLoopSender at h
  split at h
  · obtain ⟨m, hm, h⟩ := Option.bind_eq_some_iff.mp h
    refine Or.inr ⟨by assumption, m, hm, ?_⟩
    split at h
    · exact Or.inl ⟨by assumption, (Option.some.inj h).symm⟩
    · exact Or.inr ⟨by assumption, h⟩
  · exact Or.inl ⟨by assumption, (Option.some.inj h).symm⟩

/-- **The rule for an iteration**: what both halves keep, the iteration keeps. -/
theorem readWriteLoopSender_rule {P : Sender → Prop} {e : SenderPoll}
    (hreceive : ∀ s m, P s → senderReceive crc32 s e = some m → P m)
    (hreply : ∀ m s', P m → senderReply crc32 m e = some s' → P s') {s s' : Sender} (hs : P s)
    (h : readWriteLoopSender crc32 s e = some s') : P s' := by
  rcases readWriteLoopSender_cases crc32 h with ⟨-, rfl⟩ | ⟨-, m, hm, ⟨-, rfl⟩ | ⟨-, hrep⟩⟩
  · exact hs
  · exact hreceive s _ hs hm
  · exact hreply m s' (hreceive s m hs hm) hrep

theorem outputFrame_of_sendWindow {e : SenderPoll} {s s' : Sender}
    (h : sendWindow crc32 s e = some s') : OutputFrame s s' := by
  rcases sendWindow_cases crc32 h with ⟨-, rfl⟩ | ⟨-, m, hm, hm'⟩
  · exact OutputFrame.refl _
  · have hframe : OutputFrame s m := by
      refine sendLoop_rule crc32 (P := OutputFrame s) ?_ (OutputFrame.refl s) hm
      intro a b hab _ hb
      rcases sendNext_cases crc32 hb with ⟨-, rfl⟩ | ⟨i, p, pkt, payload, -, -, -, -, -, rfl⟩
      · exact ⟨hab.listPkt, hab.fd, hab.seqnum, hab.window, hab.base, hab.lastAck⟩
      · exact ⟨hab.listPkt, hab.fd, hab.seqnum, hab.window, hab.base, hab.lastAck⟩
    rcases hm' with ⟨-, rfl⟩ | ⟨-, rfl⟩
    · exact hframe
    · exact ⟨hframe.listPkt, hframe.fd, hframe.seqnum, hframe.window, hframe.base, hframe.lastAck⟩

/-- **The output half leaves the table alone.** -/
theorem outputFrame_of_senderReply {e : SenderPoll} {s s' : Sender}
    (h : senderReply crc32 s e = some s') : OutputFrame s s' := by
  refine senderReply_rule crc32 (P := OutputFrame s) ?_ ?_ ?_ (OutputFrame.refl s) h
  · intro a b hab hb
    rcases retransmitNack_cases crc32 hb with rfl | rfl | ⟨i, p, pkt, payload, -, -, -, rfl⟩
    · exact hab
    · exact ⟨hab.listPkt, hab.fd, hab.seqnum, hab.window, hab.base, hab.lastAck⟩
    · exact ⟨hab.listPkt, hab.fd, hab.seqnum, hab.window, hab.base, hab.lastAck⟩
  · intro a b hab hb
    exact hab.trans (outputFrame_of_sendWindow crc32 hb)
  · intro a b hab hb
    rcases resendTimeout_cases crc32 hb with rfl | ⟨p, pkt, payload, -, -, -, -, rfl⟩
    · exact hab
    · exact ⟨hab.listPkt, hab.fd, hab.seqnum, hab.window, hab.base, hab.lastAck⟩

/-! ## What an iteration does with an ACK -/

/-- The ACK that an iteration processes, if it processes one. -/
def ackProcessed (s : Sender) (e : SenderPoll) : Option Pkt :=
  if s.status = .running then ackRead crc32 s e else none

/-- The variables that only an ACK changes are as they were. -/
structure KeepsAcked (s s' : Sender) : Prop where
  base : s'.base = s.base
  window : s'.window = s.window
  lastAck : s'.lastAck = s.lastAck

/-- They are what the ACK makes of them. -/
structure TakesAck (s s' : Sender) (ack : Pkt) : Prop where
  base : s'.base = ackedBase s ack.seqnum.toNat
  window : s'.window = if ack.window.val > s.window then ack.window.val else s.window
  lastAck : s'.lastAck = ack

theorem senderReceive_acked {s m : Sender} {e : SenderPoll}
    (h : senderReceive crc32 s e = some m) :
    ackRead crc32 s e = none ∧ KeepsAcked s m ∨
      ∃ ack, ackRead crc32 s e = some ack ∧ TakesAck s m ack := by
  rcases senderReceive_cases crc32 h with ⟨hno, hf⟩ | ⟨ack, hack, hhandle⟩
  · exact Or.inl ⟨hno, hf.base, hf.window, hf.lastAck⟩
  · obtain ⟨-, -, -, hbase, hwindow⟩ := handleAck_frame crc32 hhandle
    exact Or.inr ⟨ack, hack, hbase, hwindow, lastAck_handleAck crc32 hhandle⟩

/-- **`base`, `window` and `lastAck` over one iteration.** -/
theorem readWriteLoopSender_acked {s s' : Sender} {e : SenderPoll}
    (h : readWriteLoopSender crc32 s e = some s') :
    ackProcessed crc32 s e = none ∧ KeepsAcked s s' ∨
      ∃ ack, ackProcessed crc32 s e = some ack ∧ TakesAck s s' ack := by
  unfold ackProcessed
  rcases readWriteLoopSender_cases crc32 h with ⟨hstop, rfl⟩ | ⟨hrunning, m, hm, hm'⟩
  · exact Or.inl ⟨if_neg hstop, rfl, rfl, rfl⟩
  · obtain ⟨hbase, hwindow, hlast⟩ : s'.base = m.base ∧ s'.window = m.window ∧
        s'.lastAck = m.lastAck := by
      rcases hm' with ⟨-, rfl⟩ | ⟨-, hreply⟩
      · exact ⟨rfl, rfl, rfl⟩
      · have hframe := outputFrame_of_senderReply crc32 hreply
        exact ⟨hframe.base, hframe.window, hframe.lastAck⟩
    rw [if_pos hrunning]
    rcases senderReceive_acked crc32 hm with ⟨hno, hkeeps⟩ | ⟨ack, hack, htakes⟩
    · exact Or.inl ⟨hno, hbase.trans hkeeps.base, hwindow.trans hkeeps.window,
        hlast.trans hkeeps.lastAck⟩
    · exact Or.inr ⟨ack, hack, hbase.trans htakes.base, hwindow.trans htakes.window,
        hlast.trans htakes.lastAck⟩

end TrtpNetwork
