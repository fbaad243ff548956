import Mathlib.Data.Finset.Range
import TrtpNetwork.Library.SerialNumbers
import TrtpNetwork.Sender.AckedTable

/-!
# The packets NACKs ask for

A NACK is a request: the packet it names is to be sent once more when the socket is writable, and
requests for other packets that come in between change nothing about that.  What is owed is thus a
set of packets, and `nackStep` is an iteration of the sender with this set beside the state.  Which
packet a number names does not depend on the sender's code: it was sent, is still in the table, and
is at most `window` positions after `last_valid` in serial order (`Names`).

The sender has one variable for all of it, `nack`.  A second NACK overwrites it, with 256 if it is
out of range; the range is tested without wrapping, and whether the packet was sent is not tested.
`servesRequests_of_run` is the result for the runs in which one variable is enough
(`OneRequest`), with the converse for each iteration that writes, and `not_servesRequests` the loss
of a request between two polls of the socket.
-/

namespace TrtpNetwork

variable (crc32 : List UInt8 → UInt32)

/-! ## What is asked for -/

/-- The NACK an iteration reads, if it reads one. -/
def nackRead (s : Sender) (e : SenderPoll) : Option Pkt :=
  match e.readable with
  | .pollin (.bytes datagram) =>
    let decoded := decodeRead crc32 s.buffer (.bytes datagram) e.beyond e.freshDecode
    if decoded.1 = .pktOk ∧ decoded.2.type = .nack then some decoded.2 else none
  | _ => none

/-- The number is at most `window` positions after `last_valid`, modulo 256. -/
def Near (s : Sender) (num : ℕ) : Prop := ∃ k ≤ s.window, (s.lastValid + k) % 256 = num

/-- The number names the packet at position `p`: it was sent, it is still in the table, and it is
near `last_valid`. -/
def Names (s : Sender) (num p : ℕ) : Prop :=
  (∃ w ∈ s.written, w.position = p) ∧ (∃ i < tableSize, s.listPkt i = some p) ∧
    (∃ pkt ∈ s.packets p, pkt.seqnum.toNat = num) ∧ Near s num

instance (s : Sender) (num p : ℕ) : Decidable (Names s num p) := by
  unfold Names Near
  infer_instance

/-- The packets a number names. -/
def named (s : Sender) (num : ℕ) : Finset ℕ := (Finset.range s.seqnum).filter (Names s num)

/-- The packets the iteration is asked for. -/
def requested (s : Sender) (e : SenderPoll) : Finset ℕ :=
  if s.status = .running then
    (nackRead crc32 s e).elim ∅ fun nack => named s nack.seqnum.toNat
  else ∅

/-- The iteration gets as far as writing. -/
def WritesNow (s : Sender) (e : SenderPoll) : Prop :=
  s.status = .running ∧ e.writable = .pollout ∧ e.readable ≠ .pollin .error

instance (s : Sender) (e : SenderPoll) : Decidable (WritesNow s e) := by
  unfold WritesNow
  infer_instance

/-- The packets asked for and not sent again yet, with the request the iteration reads. -/
def owedAt (t : Sender × Finset ℕ) (e : SenderPoll) : Finset ℕ := t.2 ∪ requested crc32 t.1 e

/-- The packets the iteration is to send again on account of NACKs. -/
def due (t : Sender × Finset ℕ) (e : SenderPoll) : Finset ℕ :=
  if WritesNow t.1 e then owedAt crc32 t e else ∅

/-- One iteration of the sender, with the packets that are owed afterwards. -/
def nackStep (t : Sender × Finset ℕ) (e : SenderPoll) : Option (Sender × Finset ℕ) :=
  (readWriteLoopSender crc32 t.1 e).map fun s =>
    (s, if WritesNow t.1 e then ∅ else owedAt crc32 t e)

/-- The calls of `write` on account of NACKs. -/
def nackWrites (s : Sender) : List Transmission := s.written.filter fun w => w.cause = .nack

/-- On account of NACKs each of the packets was sent once, as it was in `s`, and nothing else. -/
def Retransmits (s s' : Sender) (packets : Finset ℕ) : Prop :=
  ∃ ws : List Transmission, nackWrites s' = nackWrites s ++ ws ∧
    (ws.map Transmission.position).Nodup ∧
    (∀ p, p ∈ ws.map Transmission.position ↔ p ∈ packets) ∧
    ∀ w ∈ ws, ∃ pkt payload, s.packets w.position = some pkt ∧ pkt.content = some payload ∧
      w.datagram = encoding crc32 pkt payload

/-- The iteration sends what is due.  The answer to the NACKs has an outcome of its own, whatever
comes of the rest of the iteration. -/
structure ServesRequests (t : Sender × Finset ℕ) (e : SenderPoll) : Prop where
  answers : WritesNow t.1 e → ∀ m, senderReceive crc32 t.1 e = some m →
    ∃ a, retransmitNack crc32 m = some a ∧ a.status = m.status ∧
      Retransmits crc32 t.1 a (due crc32 t e)
  only : ∀ s', readWriteLoopSender crc32 t.1 e = some s' →
    Retransmits crc32 t.1 s' (due crc32 t e)

/-! ## Where one variable is enough -/

/-- The test of the code. -/
def InNackRange (s : Sender) (num : ℕ) : Prop :=
  ¬ (num < s.lastValid ∨ num > s.lastValid + s.window)

instance (s : Sender) (num : ℕ) : Decidable (InNackRange s num) := by
  unfold InNackRange
  infer_instance

/-- `find_buffer` finds the packet itself. -/
def FoundAgain (s : Sender) (p : ℕ) : Prop :=
  ∃ i < tableSize, findBuffer s (p % 256) tableSize = some (some i) ∧ s.listPkt i = some p

instance (s : Sender) (p : ℕ) : Decidable (FoundAgain s p) := by
  unfold FoundAgain
  infer_instance

/-- `find_buffer` finds the packet; if an ACK is read, it does so without the packet of the ACK, and
the shift does not lose it. -/
def StaysFound (s : Sender) (e : SenderPoll) (p : ℕ) : Prop :=
  (ackRead crc32 s e = none → FoundAgain s p) ∧ ∀ ack ∈ ackRead crc32 s e,
    FoundAgain (withoutAcked s ack.seqnum.toNat) p ∧
      p + refillCount s ack.seqnum.toNat ≤ s.seqnum

instance (s : Sender) (e : SenderPoll) (p : ℕ) : Decidable (StaysFound crc32 s e p) := by
  unfold StaysFound
  infer_instance

/-- The code's test of a NACK comes to what it should, and no other request is open when the NACK
arrives; when the socket is writable, what is owed can be found in the table, and the ACK that is
read does not change that. -/
def OneRequest (t : Sender × Finset ℕ) (e : SenderPoll) : Prop :=
  (t.1.status = .running → ∀ nack ∈ nackRead crc32 t.1 e,
    (InNackRange t.1 nack.seqnum.toNat ↔ (named t.1 nack.seqnum.toNat).Nonempty) ∧
      (t.2 = ∅ ∨ named t.1 nack.seqnum.toNat = t.2)) ∧
    (WritesNow t.1 e → ∀ p ∈ owedAt crc32 t e, StaysFound crc32 t.1 e p)

instance (t : Sender × Finset ℕ) (e : SenderPoll) : Decidable (OneRequest crc32 t e) := by
  unfold OneRequest
  infer_instance

variable {crc32}

/-! ## Reading -/

variable {s s' m : Sender} {e : SenderPoll}

theorem ackRead_of_nackRead {nack : Pkt} (h : nackRead crc32 s e = some nack) :
    ackRead crc32 s e = none := by
  unfold nackRead at h
  split at h
  · next datagram he =>
    simp only at h
    split at h
    · next hnack =>
      unfold ackRead
      rw [he]
      simp only
      rw [if_neg]
      rintro ⟨-, hack⟩
      rw [hnack.2] at hack
      cases hack
    · cases h
  · cases h

theorem nack_handleDecoded {fill : FillInputs} {decoded : PktStatusCode × Pkt}
    (h : handleDecoded crc32 fill s decoded = some m) :
    m.nack = if decoded.1 = .pktOk ∧ decoded.2.type = .nack then
      if InNackRange s decoded.2.seqnum.toNat then (decoded.2.seqnum.toNat : ℤ) else 256
    else s.nack := by
  rcases handleDecoded_cases crc32 h with
    ⟨hpassed, rfl⟩ | ⟨hok, hnack, hhandle⟩ | ⟨-, hack, hhandle⟩
  · rw [if_neg fun hc => (hpassed hc.1).1 hc.2]
  · obtain rfl := handleNack_cases hhandle
    have hread : decoded.1 = .pktOk ∧ decoded.2.type = .nack := ⟨hok, hnack⟩
    unfold InNackRange
    simp only [if_pos hread, ite_not]
  · have hno : ¬ (decoded.1 = .pktOk ∧ decoded.2.type = .nack) := by
      rintro ⟨-, hnack⟩
      rw [hack] at hnack
      cases hnack
    rw [if_neg hno]
    obtain ⟨d, q, hd, hq, rfl⟩ := handleAck_cases crc32 hhandle
    obtain ⟨n, -, rfl⟩ := clearAndFillBuffer_cases crc32 hq
    rcases deleteAcked_cases hd with rfl | ⟨k, p, -, -, -, -, rfl⟩ <;> rfl

/-- **What becomes of the pending NACK**: only a NACK changes it. -/
theorem nack_senderReceive (h : senderReceive crc32 s e = some m) :
    m.nack = (nackRead crc32 s e).elim s.nack fun nack =>
      if InNackRange s nack.seqnum.toNat then nack.seqnum.toNat else 256 := by
  unfold senderReceive at h
  unfold nackRead
  split at h
  · next he =>
    obtain rfl := Option.some.inj h
    rw [he]
    rfl
  · next he =>
    obtain rfl := Option.some.inj h
    rw [he]
    rfl
  · next datagram he =>
    rw [nack_handleDecoded h, he]
    simp only
    split <;> rfl
  · next he =>
    obtain rfl := Option.some.inj h
    rw [he]
    rfl

/-- The number that is pending after a NACK. -/
theorem nack_of_nackRead {nack : Pkt} (hread : nackRead crc32 s e = some nack)
    (h : senderReceive crc32 s e = some m) :
    m.nack = if InNackRange s nack.seqnum.toNat then (nack.seqnum.toNat : ℤ) else 256 := by
  rw [nack_senderReceive h, hread, Option.elim_some]

/-- A NACK leaves the table alone. -/
theorem inputFrame_of_nackRead {nack : Pkt} (hread : nackRead crc32 s e = some nack)
    (h : senderReceive crc32 s e = some m) : InputFrame s m := by
  rcases senderReceive_cases crc32 h with ⟨-, hf⟩ | ⟨ack, hack, -⟩
  · exact hf
  · rw [ackRead_of_nackRead hread] at hack
    cases hack

theorem requested_of_nackRead {nack : Pkt} (hrunning : s.status = .running)
    (hread : nackRead crc32 s e = some nack) :
    requested crc32 s e = named s nack.seqnum.toNat := by
  rw [requested, if_pos hrunning, hread, Option.elim_some]

/-- A failed `read` is what keeps a running iteration from writing. -/
theorem status_senderReceive_iff (h : senderReceive crc32 s e = some m)
    (hrunning : s.status = .running) :
    m.status = .readFailed ↔ e.readable = .pollin .error := by
  unfold senderReceive at h
  split at h
  · next he =>
    obtain rfl := Option.some.inj h
    simp [he, hrunning]
  · next he =>
    obtain rfl := Option.some.inj h
    simp [he]
  · next datagram he =>
    have hstatus := (handleDecoded_control crc32 h).2
    rw [hstatus, he, hrunning]
    simp
  · next he =>
    obtain rfl := Option.some.inj h
    simp [he]

/-! ## The answer -/

/-- The pending number stands for the one packet that is owed, if there is one. -/
def HeldBy (nack : ℤ) (owed : Finset ℕ) (made : ℕ) : Prop :=
  owed = ∅ ∧ (nack = -1 ∨ nack = 256) ∨ ∃ p < made, owed = {p} ∧ nack = ((p % 256 : ℕ) : ℤ)

variable {file : List UInt8} {owed : Finset ℕ}

/-- A number names at most one packet. -/
theorem Names.unique (h : Indexed crc32 file s) {num p q : ℕ} (hp : Names s num p)
    (hq : Names s num q) : p = q := by
  have hlast : ∀ r, Names s num r → r % 256 = num ∧ r < s.seqnum ∧ s.seqnum ≤ r + tableSize := by
    rintro r ⟨-, ⟨i, hi, hslot⟩, ⟨pkt, hpkt, hnum⟩, -⟩
    rw [h.seqnum_eq hpkt] at hnum
    refine ⟨hnum, h.made i hi r hslot, h.le_add hi hslot ?_⟩
    rw [Option.mem_def.mp hpkt]
    simp
  obtain ⟨hpnum, hplt, hple⟩ := hlast p hp
  obtain ⟨hqnum, hqlt, hqle⟩ := hlast q hq
  unfold tableSize at hple hqle
  exact eq_of_mod_eq (hpnum.trans hqnum.symm) (by omega) (by omega)

theorem named_eq_singleton (h : Indexed crc32 file s) {num p : ℕ} (hp : p ∈ named s num) :
    named s num = {p} := by
  refine Finset.eq_singleton_iff_unique_mem.mpr ⟨hp, fun q hq => ?_⟩
  exact Names.unique h (Finset.mem_filter.mp hq).2 (Finset.mem_filter.mp hp).2

theorem mod_of_mem_named (h : Indexed crc32 file s) {num p : ℕ} (hp : p ∈ named s num) :
    p % 256 = num := by
  obtain ⟨-, -, ⟨pkt, hpkt, hnum⟩, -⟩ := (Finset.mem_filter.mp hp).2
  rw [h.seqnum_eq hpkt] at hnum
  exact hnum

/-- **What was read and the variable**: it holds what is owed now, if one request is. -/
theorem HeldBy.receive (hs : Indexed crc32 file s) (h : HeldBy s.nack owed s.seqnum)
    (hrunning : s.status = .running) (hone : OneRequest crc32 (s, owed) e)
    (hm : senderReceive crc32 s e = some m) :
    HeldBy m.nack (owedAt crc32 (s, owed) e) s.seqnum := by
  cases hread : nackRead crc32 s e with
  | none =>
    rw [nack_senderReceive hm, owedAt, requested, if_pos hrunning, hread]
    simpa using h
  | some nack =>
    obtain ⟨hrange, halone⟩ := hone.1 hrunning nack hread
    rw [nack_of_nackRead hread hm, owedAt, requested_of_nackRead hrunning hread]
    by_cases hin : InNackRange s nack.seqnum.toNat
    · -- the packet it names, and no other, is owed
      obtain ⟨p, hp⟩ := hrange.mp hin
      have hunion : owed ∪ named s nack.seqnum.toNat = {p} := by
        rcases halone with hnone | hsame
        · rw [show owed = ∅ from hnone, Finset.empty_union, named_eq_singleton hs hp]
        · rw [← show named s nack.seqnum.toNat = owed from hsame, Finset.union_self,
            named_eq_singleton hs hp]
      rw [if_pos hin, hunion]
      refine Or.inr ⟨p, Finset.mem_range.mp (Finset.mem_filter.mp hp).1, rfl, ?_⟩
      rw [mod_of_mem_named hs hp]
    · -- it names nothing, and nothing was owed before
      have hempty : named s nack.seqnum.toNat = ∅ :=
        Finset.not_nonempty_iff_eq_empty.mp fun hne => hin (hrange.mpr hne)
      have hnone : owed = ∅ := by
        rcases halone with hnone | hsame
        · exact hnone
        · exact hsame.symm.trans hempty
      rw [if_neg hin, hempty, hnone]
      exact Or.inl ⟨rfl, Or.inr rfl⟩

theorem FoundAgain.congr (hlist : s'.listPkt = s.listPkt) (hpackets : s'.packets = s.packets)
    (p : ℕ) : FoundAgain s' p ↔ FoundAgain s p := by
  unfold FoundAgain findBuffer
  rw [hlist, hpackets]

theorem packets_of_found {num i p : ℕ} (hfind : findBuffer s num tableSize = some (some i))
    (hp : s.listPkt i = some p) : s.packets p ≠ none := by
  obtain ⟨-, ⟨q, pkt, hq, hpkt, -⟩, -⟩ := findBuffer_eq_some_iff.mp hfind
  obtain rfl := Option.some.inj (hp.symm.trans hq)
  rw [hpkt]
  simp

/-- **Which packets of the table are found behind an ACK.** -/
theorem Refills.foundAgain_iff {ack : Pkt} (h : Refills s m ack) (hm : Recent m) {p : ℕ}
    (hp : p < s.seqnum) :
    FoundAgain m p ↔ FoundAgain (withoutAcked s ack.seqnum.toNat) p ∧
      p + refillCount s ack.seqnum.toNat ≤ s.seqnum := by
  have hseq := h.seqnum
  have hlt := h.count_lt
  obtain ⟨v, hpackets⟩ := h.packets
  -- a packet that is not lost is moved down, with all that is in front of it
  have hmoved : ∀ i, i + 2 * refillCount s ack.seqnum.toNat ≤ tableSize →
      i + refillCount s ack.seqnum.toNat < tableSize →
      m.listPkt i =
          (withoutAcked s ack.seqnum.toNat).listPkt (i + refillCount s ack.seqnum.toNat) ∧
        (findBuffer m (p % 256) tableSize = some (some i) ↔
          findBuffer (withoutAcked s ack.seqnum.toNat) (p % 256) tableSize =
            some (some (i + refillCount s ack.seqnum.toNat))) := by
    intro i hi hin
    have hslot : ∀ j ≤ i, m.listPkt j =
        (withoutAcked s ack.seqnum.toNat).listPkt (j + refillCount s ack.seqnum.toNat) := by
      intro j hj
      rw [h.listPkt, refilled_apply hlt.le (by omega), if_neg (by omega), if_pos (by omega)]
      rfl
    refine ⟨hslot i (Nat.le_refl i), findBuffer_shifted_iff hin h.front hslot ?_⟩
    intro j hj q hq
    have hmade : q < s.seqnum := h.recent.made _ (by omega) q hq
    rw [hpackets, overwrite_of_lt _ _ _ hmade]
  constructor
  · rintro ⟨i, hi, hfind, hslot⟩
    have hplace := hm.place_of_found hfind hslot
    by_cases hin : i + 2 * refillCount s ack.seqnum.toNat ≤ tableSize
    · obtain ⟨hsame, hiff⟩ := hmoved i hin (by omega)
      exact ⟨⟨_, by omega, hiff.mp hfind, hsame ▸ hslot⟩, by omega⟩
    · -- a packet left in its old slot would be in two
      have hfound := hslot
      rw [h.listPkt, refilled_apply hlt.le hi, if_neg (by omega), if_neg hin] at hslot
      have hlive : (withoutAcked s ack.seqnum.toNat).packets p ≠ none := by
        rw [← overwrite_of_lt (withoutAcked s ack.seqnum.toNat).packets
          (refillCount s ack.seqnum.toNat) v hp, ← hpackets]
        exact packets_of_found hfind hfound
      obtain ⟨f, hf, -, heq⟩ := h.recent.first i hi p hslot hlive
      have hfirst : p + tableSize = s.seqnum + f := heq
      omega
  · rintro ⟨⟨i, hi, hfind, hslot⟩, hle⟩
    have hplace : p + tableSize = s.seqnum + i := h.recent.place_of_found hfind hslot
    have hbehind : refillCount s ack.seqnum.toNat ≤ i := by
      by_contra hfront
      have hfree : (withoutAcked s ack.seqnum.toNat).listPkt i = none := h.front i (by omega)
      rw [hfree] at hslot
      cases hslot
    obtain ⟨hsame, hiff⟩ := hmoved (i - refillCount s ack.seqnum.toNat) (by omega) (by omega)
    rw [Nat.sub_add_cancel hbehind] at hsame hiff
    exact ⟨_, by omega, hiff.mpr hfind, hsame.trans hslot⟩

/-- **What stays found** is what is found after reading. -/
theorem staysFound_iff (hs : Indexed crc32 file s) (hm : senderReceive crc32 s e = some m) {p : ℕ}
    (hp : p < s.seqnum) : StaysFound crc32 s e p ↔ FoundAgain m p := by
  unfold StaysFound
  rcases senderReceive_cases crc32 hm with ⟨hno, hf⟩ | ⟨ack, hack, -⟩
  · rw [hno, FoundAgain.congr hf.listPkt hf.packets]
    simp
  · rw [(hs.refills hack hm).foundAgain_iff (hs.senderReceive hm).toRecent hp, hack]
    simp

theorem retransmits_empty (h : nackWrites s' = nackWrites s) : Retransmits crc32 s s' ∅ :=
  ⟨[], by rw [h, List.append_nil], by simp, by simp, by simp⟩

theorem retransmitNack_of_idle (h : s.nack = -1 ∨ s.nack = 256) :
    retransmitNack crc32 s = some s := by
  unfold retransmitNack
  rw [if_neg]
  omega

/-- The packet that is found is sent. -/
theorem retransmitNack_of_found (hs : Genuine crc32 file s) {p : ℕ}
    (hnack : s.nack = ((p % 256 : ℕ) : ℤ)) (hfound : FoundAgain s p) :
    ∃ pkt payload, s.packets p = some pkt ∧ pkt.content = some payload ∧
      retransmitNack crc32 s =
        some { transmitted crc32 s .nack p pkt payload with nack := -1 } := by
  obtain ⟨i, -, hfind, hslot⟩ := hfound
  obtain ⟨-, ⟨q, pkt, hq, hpkt, -⟩, -⟩ := findBuffer_eq_some_iff.mp hfind
  obtain rfl := Option.some.inj (hslot.symm.trans hq)
  have hcontent := (hs.packet p pkt hpkt).2.1.2.2
  refine ⟨pkt, _, hpkt, hcontent, ?_⟩
  have hpending : s.nack ≠ -1 ∧ s.nack ≠ 256 := by omega
  have hnum : s.nack.toNat = p % 256 := by omega
  unfold retransmitNack
  rw [if_pos hpending, hnum]
  simp only [hfind, Option.bind_eq_bind, Option.bind_some, transmit_eq crc32 hslot hpkt hcontent]

/-- **The answer to what is pending** is what is owed. -/
theorem HeldBy.answer (hs : Genuine crc32 file s) {made : ℕ} (h : HeldBy s.nack owed made)
    (hfound : ∀ p ∈ owed, FoundAgain s p) :
    ∃ a, retransmitNack crc32 s = some a ∧ a.status = s.status ∧
      (a.nack = -1 ∨ a.nack = 256) ∧ Retransmits crc32 s a owed := by
  rcases h with ⟨rfl, hidle⟩ | ⟨p, -, rfl, hnack⟩
  · exact ⟨s, retransmitNack_of_idle hidle, rfl, hidle, retransmits_empty rfl⟩
  · obtain ⟨pkt, payload, hpkt, hcontent, ha⟩ :=
      retransmitNack_of_found hs hnack (hfound p (Finset.mem_singleton_self p))
    refine ⟨_, ha, rfl, Or.inl rfl,
      [⟨.nack, p, s.base, s.window, encoding crc32 pkt payload⟩], ?_, by simp, by simp, ?_⟩
    · simp [nackWrites, transmitted, List.filter_append]
    · intro w hw
      obtain rfl := List.mem_singleton.mp hw
      exact ⟨pkt, payload, hpkt, hcontent, rfl⟩

/-! ## The rest of an iteration -/

/-- Nothing about NACKs changed. -/
structure KeepsNacks (s s' : Sender) : Prop where
  writes : nackWrites s' = nackWrites s
  nack : s'.nack = s.nack

theorem KeepsNacks.trans {a b c : Sender} (h : KeepsNacks a b) (h' : KeepsNacks b c) :
    KeepsNacks a c :=
  ⟨h'.writes.trans h.writes, h'.nack.trans h.nack⟩

theorem nackWrites_transmitted {cause : SendCause} (hcause : cause ≠ .nack) (s : Sender) (p : ℕ)
    (pkt : Pkt) (payload : List UInt8) :
    nackWrites (transmitted crc32 s cause p pkt payload) = nackWrites s := by
  simp [nackWrites, transmitted, List.filter_append, hcause]

theorem keepsNacks_sendNext (h : sendNext crc32 e s = some s') : KeepsNacks s s' := by
  rcases sendNext_cases crc32 h with ⟨-, rfl⟩ | ⟨i, p, pkt, payload, -, -, -, -, -, rfl⟩
  · exact ⟨rfl, rfl⟩
  · exact ⟨nackWrites_transmitted (by decide) s p pkt payload, rfl⟩

theorem keepsNacks_sendWindow (h : sendWindow crc32 s e = some s') : KeepsNacks s s' := by
  rcases sendWindow_cases crc32 h with ⟨-, rfl⟩ | ⟨-, m, hm, hm'⟩
  · exact ⟨rfl, rfl⟩
  · have hloop : KeepsNacks s m :=
      sendLoop_rule crc32 (P := KeepsNacks s)
        (fun a b hab _ hb => hab.trans (keepsNacks_sendNext hb)) ⟨rfl, rfl⟩ hm
    rcases hm' with ⟨-, rfl⟩ | ⟨-, rfl⟩
    · exact hloop
    · exact ⟨hloop.writes, hloop.nack⟩

theorem keepsNacks_resendTimeout (h : resendTimeout crc32 s e = some s') : KeepsNacks s s' := by
  rcases resendTimeout_cases crc32 h with rfl | ⟨p, pkt, payload, -, -, -, -, rfl⟩
  · exact ⟨rfl, rfl⟩
  · exact ⟨nackWrites_transmitted (by decide) _ p _ payload, rfl⟩

/-- **Behind the answer, the output half does nothing about NACKs.** -/
theorem keepsNacks_senderReply {a : Sender} (hout : e.writable = .pollout)
    (ha : retransmitNack crc32 s = some a) (h : senderReply crc32 s e = some s') :
    KeepsNacks a s' := by
  rcases senderReply_cases crc32 h with ⟨hidle, -⟩ | ⟨-, a', ha', hrest⟩
  · exact absurd hout hidle
  obtain rfl := Option.some.inj (ha.symm.trans ha')
  rcases hrest with ⟨-, rfl⟩ | ⟨-, b, hb, ⟨-, rfl⟩ | ⟨-, htime⟩⟩
  · exact ⟨rfl, rfl⟩
  · exact keepsNacks_sendWindow hb
  · exact (keepsNacks_sendWindow hb).trans (keepsNacks_resendTimeout htime)

/-! ## One iteration -/

/-- An iteration reads and writes, or it reads only, or it does nothing. -/
theorem readWriteLoopSender_writes (h : readWriteLoopSender crc32 s e = some s') :
    WritesNow s e ∧ (∃ m, senderReceive crc32 s e = some m ∧ senderReply crc32 m e = some s') ∨
      ¬ WritesNow s e ∧ (s.status = .running ∧ senderReceive crc32 s e = some s' ∨
        s.status ≠ .running ∧ s' = s) := by
  rcases readWriteLoopSender_cases crc32 h with ⟨hstop, rfl⟩ | ⟨hrunning, m, hm, hm'⟩
  · exact Or.inr ⟨fun hw => hstop hw.1, Or.inr ⟨hstop, rfl⟩⟩
  have hfailed := status_senderReceive_iff hm hrunning
  rcases hm' with ⟨hstop, rfl⟩ | ⟨hgoes, hreply⟩
  · exact Or.inr ⟨fun hw => hw.2.2 (hfailed.mp hstop), Or.inl ⟨hrunning, hm⟩⟩
  rcases senderReply_cases crc32 hreply with ⟨hidle, rfl⟩ | ⟨hout, -⟩
  · exact Or.inr ⟨fun hw => hidle hw.2.1, Or.inl ⟨hrunning, hm⟩⟩
  · exact Or.inl ⟨⟨hrunning, hout, fun herror => hgoes (hfailed.mpr herror)⟩, m, hm, hreply⟩

theorem HeldBy.lt {nack : ℤ} {made p : ℕ} (h : HeldBy nack owed made) (hp : p ∈ owed) :
    p < made := by
  rcases h with ⟨rfl, -⟩ | ⟨q, hq, rfl, -⟩
  · exact absurd hp (Finset.notMem_empty p)
  · obtain rfl := Finset.mem_singleton.mp hp
    exact hq

theorem HeldBy.mono {nack : ℤ} {made made' : ℕ} (h : HeldBy nack owed made)
    (hle : made ≤ made') : HeldBy nack owed made' := by
  rcases h with hidle | ⟨p, hp, hrest⟩
  · exact Or.inl hidle
  · exact Or.inr ⟨p, by omega, hrest⟩

/-- What is sent after reading is sent as it was before. -/
theorem Retransmits.of_received {a : Sender} (hm : senderReceive crc32 s e = some m)
    (hlt : ∀ p ∈ owed, p < s.seqnum) (h : Retransmits crc32 m a owed) :
    Retransmits crc32 s a owed := by
  obtain ⟨ws, hws, hnodup, hmem, hdatagram⟩ := h
  refine ⟨ws, ?_, hnodup, hmem, fun w hw => ?_⟩
  · rw [hws, nackWrites, nackWrites, written_senderReceive crc32 hm]
  · obtain ⟨pkt, payload, hpkt, hrest⟩ := hdatagram w hw
    have howed := (hmem w.position).mp (List.mem_map_of_mem hw)
    exact ⟨pkt, payload, packets_senderReceive crc32 hm (hlt _ howed) hpkt, hrest⟩

theorem Retransmits.keeps {a : Sender} (h : Retransmits crc32 s a owed) (hk : KeepsNacks a s') :
    Retransmits crc32 s s' owed := by
  obtain ⟨ws, hws, hrest⟩ := h
  exact ⟨ws, by rw [hk.writes, hws], hrest⟩

variable {t : Sender × Finset ℕ}

/-- The answer given by an iteration that writes. -/
theorem answer_of_writesNow (hs : Indexed crc32 file t.1)
    (hheld : HeldBy t.1.nack t.2 t.1.seqnum) (hone : OneRequest crc32 t e)
    (hw : WritesNow t.1 e) (hm : senderReceive crc32 t.1 e = some m) :
    ∃ a, retransmitNack crc32 m = some a ∧ a.status = m.status ∧
      (a.nack = -1 ∨ a.nack = 256) ∧ Retransmits crc32 t.1 a (due crc32 t e) := by
  have hnow : HeldBy m.nack (owedAt crc32 t e) t.1.seqnum := hheld.receive hs hw.1 hone hm
  have hfound : ∀ p ∈ owedAt crc32 t e, FoundAgain m p := fun p hp =>
    (staysFound_iff hs hm (hnow.lt hp)).mp (hone.2 hw p hp)
  obtain ⟨a, ha, hstatus, hidle, hsent⟩ := hnow.answer (hs.senderReceive hm).toGenuine hfound
  rw [due, if_pos hw]
  exact ⟨a, ha, hstatus, hidle, hsent.of_received hm fun p hp => hnow.lt hp⟩

/-- **One iteration serves the requests**, if the variable holds what is owed. -/
theorem servesRequests_of_heldBy (hs : Indexed crc32 file t.1)
    (hheld : HeldBy t.1.nack t.2 t.1.seqnum) (hone : OneRequest crc32 t e) :
    ServesRequests crc32 t e where
  answers := by
    intro hw m hm
    obtain ⟨a, ha, hstatus, -, hsent⟩ := answer_of_writesNow hs hheld hone hw hm
    exact ⟨a, ha, hstatus, hsent⟩
  only := by
    intro s' hstep
    rcases readWriteLoopSender_writes hstep with ⟨hw, m, hm, hreply⟩ | ⟨hw, hread⟩
    · obtain ⟨a, ha, -, -, hsent⟩ := answer_of_writesNow hs hheld hone hw hm
      exact hsent.keeps (keepsNacks_senderReply hw.2.1 ha hreply)
    · rw [due, if_neg hw]
      refine retransmits_empty ?_
      rcases hread with ⟨-, hm⟩ | ⟨-, rfl⟩
      · rw [nackWrites, nackWrites, written_senderReceive crc32 hm]
      · rfl

/-- **One iteration keeps what is owed in the variable.** -/
theorem HeldBy.step (hs : Indexed crc32 file t.1) (hheld : HeldBy t.1.nack t.2 t.1.seqnum)
    (hone : OneRequest crc32 t e) (hstep : readWriteLoopSender crc32 t.1 e = some s') :
    HeldBy s'.nack (if WritesNow t.1 e then ∅ else owedAt crc32 t e) s'.seqnum := by
  rcases readWriteLoopSender_writes hstep with ⟨hw, m, hm, hreply⟩ | ⟨hw, hread⟩
  · obtain ⟨a, ha, -, hidle, -⟩ := answer_of_writesNow hs hheld hone hw hm
    rw [if_pos hw, (keepsNacks_senderReply hw.2.1 ha hreply).nack]
    exact Or.inl ⟨rfl, hidle⟩
  · rw [if_neg hw]
    rcases hread with ⟨hrunning, hm⟩ | ⟨hstop, rfl⟩
    · exact (hheld.receive hs hrunning hone hm).mono (seqnum_le_senderReceive crc32 hm)
    · rw [owedAt, requested, if_neg hstop, Finset.union_empty]
      exact hheld

theorem named_of_mem_requested {p : ℕ} (hp : p ∈ requested crc32 s e) : ∃ num, p ∈ named s num := by
  unfold requested at hp
  split at hp
  · cases hread : nackRead crc32 s e with
    | none =>
      rw [hread, Option.elim_none] at hp
      exact absurd hp (Finset.notMem_empty p)
    | some nack =>
      rw [hread, Option.elim_some] at hp
      exact ⟨_, hp⟩
  · exact absurd hp (Finset.notMem_empty p)

theorem lt_of_mem_owedAt (hmade : ∀ p ∈ t.2, p < t.1.seqnum) {p : ℕ}
    (hp : p ∈ owedAt crc32 t e) : p < t.1.seqnum := by
  rcases Finset.mem_union.mp hp with hold | hnew
  · exact hmade p hold
  · obtain ⟨num, hnum⟩ := named_of_mem_requested hnew
    exact Finset.mem_range.mp (Finset.mem_filter.mp hnum).1

/-- What is owed was sent before. -/
theorem sent_of_owed (hsent : ∀ p ∈ t.2, ∃ w ∈ t.1.written, w.position = p)
    (hstep : readWriteLoopSender crc32 t.1 e = some s') :
    ∀ p ∈ (if WritesNow t.1 e then ∅ else owedAt crc32 t e), ∃ w ∈ s'.written, w.position = p := by
  intro p hp
  rcases readWriteLoopSender_writes hstep with ⟨hw, -⟩ | ⟨hw, hread⟩
  · rw [if_pos hw] at hp
    exact absurd hp (Finset.notMem_empty p)
  · rw [if_neg hw] at hp
    have hwritten : s'.written = t.1.written := by
      rcases hread with ⟨-, hm⟩ | ⟨-, rfl⟩
      · exact written_senderReceive crc32 hm
      · rfl
    rw [hwritten]
    rcases Finset.mem_union.mp hp with hold | hnew
    · exact hsent p hold
    · obtain ⟨num, hnum⟩ := named_of_mem_requested hnew
      exact (Finset.mem_filter.mp hnum).2.1

/-! ## Why nothing less will do -/

/-- What passes the code's test is near. -/
theorem near_of_inNackRange {num : ℕ} (hnum : num < 256) (h : InNackRange s num) : Near s num := by
  obtain ⟨hlo, hhi⟩ := not_or.mp h
  refine ⟨num - s.lastValid, by omega, ?_⟩
  rw [Nat.add_sub_cancel' (by omega), Nat.mod_eq_of_lt hnum]

/-- A request answered by nothing was none. -/
theorem oneRequest_of_idle (hm : senderReceive crc32 t.1 e = some m)
    (hidle : m.nack = -1 ∨ m.nack = 256) (hnone : owedAt crc32 t e = ∅) : OneRequest crc32 t e := by
  obtain ⟨howed, hreq⟩ := Finset.union_eq_empty.mp hnone
  refine ⟨fun hrunning nack hread => ?_, fun _ p hp => ?_⟩
  · rw [requested_of_nackRead hrunning hread] at hreq
    have hpending := nack_of_nackRead hread hm
    have hout : ¬ InNackRange t.1 nack.seqnum.toNat := by
      intro hin
      have hlt := nack.seqnum.toNat_lt
      rw [if_pos hin] at hpending
      omega
    rw [hreq]
    exact ⟨iff_of_false hout Finset.not_nonempty_empty, Or.inl howed⟩
  · rw [hnone] at hp
    exact absurd hp (Finset.notMem_empty p)

/-- A request answered by one packet was one for this packet. -/
theorem oneRequest_of_found (hs : Indexed crc32 file t.1) (hmade : ∀ p ∈ t.2, p < t.1.seqnum)
    (hsent : ∀ p ∈ t.2, ∃ w ∈ t.1.written, w.position = p)
    (hm : senderReceive crc32 t.1 e = some m) {i p : ℕ} {pkt : Pkt} (hne : m.nack ≠ 256)
    (hfind : findBuffer m m.nack.toNat tableSize = some (some i)) (hslot : m.listPkt i = some p)
    (hpkt : m.packets p = some pkt) (howed : owedAt crc32 t e = {p}) : OneRequest crc32 t e := by
  obtain ⟨hi, ⟨q, pkt', hq, hpkt', hnum⟩, -⟩ := findBuffer_eq_some_iff.mp hfind
  obtain rfl := Option.some.inj (hslot.symm.trans hq)
  obtain rfl := Option.some.inj (hpkt.symm.trans hpkt')
  refine ⟨fun hrunning nack hread => ?_, fun _ r hr => ?_⟩
  · rw [owedAt, requested_of_nackRead hrunning hread] at howed
    have hpending := nack_of_nackRead hread hm
    have hin : InNackRange t.1 nack.seqnum.toNat := by
      by_contra hout
      rw [if_neg hout] at hpending
      exact hne hpending
    rw [if_pos hin] at hpending
    have hseq : pkt.seqnum.toNat = nack.seqnum.toNat := by omega
    -- a NACK leaves the table alone, so the packet is there when it arrives
    have hsame := inputFrame_of_nackRead hread hm
    rw [hsame.listPkt] at hslot
    rw [hsame.packets] at hpkt
    have hp : p ∈ named t.1 nack.seqnum.toNat := by
      have hmem : p ∈ t.2 ∪ named t.1 nack.seqnum.toNat := by
        rw [howed]
        exact Finset.mem_singleton_self p
      rcases Finset.mem_union.mp hmem with hold | hnew
      · exact Finset.mem_filter.mpr ⟨Finset.mem_range.mpr (hs.made i hi p hslot),
          hsent p hold, ⟨i, hi, hslot⟩, ⟨pkt, hpkt, hseq⟩,
          near_of_inNackRange nack.seqnum.toNat_lt hin⟩
      · exact hnew
    have hsub : t.2 ⊆ {p} := by
      rw [← howed]
      exact Finset.subset_union_left
    refine ⟨iff_of_true hin ⟨p, hp⟩, ?_⟩
    rw [named_eq_singleton hs hp]
    rcases Finset.subset_singleton_iff.mp hsub with hempty | hone
    · exact Or.inl hempty
    · exact Or.inr hone.symm
  · have hlt := lt_of_mem_owedAt hmade hr
    rw [howed] at hr
    obtain rfl := Finset.mem_singleton.mp hr
    rw [(hs.senderReceive hm).seqnum_eq hpkt] at hnum
    exact (staysFound_iff hs hm hlt).mpr ⟨i, hi, by rw [hnum]; exact hfind, hslot⟩

/-- **An iteration that writes what is due** meets the condition. -/
theorem oneRequest_of_serves (hs : Indexed crc32 file t.1) (hmade : ∀ p ∈ t.2, p < t.1.seqnum)
    (hsent : ∀ p ∈ t.2, ∃ w ∈ t.1.written, w.position = p) (hw : WritesNow t.1 e)
    (hm : senderReceive crc32 t.1 e = some m) (h : ServesRequests crc32 t e) :
    OneRequest crc32 t e := by
  obtain ⟨a, ha, hstatus, ws, hws, -, hmem, -⟩ := h.answers hw m hm
  have hbefore : nackWrites m = nackWrites t.1 := by
    rw [nackWrites, nackWrites, written_senderReceive crc32 hm]
  rw [due, if_pos hw] at hmem
  rcases retransmitNack_lookup crc32 ha with
    ⟨hidle, rfl⟩ | ⟨⟨-, hne⟩, ⟨-, rfl⟩ | ⟨i, p, pkt, payload, hfind, hslot, hpkt, -, rfl⟩⟩
  · have hnothing : ws = [] := by
      rw [hbefore] at hws
      exact List.self_eq_append_right.mp hws
    refine oneRequest_of_idle hm hidle (Finset.eq_empty_of_forall_notMem fun p hp => ?_)
    rw [hnothing] at hmem
    exact absurd ((hmem p).mpr hp) List.not_mem_nil
  · have hrunning : t.1.status ≠ .absentLookup := by simp [hw.1]
    exact absurd hstatus.symm (status_senderReceive_ne crc32 hm hrunning)
  · have hone : ws = [⟨.nack, p, m.base, m.window, encoding crc32 pkt payload⟩] := by
      have hafter : nackWrites { transmitted crc32 m .nack p pkt payload with nack := -1 } =
          nackWrites m ++ [⟨.nack, p, m.base, m.window, encoding crc32 pkt payload⟩] := by
        simp [nackWrites, transmitted, List.filter_append]
      rw [hafter, hbefore] at hws
      exact (List.append_cancel_left hws).symm
    refine oneRequest_of_found hs hmade hsent hm hne hfind hslot hpkt ?_
    ext q
    rw [← hmem q, hone]
    simp

/-! ## Runs -/

/-- **Every packet asked for is sent once, and nothing else**, in the runs in which one variable is
enough: for every file, whatever is read, in every iteration.  From every state of such a run, an
iteration that writes does so if and only if one variable is enough for it. -/
theorem servesRequests_of_run (crc32 : List UInt8 → UInt32) (file : List UInt8) (buffer : Memory)
    (freshAck : Pkt) (clockAck : UInt32) (fill : FillInputs) (s₀ : Sender)
    (hinit : Sender.init crc32 file buffer freshAck clockAck fill = some s₀)
    (es : List SenderPoll) (t : Sender × Finset ℕ)
    (hrun : Run (nackStep crc32) (fun _ t e => OneRequest crc32 t e) (s₀, ∅) es t)
    (e : SenderPoll) :
    (OneRequest crc32 t e → ServesRequests crc32 t e) ∧
      (WritesNow t.1 e → senderReceive crc32 t.1 e ≠ none →
        (ServesRequests crc32 t e ↔ OneRequest crc32 t e)) := by
  obtain ⟨hgen, hstart⟩ := starts_of_init hinit
  have hinv : Indexed crc32 file t.1 ∧ HeldBy t.1.nack t.2 t.1.seqnum ∧
      ∀ p ∈ t.2, ∃ w ∈ t.1.written, w.position = p := by
    refine hrun.invariant (I := fun _ t => Indexed crc32 file t.1 ∧
      HeldBy t.1.nack t.2 t.1.seqnum ∧ ∀ p ∈ t.2, ∃ w ∈ t.1.written, w.position = p)
      ⟨indexed_of_starts hgen hstart, Or.inl ⟨rfl, Or.inl hstart.nack⟩, by simp⟩ ?_
    rintro es ⟨s, owed⟩ e t' ⟨hidx, hheld, hsent⟩ hone hstep
    obtain ⟨s', hs', rfl⟩ := Option.map_eq_some_iff.mp hstep
    exact ⟨hidx.step hs', hheld.step hidx hone hs', sent_of_owed hsent hs'⟩
  obtain ⟨hidx, hheld, hsent⟩ := hinv
  refine ⟨servesRequests_of_heldBy hidx hheld, fun hw hread => ?_⟩
  obtain ⟨m, hm⟩ := Option.ne_none_iff_exists'.mp hread
  exact ⟨oneRequest_of_serves hidx (fun p hp => hheld.lt hp) hsent hw hm,
    servesRequests_of_heldBy hidx hheld⟩

/-- Packets 0 to 4 are sent, and a NACK for packet 3 waits while packet 1 is acknowledged. -/
theorem servesRequests_waiting :
    ∃ t : Sender × Finset ℕ, t.2 = {3} ∧ ServesRequests zlibCrc32 t writePoll := by
  obtain ⟨t, hrun, hview⟩ := exists_run_of_follow (nackStep zlibCrc32)
    (fun _ t e => OneRequest zlibCrc32 t e) (startSender [], ∅)
    [writePoll, ackPoll 1 .pollout, { nackPoll 3 with writable := .idle }, ackPoll 2 .idle]
    (fun t => (t.2, decide (OneRequest zlibCrc32 t writePoll)))
    (show _ = some ({3}, true) by decide +kernel)
  obtain ⟨howed, hone⟩ := Prod.mk.inj hview
  exact ⟨t, howed, (servesRequests_of_run zlibCrc32 [] (fun _ => 0) blankPkt 0 blankFill
    (startSender []) (init_startSender []) _ t hrun writePoll).1 (of_decide_eq_true hone)⟩

/-- **A second NACK takes the place of the first.**  Packets 0 to 4 are sent; the NACK for packet 3
arrives while the socket is not writable, and then the one for packet 2. -/
theorem not_servesRequests :
    ¬ ∀ (file : List UInt8) (buffer : Memory) (freshAck : Pkt) (clockAck : UInt32)
      (fill : FillInputs) (s₀ : Sender),
      Sender.init zlibCrc32 file buffer freshAck clockAck fill = some s₀ →
      ∀ (es : List SenderPoll) (t : Sender × Finset ℕ),
        Run (nackStep zlibCrc32) (fun _ _ _ => True) (s₀, ∅) es t →
        ∀ e, ServesRequests zlibCrc32 t e := by
  intro h
  obtain ⟨t, hrun, hview⟩ := exists_run_of_follow (nackStep zlibCrc32) (fun _ _ _ => True)
    (startSender [], ∅)
    [writePoll, ackPoll 1 .pollout, { nackPoll 3 with writable := .idle }]
    (fun t => ((readWriteLoopSender zlibCrc32 t.1 (nackPoll 2)).map fun s =>
      (nackWrites s).map Transmission.position, decide (3 ∈ due zlibCrc32 t (nackPoll 2))))
    (show _ = some (some [2], true) by decide +kernel)
  obtain ⟨hsent, hdue⟩ := Prod.mk.inj hview
  obtain ⟨s', hs', hpositions⟩ := Option.map_eq_some_iff.mp hsent
  obtain ⟨ws, hws, -, hmem, -⟩ := (h [] (fun _ => 0) blankPkt 0 blankFill (startSender [])
    (init_startSender []) _ t hrun (nackPoll 2)).only s' hs'
  have hthree := (hmem 3).mpr (of_decide_eq_true hdue)
  rw [hws, List.map_append] at hpositions
  have hin : 3 ∈ [2] := hpositions ▸ List.mem_append_right _ hthree
  exact absurd hin (by decide)

end TrtpNetwork
