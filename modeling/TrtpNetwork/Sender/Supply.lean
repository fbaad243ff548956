import TrtpNetwork.Sender.NackRequests
import TrtpNetwork.Sender.Window

/-!
# What the table is kept for

The sender takes packets out of the table when it reads and looks packets up when it writes, and
between the two there may be any number of iterations.  No lookup misses as long as the table has
all that is going to be looked up: the packets the loop over `nextseqnum` has not sent, and the one
a NACK waits for (`Stocked`).

`InTurn` says what must not be read for that, by the state before: an ACK that takes a packet out of
the table which the loop has not sent or a NACK waits for, a NACK for a packet that is not in the
table, an ACK that opens the window past the last packet made.  `noAbsentLookup_of_run` is the
result for runs without these, and `not_noAbsentLookup` the shortest history against it: a second
copy of ACK 1 takes `last_valid` back behind a packet that ACK 2 has removed, and a NACK asks for
that packet.
-/

namespace TrtpNetwork

variable (crc32 : List UInt8 → UInt32)

/-- What an ACK makes of the variables a pass over the window goes by. -/
def ackedCounters (s : Sender) (ack : Pkt) : Sender :=
  { s with
    base := ackedBase s ack.seqnum.toNat
    window := if ack.window.val > s.window then ack.window.val else s.window
    lastAck := ack
    seqnum := s.seqnum + refillCount s ack.seqnum.toNat
    bufferUpdate := s.bufferUpdate || (freedTable s ack.seqnum.toNat 0).isNone }

/-- These variables when the pass is made. -/
def passCounters (s : Sender) (e : SenderPoll) : Sender :=
  (ackRead crc32 s e).elim s (ackedCounters s)

/-! ## Where nothing is missing -/

/-- The ACK takes no packet out of the table that the loop has not sent, and none that is waiting to
be sent again. -/
def AckInTurn (s : Sender) (e : SenderPoll) : Prop :=
  s.status = .running → ∀ ack ∈ ackRead crc32 s e, ∀ p < s.seqnum,
    TakesOut s ack.seqnum.toNat p → p ∈ loopPositions s ∧ s.nack ≠ ((p % 256 : ℕ) : ℤ)

/-- The NACK, if it is in range, is for a packet of the table. -/
def NackInTurn (s : Sender) (e : SenderPoll) : Prop :=
  s.status = .running → ∀ nack ∈ nackRead crc32 s e, InNackRange s nack.seqnum.toNat →
    ∃ p < s.seqnum, Placed s p ∧ p % 256 = nack.seqnum.toNat

/-- The window does not reach past the last packet made when a pass is made over it. -/
def PassInTurn (s : Sender) (e : SenderPoll) : Prop :=
  WritesNow s e → (passCounters crc32 s e).bufferUpdate = true → MaySend (passCounters crc32 s e) →
    (passCounters crc32 s e).base + (passCounters crc32 s e).window + (loopPositions s).length ≤
      (passCounters crc32 s e).nextseqnum + (passCounters crc32 s e).seqnum

/-- What is read takes nothing out of the table that is needed, and asks for nothing else. -/
structure InTurn (s : Sender) (e : SenderPoll) : Prop where
  ack : AckInTurn crc32 s e
  nack : NackInTurn crc32 s e
  pass : PassInTurn crc32 s e

/-- The invariant: the packets the loop has not sent are in the table, and so is the one a NACK
waits for. -/
structure Stocked (file : List UInt8) (s : Sender) : Prop extends Indexed crc32 file s where
  inOrder : loopPositions s = List.range (loopPositions s).length
  sentMade : (loopPositions s).length ≤ s.seqnum
  nextseqnum : s.nextseqnum % 256 = (loopPositions s).length % 256
  unsent : ∀ p < s.seqnum, p ∉ loopPositions s → Placed s p
  pending : s.nack ≠ -1 → s.nack ≠ 256 → ∃ p, Placed s p ∧ s.nack = ((p % 256 : ℕ) : ℤ)
  found : s.status ≠ .absentLookup

variable {crc32} {file : List UInt8} {s s' m : Sender} {e : SenderPoll}

/-- The number of a packet of the table is in place, and no other. -/
theorem numInPlace_iff (hfull : tableSize ≤ s.seqnum) {num : ℕ} (hnum : num < 256) :
    NumInPlace s num ↔ ∃ p, Placed s p ∧ p % 256 = num := by
  unfold NumInPlace Placed
  constructor
  · rintro ⟨hlt, hslot⟩
    refine ⟨s.seqnum - tableSize + slotOf s num, ⟨by omega, by omega, ?_⟩, ?_⟩
    · rw [← hslot]
      congr 1
      omega
    · unfold slotOf tableSize at *
      omega
  · rintro ⟨p, ⟨hlt, hle, hslot⟩, rfl⟩
    have hplace : slotOf s (p % 256) = p + tableSize - s.seqnum := by
      unfold slotOf tableSize at *
      omega
    rw [hplace, hslot]
    exact ⟨by omega, by congr 1; omega⟩

/-- What a pass goes by after reading. -/
structure ReadsCounters (crc32 : List UInt8 → UInt32) (s m : Sender) (e : SenderPoll) : Prop where
  base : m.base = (passCounters crc32 s e).base
  window : m.window = (passCounters crc32 s e).window
  lastAck : m.lastAck = (passCounters crc32 s e).lastAck
  nextseqnum : m.nextseqnum = (passCounters crc32 s e).nextseqnum
  seqnum : m.seqnum = (passCounters crc32 s e).seqnum
  bufferUpdate : m.bufferUpdate = (passCounters crc32 s e).bufferUpdate

theorem Indexed.readsCounters (h : Indexed crc32 file s)
    (hm : TrtpNetwork.senderReceive crc32 s e = some m) : ReadsCounters crc32 s m e := by
  rcases senderReceive_cases crc32 hm with ⟨hno, hf⟩ | ⟨ack, hack, hhandle⟩
  · have hsame : passCounters crc32 s e = s := by rw [passCounters, hno, Option.elim_none]
    constructor <;> rw [hsame]
    exacts [hf.base, hf.window, hf.lastAck, hf.nextseqnum, hf.seqnum, hf.bufferUpdate]
  · have hacked : passCounters crc32 s e = ackedCounters s ack := by
      rw [passCounters, hack, Option.elim_some]
    have hrefills := h.refills hack hm
    obtain ⟨-, hnext, -, hbase, hwindow⟩ := handleAck_frame crc32 hhandle
    have hlast := lastAck_handleAck crc32 hhandle
    constructor <;> rw [hacked]
    exacts [hbase, hwindow, hlast, hnext, hrefills.seqnum, hrefills.bufferUpdate]

/-! ## One iteration -/

/-- What leaves the table, and the packets the loop sent, as they are. -/
theorem Stocked.keep (h : Stocked crc32 file s) (hindexed : Indexed crc32 file s')
    (hlist : s'.listPkt = s.listPkt) (hseq : s'.seqnum = s.seqnum)
    (hpos : loopPositions s' = loopPositions s) (hnext : s'.nextseqnum % 256 = s.nextseqnum % 256)
    (hpending : s'.nack ≠ -1 → s'.nack ≠ 256 → ∃ p, Placed s p ∧ s'.nack = ((p % 256 : ℕ) : ℤ))
    (hfound : s'.status ≠ .absentLookup) : Stocked crc32 file s' where
  toIndexed := hindexed
  inOrder := by
    rw [hpos]
    exact h.inOrder
  sentMade := by
    rw [hpos, hseq]
    exact h.sentMade
  nextseqnum := by
    rw [hnext, hpos]
    exact h.nextseqnum
  unsent := by
    intro p hp hsent
    rw [hseq] at hp
    rw [hpos] at hsent
    exact (Placed.congr hlist hseq p).mpr (h.unsent p hp hsent)
  pending := by
    intro h1 h256
    obtain ⟨p, hp, hnum⟩ := hpending h1 h256
    exact ⟨p, (Placed.congr hlist hseq p).mpr hp, hnum⟩
  found := hfound

/-- The pending NACK is for a packet in place. -/
theorem Stocked.nackInPlace (h : Stocked crc32 file s) : NackInPlace s := by
  intro h1 h256
  obtain ⟨p, hp, hnum⟩ := h.pending h1 h256
  have hnat : s.nack.toNat = p % 256 := by omega
  rw [hnat]
  exact (numInPlace_iff h.full (Nat.mod_lt p (by decide))).mpr ⟨p, hp, rfl⟩

/-- **An ACK in turn** leaves in the table what is needed. -/
theorem Stocked.takesAck (h : Stocked crc32 file s) {ack : Pkt} (hindexed : Indexed crc32 file m)
    (hrefills : Refills s m ack) (hwritten : m.written = s.written)
    (hnext : m.nextseqnum = s.nextseqnum) (hstatus : m.status = s.status)
    (hturn : ∀ p < s.seqnum, TakesOut s ack.seqnum.toNat p →
      p ∈ loopPositions s ∧ s.nack ≠ ((p % 256 : ℕ) : ℤ)) : Stocked crc32 file m where
  toIndexed := hindexed
  inOrder := by
    rw [loopPositions_congr hwritten]
    exact h.inOrder
  sentMade := by
    rw [loopPositions_congr hwritten, hrefills.seqnum]
    exact Nat.le_add_right_of_le h.sentMade
  nextseqnum := by
    rw [loopPositions_congr hwritten, hnext]
    exact h.nextseqnum
  unsent := by
    intro p hp hsent
    rw [loopPositions_congr hwritten] at hsent
    rcases Nat.lt_or_ge p s.seqnum with hold | hnew
    · exact hrefills.placed (h.unsent p hold hsent) fun hout => hsent (hturn p hold hout).1
    · exact hrefills.placed_of_le hnew hp
  pending := by
    intro h1 h256
    rw [hrefills.nack] at h1 h256 ⊢
    obtain ⟨p, hp, hnum⟩ := h.pending h1 h256
    exact ⟨p, hrefills.placed hp fun hout => (hturn p hp.1 hout).2 hnum, hnum⟩
  found := by
    rw [hstatus]
    exact h.found

/-- **The input half**, if the ACK or the NACK it reads is in turn. -/
theorem Stocked.senderReceive (h : Stocked crc32 file s) (hrunning : s.status = .running)
    (hack : AckInTurn crc32 s e) (hnack : NackInTurn crc32 s e)
    (hm : TrtpNetwork.senderReceive crc32 s e = some m) : Stocked crc32 file m := by
  have hindexed := h.toIndexed.senderReceive hm
  rcases senderReceive_cases crc32 hm with ⟨-, hf⟩ | ⟨ack, hread, hhandle⟩
  · refine h.keep hindexed hf.listPkt hf.seqnum (loopPositions_congr hf.written)
      (by rw [hf.nextseqnum]) (fun h1 h256 => ?_) (status_senderReceive_ne crc32 hm h.found)
    cases hread : nackRead crc32 s e with
    | none =>
      rw [nack_senderReceive hm, hread, Option.elim_none] at h1 h256 ⊢
      exact h.pending h1 h256
    | some nack =>
      -- a number in range is that of a packet of the table, and any other asks for nothing
      rw [nack_of_nackRead hread hm] at h1 h256 ⊢
      by_cases hin : InNackRange s nack.seqnum.toNat
      · obtain ⟨p, -, hp, hnum⟩ := hnack hrunning nack hread hin
        exact ⟨p, hp, by rw [if_pos hin, hnum]⟩
      · rw [if_neg hin] at h256
        exact absurd rfl h256
  · obtain ⟨hwritten, hnext, hstatus, -, -⟩ := handleAck_frame crc32 hhandle
    exact h.takesAck hindexed (h.toIndexed.refills hread hm) hwritten hnext hstatus
      (hack hrunning ack hread)

theorem Stocked.retransmitNack (h : Stocked crc32 file s)
    (hnack : TrtpNetwork.retransmitNack crc32 s = some s') :
    Stocked crc32 file s' ∧ loopPositions s' = loopPositions s := by
  have hfound := (status_of_retransmitNack h.toIndexed h.found hnack).mpr h.nackInPlace
  have hindexed := h.toIndexed.retransmitNack hnack
  rcases retransmitNack_cases crc32 hnack with rfl | rfl | ⟨i, p, pkt, payload, -, -, -, rfl⟩
  · exact ⟨h, rfl⟩
  · exact absurd rfl hfound
  · have hpos : loopPositions { transmitted crc32 s .nack p pkt payload with nack := -1 } =
        loopPositions s := by
      rw [loopPositions_snoc (s := s) rfl, if_neg (by simp), List.append_nil]
    exact ⟨h.keep hindexed rfl rfl hpos rfl (fun h1 => absurd rfl h1) hfound, hpos⟩

theorem Stocked.resendTimeout (h : Stocked crc32 file s)
    (htime : TrtpNetwork.resendTimeout crc32 s e = some s') : Stocked crc32 file s' := by
  have hindexed := h.toIndexed.resendTimeout htime
  rcases resendTimeout_cases crc32 htime with rfl | ⟨p, pkt, payload, -, -, -, -, rfl⟩
  · exact h
  · exact h.keep hindexed rfl rfl (loopPositions_of_cause rfl (by simp)) rfl h.pending h.found

/-! ## A pass over the window -/

/-- The window ends with the last packet made, at the latest. -/
def WithinTable (s : Sender) : Prop :=
  s.base + s.window + (loopPositions s).length ≤ s.nextseqnum + s.seqnum

/-- **The body of the loop** finds the next packet. -/
theorem Stocked.sendNext (h : Stocked crc32 file s) (hwithin : WithinTable s) (hmay : MaySend s)
    (hnext : TrtpNetwork.sendNext crc32 e s = some s') :
    Stocked crc32 file s' ∧ WithinTable s' := by
  have hlt : (loopPositions s).length < s.seqnum := by
    have := hmay.1
    unfold WithinTable at hwithin
    omega
  have hunsent : (loopPositions s).length ∉ loopPositions s := by
    rw [h.inOrder]
    simp
  obtain ⟨-, hle, hslot⟩ := h.unsent _ hlt hunsent
  have hindexed := h.toIndexed.sendNext hnext
  have hnum := h.nextseqnum
  rcases sendNext_cases crc32 hnext with
    ⟨hlacks, rfl⟩ | ⟨i, p, pkt, payload, hi, hp, hpkt, hseq, -, rfl⟩
  · obtain ⟨pkt, hpkt, hne⟩ := hlacks _ (by omega) _ hslot
    rw [h.seqnum_eq hpkt] at hne
    exact absurd hnum.symm hne
  · -- no other packet of the table has its number
    have hpos : p = (loopPositions s).length := by
      have hmade := h.made i hi p hp
      have hrecent := h.le_add hi hp (by rw [hpkt]; simp)
      rw [h.seqnum_eq hpkt] at hseq
      unfold tableSize at hle hrecent
      exact eq_of_mod_eq (hseq.trans hnum) (by omega) (by omega)
    have hsnoc : loopPositions (sentNext crc32 e s p pkt payload) = loopPositions s ++ [p] := by
      rw [loopPositions_snoc (s := s) rfl, if_pos rfl]
    have hlen : (loopPositions (sentNext crc32 e s p pkt payload)).length =
        (loopPositions s).length + 1 := by
      rw [hsnoc, List.length_append, List.length_singleton]
    refine ⟨⟨hindexed, ?_, ?_, ?_, fun q hq hsent => ?_, h.pending, h.found⟩, ?_⟩
    · rw [hlen, List.range_succ, ← h.inOrder, hsnoc, hpos]
    · rw [hlen]
      exact hlt
    · rw [hlen]
      show (s.nextseqnum + 1) % 256 = _
      omega
    · rw [hsnoc] at hsent
      exact h.unsent q hq fun hold => hsent (List.mem_append_left _ hold)
    · unfold WithinTable at hwithin ⊢
      rw [hlen]
      show s.base + s.window + _ ≤ s.nextseqnum + 1 + s.seqnum
      omega

/-- **A pass over the window**, if it ends with the last packet made. -/
theorem Stocked.sendWindow (h : Stocked crc32 file s)
    (hpass : s.bufferUpdate = true → MaySend s → WithinTable s)
    (hsend : TrtpNetwork.sendWindow crc32 s e = some s') : Stocked crc32 file s' := by
  have hindexed := h.toIndexed.sendWindow hsend
  rcases sendWindow_cases crc32 hsend with ⟨-, rfl⟩ | ⟨hupdate, m, hm, hm'⟩
  · exact h
  obtain ⟨hstocked, -⟩ : Stocked crc32 file m ∧ (MaySend m → WithinTable m) := by
    refine sendLoop_rule crc32
      (P := fun a => Stocked crc32 file a ∧ (MaySend a → WithinTable a)) ?_ ⟨h, hpass hupdate⟩ hm
    rintro a b ⟨ha, hwithin⟩ hmay hb
    obtain ⟨hb', hwithin'⟩ := ha.sendNext (hwithin hmay) hmay hb
    exact ⟨hb', fun _ => hwithin'⟩
  rcases hm' with ⟨-, rfl⟩ | ⟨-, rfl⟩
  · exact hstocked
  · exact hstocked.keep hindexed rfl rfl rfl (Nat.mod_mod ..) hstocked.pending hstocked.found

theorem withinTable_retransmitNack (hnack : retransmitNack crc32 s = some s')
    (hpass : s.bufferUpdate = true → MaySend s → WithinTable s) :
    s'.bufferUpdate = true → MaySend s' → WithinTable s' := by
  rcases retransmitNack_cases crc32 hnack with rfl | rfl | ⟨i, p, pkt, payload, -, -, -, rfl⟩
  · exact hpass
  · exact hpass
  · intro hupdate hmay
    have hpos : loopPositions { transmitted crc32 s .nack p pkt payload with nack := -1 } =
        loopPositions s := loopPositions_of_cause rfl (by simp)
    unfold WithinTable
    rw [hpos]
    exact hpass hupdate hmay

/-- The condition on a pass, after reading. -/
theorem ReadsCounters.withinTable_iff (h : ReadsCounters crc32 s m e)
    (hpos : loopPositions m = loopPositions s) :
    (m.bufferUpdate = true → MaySend m → WithinTable m) ↔
      ((passCounters crc32 s e).bufferUpdate = true → MaySend (passCounters crc32 s e) →
        (passCounters crc32 s e).base + (passCounters crc32 s e).window +
          (loopPositions s).length ≤
            (passCounters crc32 s e).nextseqnum + (passCounters crc32 s e).seqnum) := by
  unfold WithinTable MaySend
  rw [hpos, h.base, h.window, h.lastAck, h.nextseqnum, h.seqnum, h.bufferUpdate]

/-- **The output half** finds what it looks up, and keeps the table. -/
theorem Stocked.senderReply (h : Stocked crc32 file s)
    (hpass : e.writable = .pollout → s.bufferUpdate = true → MaySend s → WithinTable s)
    (hreply : TrtpNetwork.senderReply crc32 s e = some s') : Stocked crc32 file s' := by
  rcases senderReply_cases crc32 hreply with ⟨-, rfl⟩ | ⟨hout, a, ha, ha'⟩
  · exact h
  obtain ⟨hstocked, -⟩ := h.retransmitNack ha
  rcases ha' with ⟨-, rfl⟩ | ⟨-, b, hb, hb'⟩
  · exact hstocked
  have hsent := hstocked.sendWindow (withinTable_retransmitNack ha (hpass hout)) hb
  rcases hb' with ⟨-, rfl⟩ | ⟨-, htime⟩
  · exact hsent
  · exact hsent.resendTimeout htime

/-- **One iteration** in turn finds what it looks up, and keeps the table. -/
theorem Stocked.step (h : Stocked crc32 file s) (hturn : InTurn crc32 s e)
    (hstep : readWriteLoopSender crc32 s e = some s') : Stocked crc32 file s' := by
  rcases readWriteLoopSender_cases crc32 hstep with ⟨-, rfl⟩ | ⟨hrunning, m, hm, hm'⟩
  · exact h
  have hstocked := h.senderReceive hrunning hturn.ack hturn.nack hm
  rcases hm' with ⟨-, rfl⟩ | ⟨hgoes, hreply⟩
  · exact hstocked
  refine hstocked.senderReply (fun hout => ?_) hreply
  have hwrites : WritesNow s e :=
    ⟨hrunning, hout, fun herror => hgoes ((status_senderReceive_iff hm hrunning).mpr herror)⟩
  exact ((h.toIndexed.readsCounters hm).withinTable_iff
    (loopPositions_congr (written_senderReceive crc32 hm))).mpr (hturn.pass hwrites)

/-! ## Why nothing less will do -/

/-- A pass past the last packet made looks up a number that is not in place. -/
theorem Stocked.withinTable_of_windowInPlace (h : Stocked crc32 file s) (hplace : WindowInPlace s)
    (hupdate : s.bufferUpdate = true) (hmay : MaySend s) : WithinTable s := by
  have hmade := h.sentMade
  have hnext := h.nextseqnum
  have hfull := h.full
  unfold WithinTable
  by_contra hpast
  have hin := hplace hupdate hmay (s.nextseqnum + (s.seqnum - (loopPositions s).length))
    (by omega) (by omega)
  have hlast := hin.1
  unfold slotOf tableSize at hlast
  unfold tableSize at hfull
  omega

/-- **When an iteration finds what it looks up**, if the ACK it reads is in turn. -/
theorem Stocked.found_iff (h : Stocked crc32 file s) (hack : AckInTurn crc32 s e)
    (hstep : readWriteLoopSender crc32 s e = some s') :
    s'.status ≠ .absentLookup ↔
      (WritesNow s e → NackInTurn crc32 s e) ∧ PassInTurn crc32 s e := by
  rcases readWriteLoopSender_writes hstep with ⟨hwrites, m, hm, -⟩ | ⟨hidle, hread⟩
  · constructor
    · intro hfound
      have hplace := (h.toIndexed.status_of_step h.found hstep).mp hfound
      have hgoes : m.status ≠ .readFailed := fun hfailed =>
        hwrites.2.2 ((status_senderReceive_iff hm hwrites.1).mp hfailed)
      obtain ⟨hnack, hwindow⟩ := hplace hwrites.1 hwrites.2.1 m hm hgoes
      have hnackTurn : NackInTurn crc32 s e := by
        intro hrunning nack hread hin
        have hf := inputFrame_of_nackRead hread hm
        have hpending := nack_of_nackRead hread hm
        have hlt := nack.seqnum.toNat_lt
        rw [if_pos hin] at hpending
        have hnum := hnack (by omega) (by omega)
        rw [hpending, Int.toNat_natCast, NumInPlace.congr hf.listPkt hf.seqnum,
          numInPlace_iff h.full hlt] at hnum
        obtain ⟨p, hp, hseq⟩ := hnum
        exact ⟨p, hp.1, hp, hseq⟩
      refine ⟨fun _ => hnackTurn, fun _ => ?_⟩
      have hstocked := h.senderReceive hwrites.1 hack hnackTurn hm
      exact ((h.toIndexed.readsCounters hm).withinTable_iff
        (loopPositions_congr (written_senderReceive crc32 hm))).mp
          (hstocked.withinTable_of_windowInPlace hwindow)
    · rintro ⟨hnack, hpass⟩
      exact (h.step ⟨hack, hnack hwrites, hpass⟩ hstep).found
  · refine iff_of_true ?_ ⟨fun hwrites => absurd hwrites hidle, fun hwrites => absurd hwrites hidle⟩
    rcases hread with ⟨-, hm⟩ | ⟨-, rfl⟩
    · exact status_senderReceive_ne crc32 hm h.found
    · exact h.found

/-! ## Runs -/

theorem stocked_of_starts (hgen : Genuine crc32 file s) (h : Starts s) :
    Stocked crc32 file s where
  toIndexed := indexed_of_starts hgen h
  inOrder := by simp [loopPositions, h.written]
  sentMade := by simp [loopPositions, h.written]
  nextseqnum := by simp [loopPositions, h.written, h.nextseqnum]
  unsent := by
    intro p hp _
    rw [h.seqnum] at hp
    refine ⟨by rw [h.seqnum]; exact hp, by rw [h.seqnum]; omega, ?_⟩
    rw [h.seqnum, Nat.add_sub_cancel, h.listPkt p hp]
  pending := fun h1 => absurd h.nack h1
  found := by
    rw [h.status]
    decide

/-- **No lookup of the sender misses** in the runs in which what is read is in turn: for every file
and every interleaving, in every state.  From every state of such a run, an iteration whose ACK is
in turn finds everything it looks up if and only if its NACK and its pass are. -/
theorem noAbsentLookup_of_run (crc32 : List UInt8 → UInt32) (file : List UInt8) (buffer : Memory)
    (freshAck : Pkt) (clockAck : UInt32) (fill : FillInputs) (s₀ : Sender)
    (hinit : Sender.init crc32 file buffer freshAck clockAck fill = some s₀)
    (es : List SenderPoll) (s : Sender)
    (hrun : Run (readWriteLoopSender crc32) (fun _ s e => InTurn crc32 s e) s₀ es s) :
    s.status ≠ .absentLookup ∧
      ∀ e s', AckInTurn crc32 s e → readWriteLoopSender crc32 s e = some s' →
        (s'.status ≠ .absentLookup ↔
          (WritesNow s e → NackInTurn crc32 s e) ∧ PassInTurn crc32 s e) := by
  obtain ⟨hgen, hstart⟩ := starts_of_init hinit
  have hinv : Stocked crc32 file s := by
    refine hrun.invariant (I := fun _ s => Stocked crc32 file s) (stocked_of_starts hgen hstart) ?_
    rintro es s e s' h hturn hstep
    exact h.step hturn hstep
  exact ⟨hinv.found, fun e s' hack hstep => hinv.found_iff hack hstep⟩

instance (s : Sender) (e : SenderPoll) : Decidable (AckInTurn crc32 s e) := by
  unfold AckInTurn
  infer_instance

instance (s : Sender) (e : SenderPoll) : Decidable (NackInTurn crc32 s e) := by
  unfold NackInTurn
  infer_instance

instance (s : Sender) (e : SenderPoll) : Decidable (PassInTurn crc32 s e) := by
  unfold PassInTurn
  infer_instance

instance (s : Sender) (e : SenderPoll) : Decidable (InTurn crc32 s e) :=
  decidable_of_iff (AckInTurn crc32 s e ∧ NackInTurn crc32 s e ∧ PassInTurn crc32 s e)
    ⟨fun ⟨hack, hnack, hpass⟩ => ⟨hack, hnack, hpass⟩, fun h => ⟨h.ack, h.nack, h.pass⟩⟩

/-- Packets 0 to 4 are sent, and packet 3 once more on a NACK. -/
theorem noAbsentLookup_nack :
    ∃ s : Sender, s.written.map Transmission.position = [0, 1, 2, 3, 4, 3] ∧
      s.status ≠ .absentLookup := by
  obtain ⟨s, hrun, hout⟩ := exists_run_of_follow (readWriteLoopSender zlibCrc32)
    (fun _ s e => InTurn zlibCrc32 s e) (startSender [])
    [writePoll, ackPoll 1 .pollout, nackPoll 3] (fun s => s.written.map Transmission.position)
    (show _ = some [0, 1, 2, 3, 4, 3] by decide +kernel)
  exact ⟨s, hout, (noAbsentLookup_of_run zlibCrc32 [] (fun _ => 0) blankPkt 0 blankFill
    (startSender []) (init_startSender []) _ s hrun).1⟩

/-- What is read is a packet that `pkt_decode` accepts. -/
def ReadsAccepted (crc32 : List UInt8 → UInt32) (s : Sender) (e : SenderPoll) : Prop :=
  ∀ result ∈ e.readable.result,
    (decodeRead crc32 s.buffer result e.beyond e.freshDecode).1 = .pktOk

instance (s : Sender) (e : SenderPoll) : Decidable (ReadsAccepted crc32 s e) := by
  unfold ReadsAccepted
  infer_instance

/-- **A NACK for a packet that was removed.**  ACKs 1 and 2, a second copy of ACK 1, and then the
NACK for packet 1, which is at `last_valid`. -/
theorem not_noAbsentLookup :
    ¬ ∀ (file : List UInt8) (buffer : Memory) (freshAck : Pkt) (clockAck : UInt32)
      (fill : FillInputs) (s₀ : Sender),
      Sender.init zlibCrc32 file buffer freshAck clockAck fill = some s₀ →
      ∀ (es : List SenderPoll) (s : Sender),
        Run (readWriteLoopSender zlibCrc32) (fun _ s e => ReadsAccepted zlibCrc32 s e)
          s₀ es s → s.status ≠ .absentLookup := by
  intro h
  obtain ⟨s, hrun, hstatus⟩ := exists_run_of_follow (readWriteLoopSender zlibCrc32)
    (fun _ s e => ReadsAccepted zlibCrc32 s e) (startSender [])
    [writePoll, ackPoll 1 .pollout, ackPoll 2 .pollout, ackPoll 1 .pollout, nackPoll 1]
    Sender.status (show _ = some SenderStatus.absentLookup by decide +kernel)
  exact h [] (fun _ => 0) blankPkt 0 blankFill (startSender []) (init_startSender []) _ s hrun
    hstatus

end TrtpNetwork
