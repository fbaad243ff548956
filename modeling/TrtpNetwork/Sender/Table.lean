import TrtpNetwork.Sender.Genuine

/-!
# The table of packets that are not acknowledged

A packet stays in the table until an ACK names it, and the table is refilled behind the leading
packets that were.  Seen from outside, the table is a window onto the file: with `c` packets made so
far, slot `i` is the place of packet `c - 50 + i` (`Windowed`).  `KeepsUnacked` is what this is for:
no packet that may have to be sent again is missing, none is there twice, and they are in order.

`Windowed.refill` is the step that decides about it.  The loop bound `i <= 50 - s` of the shift
covers the whole table only for runs of at most one free slot; for a longer one the last `s - 1`
packets are overwritten and others are left in two slots.  `keepsUnacked_of_run` is the result for
the runs in which the refill never meets a longer one, and `not_keepsUnacked` the loss of packet 50
when the ACKs for packets 2 and 1 arrive in this order.

What is true after any refill is less, and enough for lookups by number: the packets the table
points to are among the last 50 made, as far as they are still allocated (`Recent`).
-/

namespace TrtpNetwork

variable (crc32 : List UInt8 → UInt32)

/-- The ACKs an iteration processes, each with its number and the number of packets made before. -/
def processedAcks (s : Sender) (e : SenderPoll) : List (ℕ × ℕ) :=
  if s.status = .running then
    (ackRead crc32 s e).toList.map fun ack => (ack.seqnum.toNat, s.seqnum)
  else []

/-- One iteration of the sender, with a record of the ACKs processed. -/
def senderStep (t : Sender × List (ℕ × ℕ)) (e : SenderPoll) : Option (Sender × List (ℕ × ℕ)) :=
  (readWriteLoopSender crc32 t.1 e).map fun s => (s, t.2 ++ processedAcks crc32 t.1 e)

/-- An ACK for the sequence number of packet `p` was processed after the packet was made. -/
def Named (acks : List (ℕ × ℕ)) (p : ℕ) : Prop := ∃ a ∈ acks, a.1 = (p + 1) % 256 ∧ p < a.2

/-- Every packet that no ACK has named is in exactly one slot, and the slots are in order. -/
structure KeepsUnacked (acks : List (ℕ × ℕ)) (s : Sender) : Prop where
  once : ∀ p < s.seqnum, ¬ Named acks p → ∃! i, i < tableSize ∧ s.listPkt i = some p
  increasing : ∀ i j p q, i < j → j < tableSize → s.listPkt i = some p → s.listPkt j = some q →
    p < q

/-- The ACKs that are read are for packets that were sent. -/
def AcksSent (_es : List SenderPoll) (t : Sender × List (ℕ × ℕ)) (e : SenderPoll) : Prop :=
  ∀ ack ∈ ackRead crc32 t.1 e,
    ∃ w ∈ t.1.written, ack.seqnum.toNat = (w.position + 1) % 256

/-- At most one slot at the front of the table is free. -/
def ShortRun (s : Sender) : Prop :=
  ∀ n ∈ scanWhile Option.isNone s.listPkt tableSize 0, n ≤ 1

/-- If the iteration processes an ACK, at most one slot at the front is free when the table is
refilled. -/
def RefillsShortRun (s : Sender) (e : SenderPoll) : Prop :=
  ∀ ack ∈ ackRead crc32 s e,
    ∀ d ∈ deleteAcked { s with
        buffer := readBuffer s e
        base := ackedBase s ack.seqnum.toNat } ack.seqnum.toNat, ShortRun d

/-! ## The table as a window -/

/-- The table, with `c` packets made, as a window onto the packets `c - 50, …, c - 1`: free slots
are those of named packets, and the packets before the window are named. -/
structure Windowed (acks : List (ℕ × ℕ)) (t : Slots ℕ) (c : ℕ) : Prop where
  full : tableSize ≤ c
  slot : ∀ i < tableSize, ∀ p, t i = some p → p = c - tableSize + i
  free : ∀ i < tableSize, t i = none → Named acks (c - tableSize + i)
  gone : ∀ p < c - tableSize, Named acks p

variable {acks : List (ℕ × ℕ)} {t : Slots ℕ} {c : ℕ}

theorem Named.mono {acks' : List (ℕ × ℕ)} {p : ℕ} (h : Named acks p) :
    Named (acks ++ acks') p := by
  obtain ⟨a, ha, hrest⟩ := h
  exact ⟨a, List.mem_append_left _ ha, hrest⟩

theorem Windowed.mono (h : Windowed acks t c) (acks' : List (ℕ × ℕ)) :
    Windowed (acks ++ acks') t c where
  full := h.full
  slot := h.slot
  free := fun i hi hfree => (h.free i hi hfree).mono
  gone := fun p hp => (h.gone p hp).mono

/-- Freeing the slot of a packet that has been named. -/
theorem Windowed.delete (h : Windowed acks t c) {k p : ℕ} (hk : k < tableSize)
    (hp : t k = some p) (hnamed : Named acks p) :
    Windowed acks (Function.update t k none) c where
  full := h.full
  slot := by
    intro i hi q hq
    exact h.slot i hi q (eq_some_of_update_none hq)
  free := by
    intro i hi hfree
    by_cases hik : i = k
    · rw [hik, ← h.slot k hk p hp]
      exact hnamed
    · rw [Function.update_of_ne hik] at hfree
      exact h.free i hi hfree
  gone := h.gone

/-- **The refill moves the window**, if at most one slot at the front is free. -/
theorem Windowed.refill (h : Windowed acks t c) {n : ℕ} (hn : n ≤ 1)
    (hrun : ∀ i < n, t i = none) : Windowed acks (refilled t c n) (c + n) where
  full := Nat.le_add_right_of_le h.full
  slot := by
    intro i hi p hp
    have hfull := h.full
    rw [refilled_of_le_one hn hi] at hp
    split at hp
    · have := h.slot (i + n) (by omega) p hp
      omega
    · obtain rfl := Option.some.inj hp
      omega
  free := by
    intro i hi hfree
    have hfull := h.full
    rw [refilled_of_le_one hn hi] at hfree
    split at hfree
    · have := h.free (i + n) (by omega) hfree
      rwa [show c + n - tableSize + i = c - tableSize + (i + n) by omega]
    · cases hfree
  gone := by
    intro p hp
    have hfull := h.full
    by_cases hlt : p < c - tableSize
    · exact h.gone p hlt
    · -- the one packet that leaves the window was in the free slot at the front
      have hfree := h.free 0 (by decide) (hrun 0 (by omega))
      rwa [show p = c - tableSize + 0 by omega]

/-- What the window is for. -/
theorem Windowed.keepsUnacked {s : Sender} (h : Windowed acks s.listPkt s.seqnum) :
    KeepsUnacked acks s where
  once := by
    intro p hp hunnamed
    have hfull := h.full
    have hlo : s.seqnum - tableSize ≤ p := by
      by_contra hlt
      exact hunnamed (h.gone p (by omega))
    have hi : p - (s.seqnum - tableSize) < tableSize := by omega
    refine ⟨p - (s.seqnum - tableSize), ⟨hi, ?_⟩, ?_⟩
    · cases hslot : s.listPkt (p - (s.seqnum - tableSize)) with
      | none =>
        have hnamed := h.free _ hi hslot
        rw [show s.seqnum - tableSize + (p - (s.seqnum - tableSize)) = p by omega] at hnamed
        exact absurd hnamed hunnamed
      | some q =>
        rw [h.slot _ hi q hslot]
        congr 1
        omega
    · rintro j ⟨hj, hjp⟩
      have := h.slot j hj p hjp
      omega
  increasing := by
    intro i j p q hij hj hp hq
    have hpi := h.slot i (by omega) p hp
    have hqj := h.slot j hj q hq
    omega

/-! ## Any refill

A longer run of free slots leaves copies of some pointers behind, but the first slot of a packet is
moved by the same distance as every other or lost. -/

/-- The packets the table points to are among the last 50, as far as they are still allocated. -/
structure Recent (s : Sender) : Prop where
  made : ∀ i < tableSize, ∀ p, s.listPkt i = some p → p < s.seqnum
  first : ∀ i < tableSize, ∀ p, s.listPkt i = some p → s.packets p ≠ none →
    ∃ f ≤ i, s.listPkt f = some p ∧ p + tableSize = s.seqnum + f

variable {crc32} {s s' : Sender}

theorem Recent.le_add (h : Recent s) {i p : ℕ} (hi : i < tableSize) (hp : s.listPkt i = some p)
    (hpkt : s.packets p ≠ none) : s.seqnum ≤ p + tableSize := by
  obtain ⟨f, -, -, hf⟩ := h.first i hi p hp hpkt
  omega

/-- The table stays as it is, and no packet is allocated. -/
theorem Recent.mono (h : Recent s) (hlist : s'.listPkt = s.listPkt) (hseq : s'.seqnum = s.seqnum)
    (hpackets : ∀ p, s'.packets p ≠ none → s.packets p ≠ none) : Recent s' := by
  refine ⟨fun i hi p hp => ?_, fun i hi p hp hpkt => ?_⟩
  · rw [hlist] at hp
    rw [hseq]
    exact h.made i hi p hp
  · rw [hlist] at hp ⊢
    rw [hseq]
    exact h.first i hi p hp (hpackets p hpkt)

theorem Recent.deleteAcked (h : Recent s) {num : ℕ} (hdel : deleteAcked s num = some s') :
    Recent s' := by
  rcases deleteAcked_cases hdel with rfl | ⟨k, q, -, hk, hq, -, rfl⟩
  · exact h
  refine ⟨fun i hi p hp => h.made i hi p (eq_some_of_update_none hp), fun i hi p hp hpkt => ?_⟩
  have hpq : p ≠ q := by
    rintro rfl
    exact hpkt (Function.update_self ..)
  have hpkt' : s.packets p ≠ none := by
    have hupd : Function.update s.packets q none p ≠ none := hpkt
    rwa [Function.update_of_ne hpq] at hupd
  obtain ⟨f, hf, hfp, heq⟩ := h.first i hi p (eq_some_of_update_none hp) hpkt'
  refine ⟨f, hf, ?_, heq⟩
  have hfk : f ≠ k := by
    rintro rfl
    exact hpq (Option.some.inj (hfp.symm.trans hq))
  show Function.update s.listPkt k none f = some p
  rwa [Function.update_of_ne hfk]

/-- **Any refill keeps the table recent**, whatever it loses. -/
theorem Recent.refill (h : Recent s) {n : ℕ} {v : ℕ → Pkt} (hn : n ≤ tableSize)
    (hrun : ∀ i < n, s.listPkt i = none) (hlist : s'.listPkt = refilled s.listPkt s.seqnum n)
    (hseq : s'.seqnum = s.seqnum + n) (hpackets : s'.packets = overwrite s.packets s.seqnum n v) :
    Recent s' := by
  have hfrom : ∀ i p, s.listPkt i = some p → n ≤ i := by
    intro i p hp
    by_contra hlt
    rw [hrun i (by omega)] at hp
    cases hp
  have hold : ∀ i < tableSize, ∀ p, s.listPkt i = some p → s'.packets p ≠ none →
      ∃ f ≤ i, s.listPkt f = some p ∧ p + tableSize = s.seqnum + f := by
    intro i hi p hp hpkt
    rw [hpackets, overwrite_of_lt _ _ _ (h.made i hi p hp)] at hpkt
    exact h.first i hi p hp hpkt
  -- the first slot `f` of a packet moves to `f - n`, wherever its other slots are filled from
  have hmoved : ∀ i j p, j ≤ i + n → j < tableSize → j + n ≤ tableSize → s.listPkt j = some p →
      s'.packets p ≠ none → ∃ f ≤ i, refilled s.listPkt s.seqnum n f = some p ∧
        p + tableSize = s.seqnum + n + f := by
    intro i j p hji hj hjn hp hpkt
    obtain ⟨f, hf, hfp, heq⟩ := hold j hj p hp hpkt
    have := hfrom f p hfp
    refine ⟨f - n, by omega, ?_, by omega⟩
    rwa [refilled_apply hn (by omega), if_neg (by omega), if_pos (by omega),
      Nat.sub_add_cancel this]
  refine ⟨fun i hi p hp => ?_, fun i hi p hp hpkt => ?_⟩
  · rw [hlist, refilled_apply hn hi] at hp
    rw [hseq]
    split at hp
    · obtain rfl := Option.some.inj hp
      omega
    · split at hp
      · exact Nat.lt_add_right n (h.made (i + n) (by omega) p hp)
      · exact Nat.lt_add_right n (h.made i hi p hp)
  · rw [hlist, refilled_apply hn hi] at hp
    rw [hlist, hseq]
    split at hp
    · obtain rfl := Option.some.inj hp
      exact ⟨i, Nat.le_refl i, by rw [refilled_apply hn hi, if_pos (by omega)], by omega⟩
    · split at hp
      · exact hmoved i (i + n) p (Nat.le_refl _) (by omega) (by omega) hp hpkt
      · exact hmoved i i p (Nat.le_add_right i n) hi (by omega) hp hpkt

theorem Recent.handleAck (h : Recent s) {fill : FillInputs} {ack : Pkt}
    (hack : TrtpNetwork.handleAck crc32 fill s ack = some s') : Recent s' := by
  obtain ⟨d, m, hd, hm, rfl⟩ := handleAck_cases crc32 hack
  have hbase : Recent { s with base := ackedBase s ack.seqnum.toNat } :=
    h.mono rfl rfl fun _ hp => hp
  obtain ⟨n, hn, rfl⟩ := clearAndFillBuffer_cases crc32 hm
  obtain ⟨hlt, -, hrun⟩ := scanWhile_zero_eq_some_iff.mp hn
  exact (hbase.deleteAcked hd).refill hlt.le
    (fun i hi => Option.isNone_iff_eq_none.mp (hrun i hi)) rfl rfl rfl

theorem Recent.senderReceive (h : Recent s) {e : SenderPoll}
    (hrcv : TrtpNetwork.senderReceive crc32 s e = some s') : Recent s' := by
  rcases senderReceive_cases crc32 hrcv with ⟨-, hf⟩ | ⟨ack, -, hack⟩
  · refine h.mono hf.listPkt hf.seqnum fun q hq => ?_
    rwa [← hf.packets]
  · have hbuf : Recent { s with buffer := readBuffer s e } := h.mono rfl rfl fun _ hq => hq
    exact hbuf.handleAck hack

variable (crc32) in
theorem Recent.transmitted (h : Recent s) (cause : SendCause) (p : ℕ) (pkt : Pkt)
    (payload : List UInt8) : Recent (transmitted crc32 s cause p pkt payload) :=
  h.mono rfl rfl fun _ hq => hq

theorem Recent.restamped (h : Recent s) {p : ℕ} {pkt : Pkt} (hpkt : s.packets p = some pkt)
    (clock : UInt32) : Recent (restamped s p pkt clock) := by
  refine h.mono rfl rfl fun q hq => ?_
  by_cases hqp : q = p
  · rw [hqp, hpkt]
    simp
  · have hupd : Function.update s.packets p _ q ≠ none := hq
    rwa [Function.update_of_ne hqp] at hupd

theorem Recent.sendNext (h : Recent s) {e : SenderPoll}
    (hnext : TrtpNetwork.sendNext crc32 e s = some s') : Recent s' := by
  rcases sendNext_cases crc32 hnext with ⟨-, rfl⟩ | ⟨i, p, pkt, payload, -, -, hpkt, -, -, rfl⟩
  · exact h.mono rfl rfl fun _ hq => hq
  · have hsent := h.transmitted crc32 .sendLoop p pkt payload
    have hstamped := hsent.restamped hpkt (e.clockSend s.nextseqnum)
    exact hstamped.mono rfl rfl fun _ hq => hq

theorem Recent.retransmitNack (h : Recent s)
    (hnack : TrtpNetwork.retransmitNack crc32 s = some s') : Recent s' := by
  rcases retransmitNack_cases crc32 hnack with rfl | rfl | ⟨i, p, pkt, payload, -, -, -, rfl⟩
  · exact h
  · exact h.mono rfl rfl fun _ hq => hq
  · exact (h.transmitted crc32 .nack p pkt payload).mono rfl rfl fun _ hq => hq

theorem Recent.resendTimeout (h : Recent s) {e : SenderPoll}
    (htime : TrtpNetwork.resendTimeout crc32 s e = some s') : Recent s' := by
  rcases resendTimeout_cases crc32 htime with rfl | ⟨p, pkt, payload, -, hpkt, -, -, rfl⟩
  · exact h
  · exact (h.restamped hpkt e.clockResend).transmitted crc32 .timeout p _ payload

theorem recent_of_starts (h : Starts s) : Recent s where
  made := by
    intro i hi p hp
    rw [h.listPkt i hi] at hp
    rw [← Option.some.inj hp, h.seqnum]
    exact hi
  first := by
    intro i hi p hp _
    rw [h.listPkt i hi] at hp
    obtain rfl := Option.some.inj hp
    exact ⟨i, Nat.le_refl i, h.listPkt i hi, by rw [h.seqnum, Nat.add_comm]⟩

/-! ## Runs -/

variable {file : List UInt8}

/-- The packet whose slot an ACK frees is the one it names. -/
theorem named_of_holds (h : Genuine crc32 file s) {k p num : ℕ} (hnum : num < 256)
    (hp : s.listPkt k = some p) (hholds : HoldsSeqnum s (ackedSeqnum num) k)
    (acks : List (ℕ × ℕ)) : Named (acks ++ [(num, s.seqnum)]) p := by
  obtain ⟨q, pkt, hq, hpkt, hseq⟩ := hholds
  obtain rfl := Option.some.inj (hp.symm.trans hq)
  rw [h.seqnum_eq hpkt] at hseq
  refine ⟨(num, s.seqnum), List.mem_append_right _ (List.mem_singleton_self _), ?_,
    (h.packet p pkt hpkt).1⟩
  unfold ackedSeqnum at hseq
  split at hseq <;> simp only <;> omega

/-- An ACK is processed: the slot of its packet is freed, and the window moves. -/
theorem Windowed.handleAck (hgen : Genuine crc32 file s)
    (h : Windowed acks s.listPkt s.seqnum) {fill : FillInputs} {ack : Pkt}
    (hshort : ∀ d ∈ deleteAcked { s with base := ackedBase s ack.seqnum.toNat } ack.seqnum.toNat,
      ShortRun d) (hack : TrtpNetwork.handleAck crc32 fill s ack = some s') :
    Windowed (acks ++ [(ack.seqnum.toNat, s.seqnum)]) s'.listPkt s'.seqnum := by
  obtain ⟨d, m, hd, hm, rfl⟩ := handleAck_cases crc32 hack
  have hbase : Genuine crc32 file { s with base := ackedBase s ack.seqnum.toNat } :=
    hgen.mono rfl rfl rfl fun _ _ hq => hq
  have hdel : d.seqnum = s.seqnum ∧
      Windowed (acks ++ [(ack.seqnum.toNat, s.seqnum)]) d.listPkt s.seqnum := by
    rcases deleteAcked_cases hd with rfl | ⟨k, p, -, hk, hp, hholds, rfl⟩
    · exact ⟨rfl, h.mono _⟩
    · refine ⟨rfl, (h.mono _).delete hk hp ?_⟩
      exact named_of_holds hbase ack.seqnum.toNat_lt hp hholds acks
  obtain ⟨hseq, hwin⟩ := hdel
  obtain ⟨n, hn, rfl⟩ := clearAndFillBuffer_cases crc32 hm
  obtain ⟨-, -, hrun⟩ := scanWhile_zero_eq_some_iff.mp hn
  have hrefill := hwin.refill (hshort d hd n hn)
    fun i hi => Option.isNone_iff_eq_none.mp (hrun i hi)
  show Windowed _ (refilled d.listPkt d.seqnum n) (d.seqnum + n)
  rw [hseq]
  exact hrefill

/-- **One iteration.** -/
theorem Windowed.step (hgen : Genuine crc32 file s) (h : Windowed acks s.listPkt s.seqnum)
    {e : SenderPoll} (hshort : RefillsShortRun crc32 s e)
    (hstep : readWriteLoopSender crc32 s e = some s') :
    Windowed (acks ++ processedAcks crc32 s e) s'.listPkt s'.seqnum := by
  rcases readWriteLoopSender_cases crc32 hstep with ⟨hstop, rfl⟩ | ⟨hrunning, m, hm, hm'⟩
  · rw [processedAcks, if_neg hstop, List.append_nil]
    exact h
  · have hrcv : Windowed (acks ++ processedAcks crc32 s e) m.listPkt m.seqnum := by
      rw [processedAcks, if_pos hrunning]
      rcases senderReceive_cases crc32 hm with ⟨hno, hf⟩ | ⟨ack, hack, hhandle⟩
      · rw [hno, hf.listPkt, hf.seqnum]
        simpa using h
      · have hbuf : Genuine crc32 file { s with buffer := readBuffer s e } :=
          hgen.mono rfl rfl rfl fun _ _ hq => hq
        rw [hack]
        exact Windowed.handleAck hbuf h (hshort ack hack) hhandle
    rcases hm' with ⟨-, rfl⟩ | ⟨-, hreply⟩
    · exact hrcv
    · have hframe := outputFrame_of_senderReply crc32 hreply
      rwa [hframe.listPkt, hframe.seqnum]

theorem windowed_of_starts (h : Starts s) : Windowed [] s.listPkt s.seqnum := by
  refine ⟨by rw [h.seqnum], ?_, ?_, ?_⟩
  · intro i hi p hp
    rw [h.listPkt i hi] at hp
    rw [h.seqnum, ← Option.some.inj hp]
    omega
  · intro i hi hfree
    rw [h.listPkt i hi] at hfree
    cases hfree
  · intro p hp
    rw [h.seqnum] at hp
    omega

/-- **The sender loses no unacknowledged packet** in the runs in which the refill never finds more
than one free slot at the front: for every file, whatever is read, in every state every packet that
no ACK has named is in exactly one slot, and the slots are in order. -/
theorem keepsUnacked_of_run (crc32 : List UInt8 → UInt32) (file : List UInt8) (buffer : Memory)
    (freshAck : Pkt) (clockAck : UInt32) (fill : FillInputs) (s₀ : Sender)
    (hinit : Sender.init crc32 file buffer freshAck clockAck fill = some s₀)
    (es : List SenderPoll) (t : Sender × List (ℕ × ℕ))
    (hrun : Run (senderStep crc32) (fun _ t e => RefillsShortRun crc32 t.1 e) (s₀, []) es t) :
    KeepsUnacked t.2 t.1 := by
  obtain ⟨hgen, hstart⟩ := starts_of_init hinit
  have hinv : Genuine crc32 file t.1 ∧ Windowed t.2 t.1.listPkt t.1.seqnum := by
    refine hrun.invariant (I := fun _ t => Genuine crc32 file t.1 ∧
      Windowed t.2 t.1.listPkt t.1.seqnum) ⟨hgen, windowed_of_starts hstart⟩ ?_
    rintro es ⟨s, acks⟩ e t' ⟨hgen, hwin⟩ hshort hstep
    obtain ⟨s', hs', rfl⟩ := Option.map_eq_some_iff.mp hstep
    exact ⟨hgen.step hs', hwin.step hgen hshort hs'⟩
  exact hinv.2.keepsUnacked

/-! ## The loss -/

instance (es : List SenderPoll) (t : Sender × List (ℕ × ℕ)) (e : SenderPoll) :
    Decidable (AcksSent crc32 es t e) := by
  unfold AcksSent
  infer_instance

instance (s : Sender) : Decidable (ShortRun s) := by
  unfold ShortRun
  infer_instance

instance (s : Sender) (e : SenderPoll) : Decidable (RefillsShortRun crc32 s e) := by
  unfold RefillsShortRun
  infer_instance

/-- Fresh structures of zeros, and a clock that stands still. -/
def blankFill : FillInputs where
  fresh := fun _ => blankPkt
  clock := fun _ => 0

/-- An iteration in which nothing is read and the socket is writable. -/
def writePoll : SenderPoll where
  readable := .idle
  writable := .pollout
  beyond := fun _ => 0
  freshDecode := blankPkt
  fill := blankFill
  clockSend := fun _ => 0
  clockTimer := 0
  clockResend := 0

/-- An iteration that reads the ACK with the given number and the full window. -/
def ackPoll (num : ℕ) (writable : Writable) : SenderPoll :=
  { writePoll with
    readable := .pollin (.bytes (encoding zlibCrc32 (controlPkt blankPkt .ack num 4 0) []))
    writable := writable }

theorem isSome_init (file : List UInt8) :
    (Sender.init zlibCrc32 file (fun _ => 0) blankPkt 0 blankFill).isSome = true := by
  obtain ⟨s, hs, -⟩ := sender_init_eq zlibCrc32 file (fun _ => 0) blankPkt 0 blankFill
  rw [hs]
  rfl

/-- The sender of a file, with memory of zeros. -/
def startSender (file : List UInt8) : Sender :=
  (Sender.init zlibCrc32 file (fun _ => 0) blankPkt 0 blankFill).get (isSome_init file)

theorem init_startSender (file : List UInt8) :
    Sender.init zlibCrc32 file (fun _ => 0) blankPkt 0 blankFill = some (startSender file) :=
  (Option.some_get _).symm

/-- Packet 0 is acknowledged; then packet 2 is, with packet 1 still missing at the front. -/
theorem keepsUnacked_hole :
    ∃ t : Sender × List (ℕ × ℕ), t.1.listPkt 0 = some 1 ∧ t.1.listPkt 1 = none ∧
      KeepsUnacked t.2 t.1 := by
  obtain ⟨t, hrun, hview⟩ := exists_run_of_follow (senderStep zlibCrc32)
    (fun _ t e => RefillsShortRun zlibCrc32 t.1 e) (startSender [], [])
    [writePoll, ackPoll 1 .pollout, ackPoll 3 .pollout]
    (fun t => (t.1.listPkt 0, t.1.listPkt 1)) (show _ = some (some 1, none) by decide +kernel)
  obtain ⟨h0, h1⟩ := Prod.mk.inj hview
  exact ⟨t, h0, h1, keepsUnacked_of_run zlibCrc32 [] (fun _ => 0) blankPkt 0 blankFill
    (startSender []) (init_startSender []) _ t hrun⟩

/-- **A refill behind two free slots loses a packet.**  Packets 0 to 4 are sent; the ACK for packet
0 is followed by the ones for 2 and 1, in this order.  The refill then finds slots 0 and 1 free, and
packet 50, which was in slot 49, is in the table no more. -/
theorem not_keepsUnacked :
    ¬ ∀ (file : List UInt8) (buffer : Memory) (freshAck : Pkt) (clockAck : UInt32)
      (fill : FillInputs) (s₀ : Sender),
      Sender.init zlibCrc32 file buffer freshAck clockAck fill = some s₀ →
      ∀ (es : List SenderPoll) (t : Sender × List (ℕ × ℕ)),
        Run (senderStep zlibCrc32) (AcksSent zlibCrc32) (s₀, []) es t →
        KeepsUnacked t.2 t.1 := by
  intro h
  obtain ⟨t, hrun, hview⟩ := exists_run_of_follow (senderStep zlibCrc32) (AcksSent zlibCrc32)
    (startSender [], [])
    [writePoll, ackPoll 1 .pollout, ackPoll 3 .pollout, ackPoll 2 .pollout]
    (fun t => (t.1.seqnum, t.2, decide (∀ i < tableSize, t.1.listPkt i ≠ some 50)))
    (show _ = some (53, [(1, 50), (3, 51), (2, 51)], true) by decide +kernel)
  obtain ⟨hseq, hrest⟩ := Prod.mk.inj hview
  obtain ⟨hacks, hlost⟩ := Prod.mk.inj hrest
  have hunnamed : ¬ Named t.2 50 := by
    rw [hacks]
    rintro ⟨a, ha, hnum, -⟩
    revert a
    decide
  obtain ⟨i, ⟨hi, hslot⟩, -⟩ := (h [] (fun _ => 0) blankPkt 0 blankFill (startSender [])
    (init_startSender []) _ t hrun).once 50 (by omega) hunnamed
  exact of_decide_eq_true hlost i hi hslot

end TrtpNetwork
