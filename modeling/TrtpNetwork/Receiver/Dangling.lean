import TrtpNetwork.Receiver.Pointers

/-!
# Dangling pointers

After a flush that leaves a pointer in two slots, the loop with pointers and the loop with packets
part: where the one comes to a dangling pointer, and has no outcome, the other goes on with a clean
copy.  But it is only there that they part.  As long as the loop with pointers goes on, so does the
loop with packets, and prints, sends and counts the same.

So every run of the loop with pointers is one of the loop with packets, whatever is read and however
the table is flushed (`exists_viewsLive_of_run`), and what is known of every run of the loop with
packets holds of it.
-/

namespace TrtpNetwork

/-- The variables are the same, and the table points to the packets, or to what was released. -/
structure ViewsLive (q : PointerReceiver) (r : Receiver) : Prop where
  vars : SameVars q r
  table : ShowsLive q.listPkt q.heap q.allocated r.listPkt

variable {crc32 : List UInt8 → UInt32} {q q' : PointerReceiver} {r : Receiver} {e : ReceiverPoll}

/-! ## Printing -/

/-- **A slot is written out.**  The other slots that point to the structure are left as they
are. -/
theorem simulates_printSlot (h : ViewsLive q r) (i : ℕ) :
    Simulates (fun q' r' => ViewsLive q' r' ∧ q'.listPkt = q.listPkt ∧ r'.listPkt = r.listPkt)
      (Pointers.printSlot q i) (printSlot r i) := by
  intro q' hq'
  obtain ⟨table, rfl⟩ : ∃ table, r = { q.vars with listPkt := table } := ⟨_, h.vars⟩
  have htable : ShowsLive q.listPkt q.heap q.allocated table := h.table
  obtain ⟨block, hslot, hrest⟩ := Option.bind_eq_some_iff.mp hq'
  obtain ⟨pkt, hpkt, hrest⟩ := Option.bind_eq_some_iff.mp hrest
  obtain ⟨bytes, hbytes, hrest⟩ := Option.bind_eq_some_iff.mp hrest
  obtain ⟨_, hdel, hrest⟩ := Option.bind_eq_some_iff.mp hrest
  obtain rfl := Option.some.inj hrest
  have hshown : table i = some pkt := htable.shows i block pkt hslot hpkt
  refine ⟨{ q.vars with listPkt := table, stdout := q.vars.stdout ++ [bytes] }, ?_,
    ⟨rfl, htable.release block⟩, rfl, rfl⟩
  simp [printSlot, hshown, hbytes, hdel]

theorem simulates_printAndRemove (h : ViewsLive q r) (i : ℕ) :
    Simulates ViewsLive (Pointers.printAndRemove q i) (printAndRemove r i) := by
  refine (simulates_printSlot h i).bind ?_
  rintro q' r' ⟨h', -, -⟩
  obtain ⟨table, rfl⟩ : ∃ table, r' = { q'.vars with listPkt := table } := ⟨_, h'.vars⟩
  exact simulates_some ⟨rfl, h'.table.empty i⟩

/-- **The flush.** -/
theorem simulates_clearAndFillBufferR (h : ViewsLive q r) :
    Simulates ViewsLive (Pointers.clearAndFillBufferR q) (clearAndFillBufferR r) := by
  obtain ⟨table, rfl⟩ : ∃ table, r = { q.vars with listPkt := table } := ⟨_, h.vars⟩
  have htable : ShowsLive q.listPkt q.heap q.allocated table := h.table
  have hscan : Pointers.firstEmptyPlace q.listPkt = firstEmptyPlace table :=
    htable.scanWhile_isSome receiveCells 0
  unfold Pointers.clearAndFillBufferR clearAndFillBufferR
  simp only [hscan]
  cases hs : firstEmptyPlace table with
  | none => exact simulates_none
  | some s =>
    simp only [Option.bind_eq_bind, Option.bind_some]
    have hmoved : ViewsLive
        { q with vars := { q.vars with baseR := (q.vars.baseR + s).tmod realWindow } }
        { { q.vars with listPkt := table } with
          baseR := (q.vars.baseR + s).tmod realWindow } := ⟨rfl, htable⟩
    refine (simulates_foldlM (fun i _ _ h => simulates_printAndRemove h i) (List.range s)
      hmoved).bind ?_
    rintro q₁ r₁ h₁ q₂ hq₂
    -- the loop that prints the numbers may come to a dangling pointer, and changes nothing
    obtain ⟨-, -, hq₂⟩ := Option.bind_eq_some_iff.mp hq₂
    obtain rfl := Option.some.inj hq₂
    obtain ⟨table₁, rfl⟩ : ∃ table, r₁ = { q₁.vars with listPkt := table } := ⟨_, h₁.vars⟩
    exact ⟨_, rfl, rfl, h₁.table.shiftDown s (realWindow - s)⟩

/-! ## The input half -/

/-- The loop at the end of the transfer tests a slot and writes it out in one turn; the packets of
the slots are tested first, and written out then. -/
theorem closeLoop_viewsLive {fuel i : ℕ} (h : ViewsLive q r)
    (hq' : Pointers.closeLoop fuel i q = some q') :
    ∃ n r', scanWhile (fun p => p.any fun pkt => pkt.length > 0) r.listPkt fuel i = some (i + n) ∧
      (List.range' i n).foldlM printSlot r = some r' ∧ ViewsLive q' r' := by
  induction fuel generalizing i q r with
  | zero => cases hq'
  | succ fuel ih =>
    rw [Pointers.closeLoop] at hq'
    rw [scanWhile]
    cases hslot : q.listPkt i with
    | none =>
      have hnone : r.listPkt i = none := (h.table.eq_none_iff i).mpr hslot
      simp only [hslot] at hq'
      obtain rfl := Option.some.inj hq'
      exact ⟨0, r, by simp [hnone], rfl, h⟩
    | some block =>
      simp only [hslot] at hq'
      obtain ⟨pkt, hpkt, hq'⟩ := Option.bind_eq_some_iff.mp hq'
      have hshown : r.listPkt i = some pkt := h.table.shows i block pkt hslot hpkt
      by_cases hpos : pkt.length > 0
      · rw [if_pos hpos] at hq'
        obtain ⟨q₁, hq₁, hrest⟩ := Option.bind_eq_some_iff.mp hq'
        obtain ⟨r₁, hr₁, h₁, -, htable⟩ := simulates_printSlot h i q₁ hq₁
        obtain ⟨n, r', hscan, hprint, h'⟩ := ih h₁ hrest
        rw [htable] at hscan
        refine ⟨n + 1, r', ?_, ?_, h'⟩
        · rw [hshown, if_pos (by simpa using hpos), hscan]
          congr 1
          omega
        · rw [List.range'_succ, List.foldlM_cons, hr₁]
          exact hprint
      · rw [if_neg hpos] at hq'
        obtain rfl := Option.some.inj hq'
        refine ⟨0, r, ?_, rfl, h⟩
        rw [hshown, if_neg (by simpa using hpos)]
        rfl

/-- **The end of the transfer.** -/
theorem simulates_closeTransfer (h : ViewsLive q r) (pkt : Pkt) :
    Simulates ViewsLive (Pointers.closeTransfer q pkt) (closeTransfer r pkt) := by
  intro q' hq'
  obtain ⟨q₁, hq₁, hrest⟩ := Option.bind_eq_some_iff.mp hq'
  obtain ⟨_, hdel, hrest⟩ := Option.bind_eq_some_iff.mp hrest
  obtain rfl := Option.some.inj hrest
  obtain ⟨n, r₁, hscan, hprint, h₁⟩ := closeLoop_viewsLive h hq₁
  obtain ⟨table, rfl⟩ : ∃ table, r₁ = { q₁.vars with listPkt := table } := ⟨_, h₁.vars⟩
  rw [Nat.zero_add] at hscan
  rw [← List.range_eq_range'] at hprint
  refine ⟨{ q₁.vars with listPkt := table, status := .endOfData }, ?_, rfl, h₁.table⟩
  simp [closeTransfer, hscan, hprint, hdel]

/-- **A packet is put into its slot, or dropped.** -/
theorem simulates_placePacket (h : ViewsLive q r) (pkt : Pkt) :
    Simulates ViewsLive (Pointers.placePacket q pkt) (placePacket r pkt) := by
  obtain ⟨table, rfl⟩ : ∃ table, r = { q.vars with listPkt := table } := ⟨_, h.vars⟩
  have htable : ShowsLive q.listPkt q.heap q.allocated table := h.table
  obtain ⟨base, hq, hr⟩ := exists_base q table pkt.seqnum.toNat
  rw [Pointers.placePacket, placePacket]
  simp only [hq, hr]
  cases slotIndex pkt.seqnum.toNat base with
  | none => exact simulates_none
  | some k =>
    simp only [Option.bind_eq_bind, Option.bind_some]
    by_cases hfree : q.listPkt k = none
    · rw [if_pos hfree, if_pos ((htable.eq_none_iff k).mpr hfree)]
      exact simulates_some ⟨rfl, htable.store k pkt⟩
    · rw [if_neg hfree, if_neg (mt (htable.eq_none_iff k).mp hfree)]
      split
      · exact fun q' hq' => by
          obtain ⟨_, hdel, hrest⟩ := Option.bind_eq_some_iff.mp hq'
          obtain rfl := Option.some.inj hrest
          rw [hdel]
          exact ⟨_, rfl, rfl, htable⟩
      · exact simulates_some ⟨rfl, htable⟩

/-- **What is decoded is handled.** -/
theorem simulates_handlePacket (h : ViewsLive q r) (decoded : PktStatusCode × Pkt) :
    Simulates ViewsLive (Pointers.handlePacket q decoded) (handlePacket r decoded) := by
  obtain ⟨table, rfl⟩ : ∃ table, r = { q.vars with listPkt := table } := ⟨_, h.vars⟩
  have htable : ShowsLive q.listPkt q.heap q.allocated table := h.table
  unfold Pointers.handlePacket handlePacket
  by_cases hbad : decoded.1 ≠ .pktOk ∨ decoded.2.type = .nack
  · rw [if_pos hbad, if_pos hbad]
    refine simulates_some ⟨?_, htable⟩
    simp only [SameVars, badPacket, Pointers.badPacket, htable.eq_none_iff]
  rw [if_neg hbad, if_neg hbad]
  unfold Pointers.goodPacket goodPacket
  obtain ⟨time, hq, hr⟩ := exists_lastTimePkt q table decoded.2.timestamp
  simp only [hq, hr]
  have hstamped : ViewsLive { q with vars := { q.vars with lastTimePkt := time } }
      { { q.vars with listPkt := table } with lastTimePkt := time } := ⟨rfl, htable⟩
  by_cases hend : decoded.2.length = 0 ∧ decoded.2.type = .data
  · rw [if_pos hend, if_pos hend]
    exact simulates_closeTransfer hstamped decoded.2
  · rw [if_neg hend, if_neg hend]
    exact simulates_placePacket hstamped decoded.2

theorem simulates_receive (h : ViewsLive q r) (e : ReceiverPoll) :
    Simulates ViewsLive (Pointers.receive crc32 q e) (receive crc32 r e) := by
  obtain ⟨table, rfl⟩ : ∃ table, r = { q.vars with listPkt := table } := ⟨_, h.vars⟩
  unfold Pointers.receive receive
  cases e.readable with
  | idle => exact simulates_some h
  | other => exact simulates_some ⟨rfl, h.table⟩
  | pollin result =>
    have hread : ViewsLive
        { q with vars := { q.vars with buffer := readInto q.vars.buffer result } }
        { { q.vars with listPkt := table } with buffer := readInto q.vars.buffer result } :=
      ⟨rfl, h.table⟩
    exact simulates_handlePacket hread
      (decodeRead crc32 q.vars.buffer result e.beyond e.freshRcv)

/-! ## The output half -/

theorem simulates_onVars {f : Receiver → Option Receiver} (hf : SparesTable f)
    (h : ViewsLive q r) : Simulates ViewsLive (Pointers.onVars f q) (f r) := by
  refine simulates_of_rel (rel_mono (rel_onVars_vars hf h.vars) ?_)
  rintro q' r' ⟨hvars, htable, vars, rfl⟩
  refine ⟨hvars, ?_⟩
  rw [htable]
  exact h.table

/-- **The flush and its ACK.** -/
theorem simulates_sendAck (h : ViewsLive q r) (fresh : Pkt) :
    Simulates ViewsLive (Pointers.sendAck crc32 q fresh) (sendAck crc32 r fresh) := by
  have hpending : r.partialAck = q.vars.partialAck := by rw [h.vars]
  have hnack : r.nack = q.vars.nack := by rw [h.vars]
  unfold Pointers.sendAck sendAck
  rw [hpending, hnack]
  split
  · refine (simulates_clearAndFillBufferR h).bind fun q₁ r₁ h₁ => ?_
    refine (simulates_onVars
      (sparesTable_sendReply crc32 fresh Receiver.partialAck (fun _ _ => rfl) 1) h₁).bind ?_
    intro q₂ r₂ h₂
    obtain ⟨table, rfl⟩ : ∃ table, r₂ = { q₂.vars with listPkt := table } := ⟨_, h₂.vars⟩
    by_cases h0 : q₂.vars.partialAck = 0
    · rw [if_pos h0, if_pos h0]
      exact simulates_some ⟨rfl, h₂.table⟩
    · rw [if_neg h0, if_neg h0]
      exact simulates_some ⟨rfl, h₂.table⟩
  · exact simulates_some h

theorem simulates_reply (h : ViewsLive q r) (e : ReceiverPoll) :
    Simulates ViewsLive (Pointers.reply crc32 q e) (reply crc32 r e) := by
  unfold Pointers.reply reply
  cases e.writable with
  | idle => exact simulates_some h
  | other =>
    obtain ⟨table, rfl⟩ : ∃ table, r = { q.vars with listPkt := table } := ⟨_, h.vars⟩
    exact simulates_some ⟨rfl, h.table⟩
  | pollout =>
    refine (simulates_onVars (sparesTable_sendNack crc32 e.freshNack) h).bind ?_
    exact fun q₁ r₁ h₁ => simulates_sendAck h₁ e.freshAck

/-! ## Runs -/

/-- **One iteration** of the loop with pointers, if it has an outcome, is one of the loop with
packets. -/
theorem simulates_readWriteLoop (h : ViewsLive q r) (e : ReceiverPoll) :
    Simulates ViewsLive (Pointers.readWriteLoop crc32 q e) (readWriteLoop crc32 r e) := by
  have hstatus : r.status = q.vars.status := by rw [h.vars]
  unfold Pointers.readWriteLoop readWriteLoop
  rw [hstatus]
  by_cases hon : q.vars.status = .running
  · rw [if_pos hon, if_pos hon]
    refine (simulates_receive h e).bind fun q₁ m h₁ => ?_
    have hstatus' : m.status = q₁.vars.status := by rw [h₁.vars]
    rw [hstatus']
    by_cases hend : q₁.vars.status = .endOfData
    · rw [if_pos hend, if_pos hend]
      exact simulates_some h₁
    · rw [if_neg hend, if_neg hend]
      exact simulates_reply h₁ e
  · rw [if_neg hon, if_neg hon]
    exact simulates_some h

theorem viewsLive_init (buffer : Memory) :
    ViewsLive (PointerReceiver.init buffer) (Receiver.init buffer) := by
  refine ⟨rfl, fun k => iff_of_true rfl rfl, fun k block pkt hk => ?_, fun k block hk => ?_⟩
  · cases hk
  · cases hk

/-- **A run with pointers is a run with packets**, whatever is read and however the table is
flushed.  A condition on the variables beside the table is kept. -/
theorem exists_viewsLive_of_run {buffer : Memory} {es : List ReceiverPoll} {P : Receiver → Prop}
    (hP : ∀ r table, P r → P { r with listPkt := table })
    (hrun : Run (Pointers.readWriteLoop crc32) (fun _ q _ => P q.vars)
      (PointerReceiver.init buffer) es q) :
    ∃ r, Run (readWriteLoop crc32) (fun _ r _ => P r) (Receiver.init buffer) es r ∧
      ViewsLive q r := by
  refine exists_run_of_simulates (viewsLive_init buffer) (fun _ q r _ h hq => ?_)
    (fun _ _ _ e h _ => simulates_readWriteLoop h e) hrun
  rw [h.vars]
  exact hP q.vars r.listPkt hq

end TrtpNetwork
