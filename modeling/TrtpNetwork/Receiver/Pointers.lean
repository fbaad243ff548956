import TrtpNetwork.Library.Bisimulation
import TrtpNetwork.Library.OwnedSlots
import TrtpNetwork.Receiver.Rejected

/-!
# The receiver with pointers

`Receiver.Loop` has a table of packets where `read_write_loop` has a table of pointers to them.
Here is the loop with its pointers: `heap` has the structures that are allocated, by number, and
`pkt_del` takes one out of it.  To follow a pointer to a structure that was released has no
outcome.  The functions are those of `Receiver.Loop`, under the same names.

The two loops are the same as long as each flush takes every packet along (`rel_readWriteLoop`): no
two slots hold the same pointer then, so nothing that the table points to has been released.  A
flush that leaves a packet in the last slot has its pointer in two slots.  The first of them to be
written out releases the structure, and the second is a dangling pointer.
-/

namespace TrtpNetwork

/-- The state of the loop with pointers. -/
structure PointerReceiver where
  /-- The variables beside the table; the table among them is not used. -/
  vars : Receiver
  listPkt : Slots ℕ
  heap : ℕ → Option Pkt
  /-- The number of the next structure that is stored. -/
  allocated : ℕ

/-- The state before the first iteration, the table all `NULL`. -/
def PointerReceiver.init (buffer : Memory) : PointerReceiver where
  vars := Receiver.init buffer
  listPkt := fun _ => none
  heap := fun _ => none
  allocated := 0

/-- What the pointers show. -/
def PointerReceiver.packets (q : PointerReceiver) : Receiver :=
  { q.vars with listPkt := fun k => (q.listPkt k).bind q.heap }

namespace Pointers

/-! ## The table -/

/-- `first_empty_place`. -/
def firstEmptyPlace (listPkt : Slots ℕ) : Option ℕ :=
  scanWhile Option.isSome listPkt receiveCells 0

/-- `fwrite(pkt_get_payload(listPkt[i]), …)` and `pkt_del(listPkt[i])`. -/
def printSlot (q : PointerReceiver) (i : ℕ) : Option PointerReceiver := do
  let block ← q.listPkt i
  let pkt ← q.heap block
  let bytes ← pkt.content
  pktDel pkt
  some { q with
    vars := { q.vars with stdout := q.vars.stdout ++ [bytes] }
    heap := Function.update q.heap block none }

/-- The body of the first loop of `clear_and_fill_buffer_r`. -/
def printAndRemove (q : PointerReceiver) (i : ℕ) : Option PointerReceiver := do
  let q ← printSlot q i
  some { q with
    vars := { q.vars with freePlace := q.vars.freePlace + 1 }
    listPkt := Function.update q.listPkt i none }

/-- The last loop of `clear_and_fill_buffer_r`, which prints the numbers of the packets in the
table. -/
def printNumbers (q : PointerReceiver) : Option Unit :=
  (List.range realWindow).forM fun i =>
    match q.listPkt i with
    | none => some ()
    | some block => do
      let _ ← q.heap block
      some ()

/-- `clear_and_fill_buffer_r`. -/
def clearAndFillBufferR (q : PointerReceiver) : Option PointerReceiver := do
  let s ← firstEmptyPlace q.listPkt
  let q := { q with vars := { q.vars with baseR := (q.vars.baseR + s).tmod realWindow } }
  let first ← firstEmptyPlace q.listPkt
  let q ← (List.range first).foldlM printAndRemove q
  let q := { q with listPkt := shiftDown q.listPkt first (realWindow - first) }
  printNumbers q
  some q

/-! ## Receiving -/

/-- The branch for a bad packet. -/
def badPacket (q : PointerReceiver) (pkt : Pkt) : PointerReceiver :=
  let seqnum := pkt.seqnum.toNat
  { q with vars := { q.vars with
    nack :=
      if (seqnum : ℤ) < lastFullAck + realWindow ∧ (seqnum : ℤ) > lastFullAck ∧
          q.listPkt seqnum = none then seqnum
      else q.vars.nack
    packetIgnored := q.vars.packetIgnored + 1 } }

/-- The loop that writes out the front of the table, from slot `i` on. -/
def closeLoop : ℕ → ℕ → PointerReceiver → Option PointerReceiver
  | 0, _, _ => none
  | fuel + 1, i, q =>
    match q.listPkt i with
    | none => some q
    | some block => do
      let pkt ← q.heap block
      if pkt.length > 0 then do
        let q ← printSlot q i
        closeLoop fuel (i + 1) q
      else some q

/-- The end of the transfer.  The slots that were written out keep their pointers. -/
def closeTransfer (q : PointerReceiver) (pktRcv : Pkt) : Option PointerReceiver := do
  let q ← closeLoop receiveCells 0 q
  pktDel pktRcv
  some { q with vars := { q.vars with status := .endOfData } }

/-- Storing a packet in its slot, or dropping it when the slot is taken. -/
def placePacket (q : PointerReceiver) (pktRcv : Pkt) : Option PointerReceiver := do
  let seqnum := pktRcv.seqnum.toNat
  let q := if seqnum = 0 then { q with vars := { q.vars with baseR := 0 } } else q
  let i ← slotIndex seqnum q.vars.baseR
  if q.listPkt i = none then
    some {
      vars := { q.vars with
        freePlace := q.vars.freePlace - 1
        partialAck := ((seqnum + 1) % 256 : ℕ) }
      listPkt := Function.update q.listPkt i (some q.allocated)
      heap := Function.update q.heap q.allocated (some pktRcv)
      allocated := q.allocated + 1 }
  else do
    if pktRcv.length = 0 then pktDel pktRcv
    some { q with vars := { q.vars with
      packetIgnored := q.vars.packetIgnored + 1
      packetDuplicated := q.vars.packetDuplicated + 1 } }

/-- The branch for a good packet. -/
def goodPacket (q : PointerReceiver) (pktRcv : Pkt) : Option PointerReceiver :=
  let q :=
    if pktRcv.timestamp > q.vars.lastTimePkt then
      { q with vars := { q.vars with lastTimePkt := pktRcv.timestamp } }
    else q
  if pktRcv.length = 0 ∧ pktRcv.type = .data then closeTransfer q pktRcv
  else placePacket q pktRcv

/-- The dispatch on the decoded packet. -/
def handlePacket (q : PointerReceiver) (decoded : PktStatusCode × Pkt) : Option PointerReceiver :=
  if decoded.1 ≠ .pktOk ∨ decoded.2.type = .nack then some (badPacket q decoded.2)
  else goodPacket q decoded.2

variable (crc32 : List UInt8 → UInt32)

/-- The input half of an iteration. -/
def receive (q : PointerReceiver) (e : ReceiverPoll) : Option PointerReceiver :=
  match e.readable with
  | .idle => some q
  | .pollin result =>
    handlePacket { q with vars := { q.vars with buffer := readInto q.vars.buffer result } }
      (decodeRead crc32 q.vars.buffer result e.beyond e.freshRcv)
  | .other => some { q with vars := { q.vars with status := .hangup } }

/-! ## Replying -/

/-- What concerns the variables beside the table only. -/
def onVars (f : Receiver → Option Receiver) (q : PointerReceiver) : Option PointerReceiver :=
  (f q.vars).map fun r => { q with vars := r }

/-- Sending the pending NACK. -/
def sendNack (q : PointerReceiver) (fresh : Pkt) : Option PointerReceiver :=
  onVars (fun r => TrtpNetwork.sendNack crc32 r fresh) q

/-- Flushing the table and sending the pending ACK. -/
def sendAck (q : PointerReceiver) (fresh : Pkt) : Option PointerReceiver :=
  if q.vars.partialAck ≠ -1 ∧ q.vars.nack = -1 ∧ fullAck = -1 then do
    let q ← clearAndFillBufferR q
    let q ← onVars (fun r => sendReply crc32 r fresh r.partialAck 1) q
    let q := if q.vars.partialAck = 0 then { q with vars := { q.vars with baseR := 0 } } else q
    some { q with vars := { q.vars with partialAck := -1 } }
  else some q

/-- The output half of an iteration. -/
def reply (q : PointerReceiver) (e : ReceiverPoll) : Option PointerReceiver :=
  match e.writable with
  | .idle => some q
  | .pollout => do
    let q ← sendNack crc32 q e.freshNack
    sendAck crc32 q e.freshAck
  | .other => some { q with vars := { q.vars with status := .hangup } }

/-- **One iteration of `read_write_loop`**, with pointers. -/
def readWriteLoop (q : PointerReceiver) (e : ReceiverPoll) : Option PointerReceiver :=
  if q.vars.status = .running then do
    let q ← receive crc32 q e
    if q.vars.status = .endOfData then some q else reply crc32 q e
  else some q

end Pointers

/-! ## What the pointers show -/

/-- The variables beside the table are the same. -/
def SameVars (q : PointerReceiver) (r : Receiver) : Prop :=
  r = { q.vars with listPkt := r.listPkt }

/-- The variables are the same, and the table points to the packets. -/
structure Views (q : PointerReceiver) (r : Receiver) : Prop where
  vars : r = { q.vars with listPkt := r.listPkt }
  table : PointsTo q.listPkt q.heap q.allocated r.listPkt

/-- The variables are the same, and until the transfer has ended the table points to the packets,
with a pointer of its own for each. -/
structure Shows (q : PointerReceiver) (r : Receiver) : Prop where
  vars : r = { q.vars with listPkt := r.listPkt }
  table : r.status ≠ .endOfData → PointsTo q.listPkt q.heap q.allocated r.listPkt
  distinct : r.status ≠ .endOfData → Distinct q.listPkt

variable {crc32 : List UInt8 → UInt32} {q q' : PointerReceiver} {r r' m : Receiver}
  {e : ReceiverPoll}

theorem firstEmptyPlace_eq {t : Slots ℕ} {heap : ℕ → Option Pkt} {next : ℕ} {v : Slots Pkt}
    (h : PointsTo t heap next v) : Pointers.firstEmptyPlace t = firstEmptyPlace v :=
  h.scanWhile_isSome receiveCells 0

/-! ## The flush -/

theorem printNumbers_eq {v : Slots Pkt} (h : PointsTo q.listPkt q.heap q.allocated v) :
    Pointers.printNumbers q = some () := by
  unfold Pointers.printNumbers
  induction List.range realWindow with
  | nil => rfl
  | cons i is ih =>
    rw [List.forM_eq_forM] at ih ⊢
    rw [List.forM_cons, ih]
    cases hslot : q.listPkt i with
    | none => rfl
    | some block =>
      obtain ⟨pkt, hpkt⟩ := Option.ne_none_iff_exists'.mp (h.live i block hslot)
      simp [hpkt]

/-- **A slot is written out, released and emptied.** -/
theorem rel_printAndRemove (h : Views q r) (hdistinct : Distinct q.listPkt) (i : ℕ) :
    Option.Rel (fun q' r' => Views q' r' ∧ q'.listPkt = Function.update q.listPkt i none)
      (Pointers.printAndRemove q i) (printAndRemove r i) := by
  obtain ⟨table, rfl⟩ : ∃ table, r = { q.vars with listPkt := table } := ⟨_, h.vars⟩
  have htable : PointsTo q.listPkt q.heap q.allocated table := h.table
  cases hslot : q.listPkt i with
  | none =>
    have hnone : table i = none := (htable.eq_none_iff i).mpr hslot
    simp [Pointers.printAndRemove, Pointers.printSlot, printAndRemove, printSlot, hslot, hnone]
  | some block =>
    obtain ⟨pkt, hpkt⟩ := Option.ne_none_iff_exists'.mp (htable.live i block hslot)
    have hshown : table i = some pkt := (htable.shows_some hslot).trans hpkt
    cases hcontent : pkt.content with
    | none =>
      simp [Pointers.printAndRemove, Pointers.printSlot, printAndRemove, printSlot, hslot, hpkt,
        hshown, hcontent]
    | some bytes =>
      have hdel := pktDel_of_content hcontent
      simp only [Pointers.printAndRemove, Pointers.printSlot, printAndRemove, printSlot, hslot,
        hpkt, hshown, hcontent, hdel, Option.bind_eq_bind, Option.bind_some]
      exact Option.Rel.some ⟨⟨rfl, htable.release hdistinct hslot⟩, rfl⟩

/-- **The flush** does the same to the pointers as to the packets.  If it takes every packet along,
no pointer is left in two slots. -/
theorem rel_clearAndFillBufferR (h : Views q r) (hdistinct : Distinct q.listPkt)
    (hbehind : ∀ k, realWindow ≤ k → r.listPkt k = none) :
    Option.Rel (fun q' r' => Views q' r' ∧ ∀ s, firstEmptyPlace r.listPkt = some s →
        ShiftsAll r.listPkt s → Distinct q'.listPkt)
      (Pointers.clearAndFillBufferR q) (clearAndFillBufferR r) := by
  obtain ⟨table, rfl⟩ : ∃ table, r = { q.vars with listPkt := table } := ⟨_, h.vars⟩
  have htable : PointsTo q.listPkt q.heap q.allocated table := h.table
  have hscan := firstEmptyPlace_eq htable
  unfold Pointers.clearAndFillBufferR clearAndFillBufferR
  cases hs : firstEmptyPlace table with
  | none =>
    rw [hs] at hscan
    simp [hscan, hs]
  | some s =>
    rw [hs] at hscan
    simp only [hscan, hs, Option.bind_eq_bind, Option.bind_some]
    obtain ⟨-, hhole, -⟩ := firstEmptyPlace_eq_some_iff.mp hs
    have hle : s ≤ realWindow := firstEmptyPlace_le (hbehind _ (Nat.le_refl _)) hs
    -- after `i` turns the first `i` slots are empty, and the others as they were
    refine rel_bind (rel_foldlM_range (R := fun i q' r' => Views q' r' ∧
      q'.listPkt = clearFront q.listPkt i) ?_ ⟨⟨rfl, htable⟩, (clearFront_zero _).symm⟩) ?_
    · rintro i - q' r' ⟨hviews, hcleared⟩
      have hdistinct' : Distinct q'.listPkt := by
        rw [hcleared]
        exact hdistinct.clearFront i
      refine rel_mono (rel_printAndRemove hviews hdistinct' i) ?_
      rintro q'' r'' ⟨hviews', hremoved⟩
      refine ⟨hviews', ?_⟩
      rw [hremoved, hcleared, update_clearFront]
    · rintro q' r' ⟨hviews, hcleared⟩
      obtain ⟨table', rfl⟩ : ∃ table', r' = { q'.vars with listPkt := table' } := ⟨_, hviews.vars⟩
      have hshifted := hviews.table.shiftDown s (realWindow - s)
      have hprint := printNumbers_eq
        (q := { q' with listPkt := shiftDown q'.listPkt s (realWindow - s) }) hshifted
      simp only [hprint, Option.bind_some]
      refine Option.Rel.some ⟨⟨rfl, hshifted⟩, ?_⟩
      intro s' hs' hshift
      obtain rfl := Option.some.inj hs'
      show Distinct (shiftDown q'.listPkt s (realWindow - s))
      rw [hcleared]
      refine (hdistinct.clearFront s).shiftDown (fun k hk => ?_) fun k hlo hk => ?_
      · exact clearFront_of_none ((htable.eq_none_iff k).mp (hbehind k hk)) s
      · by_cases hks : k < s
        · exact clearFront_of_lt hks
        -- neither emptied nor moved: the hole itself, or the last slot
        refine clearFront_of_none ((htable.eq_none_iff k).mp ?_) s
        have hcases : k = s ∨ k = realWindow - 1 := by
          unfold realWindow at *
          omega
        rcases hcases with rfl | rfl
        · exact hhole
        · rcases hshift with rfl | rfl | hlast
          · unfold realWindow at *
            omega
          · unfold realWindow at *
            omega
          · exact hlast

/-! ## The input half -/

/-- The loop at the end of the transfer: the slots from `i` on are written out.  Those before them
have been released. -/
theorem closeLoop_eq {table : Slots Pkt} {heap : ℕ → Option Pkt} {next n : ℕ}
    {bytes : ℕ → List UInt8} {t : Slots ℕ} (htable : PointsTo t heap next table)
    (hdistinct : Distinct t) (hn : closingRun table = some n)
    (hbytes : ∀ i < n, ∃ pkt, table i = some pkt ∧ pkt.content = some (bytes i)) {fuel i : ℕ}
    (hi : i ≤ n) (hfuel : n < i + fuel) (hslots : q.listPkt = t)
    (hheap : ∀ k, i ≤ k → ∀ block, t k = some block → q.heap block = heap block) :
    ∃ heap', Pointers.closeLoop fuel i q = some { q with
      vars := { q.vars with stdout := q.vars.stdout ++ (List.range' i (n - i)).map bytes }
      heap := heap' } := by
  obtain ⟨-, hempty, hfull⟩ := closingRun_eq_some_iff.mp hn
  induction fuel generalizing i q with
  | zero => omega
  | succ fuel ih =>
    rw [Pointers.closeLoop]
    cases hslot : t i with
    | none =>
      have hnone : table i = none := (htable.eq_none_iff i).mpr hslot
      obtain rfl : i = n := by
        by_contra hne
        obtain ⟨pkt, hpkt, -⟩ := hfull i (by omega)
        rw [hnone] at hpkt
        cases hpkt
      have hq : q.listPkt i = none := by rw [hslots, hslot]
      refine ⟨q.heap, ?_⟩
      simp [hq]
    | some block =>
      obtain ⟨pkt, hpkt⟩ := Option.ne_none_iff_exists'.mp (htable.live i block hslot)
      have hshown : table i = some pkt := (htable.shows_some hslot).trans hpkt
      have hq : q.listPkt i = some block := by rw [hslots, hslot]
      have hfound : q.heap block = some pkt := (hheap i (Nat.le_refl i) block hslot).trans hpkt
      rcases Nat.eq_or_lt_of_le hi with rfl | hlt
      · refine ⟨q.heap, ?_⟩
        simp [hq, hfound, hempty pkt hshown]
      · obtain ⟨_, hpkt', hcontent⟩ := hbytes i hlt
        obtain rfl := Option.some.inj (hshown.symm.trans hpkt')
        obtain ⟨_, hpkt', hlength⟩ := hfull i hlt
        obtain rfl := Option.some.inj (hshown.symm.trans hpkt')
        have hprint : Pointers.printSlot q i = some { q with
            vars := { q.vars with stdout := q.vars.stdout ++ [bytes i] }
            heap := Function.update q.heap block none } := by
          simp [Pointers.printSlot, hq, hfound, hcontent, pktDel_of_content hcontent]
        -- the slots behind this one have other pointers
        obtain ⟨heap', hrest⟩ := ih (q := { q with
            vars := { q.vars with stdout := q.vars.stdout ++ [bytes i] }
            heap := Function.update q.heap block none }) (Nat.succ_le_of_lt hlt) (by omega) hslots
          fun k hk block' hk' => by
            have hne : block' ≠ block := by
              rintro rfl
              have := hdistinct k i block' hk' hslot
              omega
            show Function.update q.heap block none block' = heap block'
            rw [Function.update_of_ne hne]
            exact hheap k (by omega) block' hk'
        refine ⟨heap', ?_⟩
        have hpos : pkt.length > 0 := UInt16.pos_iff_ne_zero.mpr hlength
        simp only [hq, hfound, Option.bind_eq_bind, Option.bind_some, if_pos hpos, hprint]
        rw [show i + 1 = i.succ from rfl, hrest]
        have hlen : n - i = (n - i.succ) + 1 := by omega
        simp [hlen, List.range'_succ]

/-- **The end of the transfer.** -/
theorem rel_closeTransfer (h : Shows q r) (hopen : r.status ≠ .endOfData)
    (hflush : Flushable r.listPkt) {pkt : Pkt} (hempty : pkt.length = 0) :
    Option.Rel Shows (Pointers.closeTransfer q pkt) (closeTransfer r pkt) := by
  have htable := h.table hopen
  have hdistinct := h.distinct hopen
  obtain ⟨table, rfl⟩ : ∃ table, r = { q.vars with listPkt := table } := ⟨_, h.vars⟩
  obtain ⟨n, bytes, hn, hbytes⟩ := hflush.exists_closingRun
  have hdel := pktDel_of_length hempty
  have hlt : n < 0 + receiveCells := by
    have := (closingRun_eq_some_iff.mp hn).1
    omega
  obtain ⟨heap, hloop⟩ := closeLoop_eq htable hdistinct hn hbytes (Nat.zero_le n) hlt rfl
    fun _ _ _ _ => rfl
  rw [closeTransfer_eq hn hbytes hdel, Pointers.closeTransfer, hloop]
  simp only [Option.bind_eq_bind, Option.bind_some, hdel, Nat.sub_zero, ← List.range_eq_range']
  exact Option.Rel.some ⟨rfl, fun hne => absurd rfl hne, fun hne => absurd rfl hne⟩

/-- `base_r` after a packet with this number, in both loops. -/
theorem exists_base (q : PointerReceiver) (table : Slots Pkt) (seqnum : ℕ) : ∃ base,
    (if seqnum = 0 then { q with vars := { q.vars with baseR := 0 } } else q) =
      { q with vars := { q.vars with baseR := base } } ∧
    (if seqnum = 0 then ({ { q.vars with listPkt := table } with baseR := 0 } : Receiver)
      else { q.vars with listPkt := table }) =
      { { q.vars with listPkt := table } with baseR := base } := by
  by_cases h0 : seqnum = 0
  · exact ⟨0, if_pos h0, if_pos h0⟩
  · exact ⟨q.vars.baseR, if_neg h0, if_neg h0⟩

/-- `last_time_pkt` after a packet with this timestamp, in both loops. -/
theorem exists_lastTimePkt (q : PointerReceiver) (table : Slots Pkt) (timestamp : UInt32) :
    ∃ time,
    (if timestamp > q.vars.lastTimePkt then
      { q with vars := { q.vars with lastTimePkt := timestamp } } else q) =
      { q with vars := { q.vars with lastTimePkt := time } } ∧
    (if timestamp > q.vars.lastTimePkt then
      ({ { q.vars with listPkt := table } with lastTimePkt := timestamp } : Receiver)
      else { q.vars with listPkt := table }) =
      { { q.vars with listPkt := table } with lastTimePkt := time } := by
  by_cases ht : timestamp > q.vars.lastTimePkt
  · exact ⟨_, if_pos ht, if_pos ht⟩
  · exact ⟨_, if_neg ht, if_neg ht⟩

/-- **A packet is put into its slot, or dropped.** -/
theorem rel_placePacket (h : Shows q r) (hopen : r.status ≠ .endOfData) (pkt : Pkt) :
    Option.Rel Shows (Pointers.placePacket q pkt) (placePacket r pkt) := by
  have htable := h.table hopen
  have hdistinct := h.distinct hopen
  obtain ⟨table, rfl⟩ : ∃ table, r = { q.vars with listPkt := table } := ⟨_, h.vars⟩
  simp only at htable
  obtain ⟨base, hbase, hq⟩ := exists_base q table pkt.seqnum.toNat
  rw [Pointers.placePacket, placePacket]
  simp only [hbase, hq]
  cases hk : slotIndex pkt.seqnum.toNat base with
  | none => simp
  | some k =>
    simp only [Option.bind_eq_bind, Option.bind_some]
    by_cases hfree : q.listPkt k = none
    · rw [if_pos hfree, if_pos ((htable.eq_none_iff k).mpr hfree)]
      exact Option.Rel.some ⟨rfl, fun _ => htable.store k pkt,
        fun _ => htable.distinct_store hdistinct k⟩
    · rw [if_neg hfree, if_neg (mt (htable.eq_none_iff k).mp hfree)]
      split
      · have hempty : pkt.length = 0 := by assumption
        have hdel := pktDel_of_length hempty
        simp only [hdel, Option.bind_some]
        exact Option.Rel.some ⟨rfl, fun _ => htable, fun _ => hdistinct⟩
      · exact Option.Rel.some ⟨rfl, fun _ => htable, fun _ => hdistinct⟩

/-- **What is decoded is handled.** -/
theorem rel_handlePacket (h : Shows q r) (hopen : r.status ≠ .endOfData)
    (hflush : Flushable r.listPkt) (decoded : PktStatusCode × Pkt) :
    Option.Rel Shows (Pointers.handlePacket q decoded) (handlePacket r decoded) := by
  have htable := h.table hopen
  have hdistinct := h.distinct hopen
  obtain ⟨table, rfl⟩ : ∃ table, r = { q.vars with listPkt := table } := ⟨_, h.vars⟩
  simp only at htable
  unfold Pointers.handlePacket handlePacket
  by_cases hbad : decoded.1 ≠ .pktOk ∨ decoded.2.type = .nack
  · rw [if_pos hbad, if_pos hbad]
    refine Option.Rel.some ⟨?_, fun _ => htable, fun _ => hdistinct⟩
    simp only [badPacket, Pointers.badPacket, htable.eq_none_iff]
  rw [if_neg hbad, if_neg hbad]
  unfold Pointers.goodPacket goodPacket
  obtain ⟨time, hq, hr⟩ := exists_lastTimePkt q table decoded.2.timestamp
  simp only [hq, hr]
  have hstamped : Shows { q with vars := { q.vars with lastTimePkt := time } }
      { { q.vars with listPkt := table } with lastTimePkt := time } :=
    ⟨rfl, fun _ => htable, fun _ => hdistinct⟩
  by_cases hend : decoded.2.length = 0 ∧ decoded.2.type = .data
  · rw [if_pos hend, if_pos hend]
    exact rel_closeTransfer hstamped hopen hflush hend.1
  · rw [if_neg hend, if_neg hend]
    exact rel_placePacket hstamped hopen decoded.2

theorem rel_receive (h : Shows q r) (hopen : r.status ≠ .endOfData)
    (hflush : Flushable r.listPkt) (e : ReceiverPoll) :
    Option.Rel Shows (Pointers.receive crc32 q e) (receive crc32 r e) := by
  have htable := h.table hopen
  have hdistinct := h.distinct hopen
  obtain ⟨table, rfl⟩ : ∃ table, r = { q.vars with listPkt := table } := ⟨_, h.vars⟩
  unfold Pointers.receive receive
  cases e.readable with
  | idle => exact Option.Rel.some h
  | other => exact Option.Rel.some ⟨rfl, fun _ => htable, fun _ => hdistinct⟩
  | pollin result =>
    have hread : Shows { q with vars := { q.vars with buffer := readInto q.vars.buffer result } }
        { { q.vars with listPkt := table } with buffer := readInto q.vars.buffer result } :=
      ⟨rfl, fun _ => htable, fun _ => hdistinct⟩
    exact rel_handlePacket hread hopen hflush
      (decodeRead crc32 q.vars.buffer result e.beyond e.freshRcv)

/-! ## The output half -/

/-- `f` does not concern the table. -/
def SparesTable (f : Receiver → Option Receiver) : Prop :=
  ∀ r table, f { r with listPkt := table } = (f r).map fun r => { r with listPkt := table }

theorem rel_onVars_vars {f : Receiver → Option Receiver} (hf : SparesTable f) (h : SameVars q r) :
    Option.Rel (fun q' r' => SameVars q' r' ∧ r'.listPkt = r.listPkt ∧
      ∃ vars, q' = { q with vars := vars }) (Pointers.onVars f q) (f r) := by
  obtain ⟨table, rfl⟩ : ∃ table, r = { q.vars with listPkt := table } := ⟨_, h⟩
  rw [hf, Pointers.onVars]
  cases f q.vars with
  | none => exact Option.Rel.none
  | some vars => exact Option.Rel.some ⟨rfl, rfl, vars, rfl⟩

theorem rel_onVars {f : Receiver → Option Receiver} (hf : SparesTable f) (h : Views q r) :
    Option.Rel (fun q' r' => Views q' r' ∧ q'.listPkt = q.listPkt) (Pointers.onVars f q)
      (f r) := by
  refine rel_mono (rel_onVars_vars hf h.vars) ?_
  rintro q' r' ⟨hvars, htable, vars, rfl⟩
  refine ⟨⟨hvars, ?_⟩, rfl⟩
  rw [htable]
  exact h.table

theorem sparesTable_sendReply (crc32 : List UInt8 → UInt32) (fresh : Pkt)
    (seqnum : Receiver → ℤ) (hseqnum : ∀ r table, seqnum { r with listPkt := table } = seqnum r)
    (type : ℤ) : SparesTable fun r => sendReply crc32 r fresh (seqnum r) type := by
  intro r table
  simp only [sendReply, hseqnum]
  cases putOnPkt crc32 fresh r.buffer none (seqnum r) r.freePlace 0 type maxBufferSize
      r.lastTimePkt with
  | none => rfl
  | some encoded =>
    simp only [Option.bind_eq_bind, Option.bind_some]
    cases pktDel encoded.1 <;> rfl

theorem sparesTable_sendNack (crc32 : List UInt8 → UInt32) (fresh : Pkt) :
    SparesTable fun r => sendNack crc32 r fresh := by
  intro r table
  have hsend := sparesTable_sendReply crc32 fresh Receiver.nack (fun _ _ => rfl) 2 r table
  simp only at hsend
  simp only [sendNack]
  split
  · rw [hsend]
    cases sendReply crc32 r fresh r.nack 2 <;> rfl
  · rfl

/-- **The flush and its ACK.** -/
theorem rel_sendAck (h : Views q r) (hdistinct : Distinct q.listPkt)
    (hbehind : ∀ k, realWindow ≤ k → r.listPkt k = none) (fresh : Pkt) :
    Option.Rel (fun q' r' => Views q' r' ∧ ((r.partialAck ≠ -1 → ∀ s,
        firstEmptyPlace r.listPkt = some s → ShiftsAll r.listPkt s) → Distinct q'.listPkt))
      (Pointers.sendAck crc32 q fresh) (sendAck crc32 r fresh) := by
  have hvars := h.vars
  have hpartial : r.partialAck = q.vars.partialAck := by rw [hvars]
  have hnack : r.nack = q.vars.nack := by rw [hvars]
  unfold Pointers.sendAck sendAck
  rw [← hpartial, ← hnack]
  split
  · have hflushes : r.partialAck ≠ -1 := And.left (by assumption)
    refine rel_bind (rel_clearAndFillBufferR h hdistinct hbehind) ?_
    rintro q₁ r₁ ⟨hviews, hwhole⟩
    refine rel_bind (rel_onVars
      (sparesTable_sendReply crc32 fresh Receiver.partialAck (fun _ _ => rfl) 1) hviews) ?_
    rintro q₂ r₂ ⟨hviews', htable⟩
    have hpartial' : r₂.partialAck = q₂.vars.partialAck := by rw [hviews'.vars]
    rw [hpartial']
    have hdistinct' : (r.partialAck ≠ -1 → ∀ s,
        firstEmptyPlace r.listPkt = some s → ShiftsAll r.listPkt s) → Distinct q₂.listPkt := by
      intro hshift
      rw [htable]
      obtain ⟨s, -, hs⟩ := exists_firstEmptyPlace (hbehind realWindow (Nat.le_refl _))
      exact hwhole s hs (hshift hflushes s hs)
    obtain ⟨table, rfl⟩ : ∃ table, r₂ = { q₂.vars with listPkt := table } := ⟨_, hviews'.vars⟩
    by_cases h0 : q₂.vars.partialAck = 0
    · rw [if_pos h0, if_pos h0]
      exact Option.Rel.some ⟨⟨rfl, hviews'.table⟩, hdistinct'⟩
    · rw [if_neg h0, if_neg h0]
      exact Option.Rel.some ⟨⟨rfl, hviews'.table⟩, hdistinct'⟩
  · exact Option.Rel.some ⟨h, fun _ => hdistinct⟩

theorem rel_sendNack (h : Views q r) (fresh : Pkt) :
    Option.Rel (fun q' r' => (Views q' r' ∧ q'.listPkt = q.listPkt) ∧
        r'.windowState = r.windowState)
      (Pointers.sendNack crc32 q fresh) (sendNack crc32 r fresh) := by
  refine rel_and (rel_onVars (sparesTable_sendNack crc32 fresh) h) fun r' hr' => ?_
  obtain ⟨m, hm, -, hsame⟩ := exists_sendNack crc32 r fresh
  obtain rfl := Option.some.inj (hm.symm.trans hr')
  exact hsame

/-- **The output half.**  Pointers are left in two slots only by a flush that does not take every
packet along. -/
theorem rel_reply (h : Views q r) (hdistinct : Distinct q.listPkt) (hflush : Flushable r.listPkt)
    (e : ReceiverPoll) :
    Option.Rel (fun q' r' => Views q' r' ∧ ((e.writable = .pollout → r.partialAck ≠ -1 → ∀ s,
        firstEmptyPlace r.listPkt = some s → ShiftsAll r.listPkt s) → Distinct q'.listPkt))
      (Pointers.reply crc32 q e) (reply crc32 r e) := by
  unfold Pointers.reply reply
  cases he : e.writable with
  | idle => exact Option.Rel.some ⟨h, fun _ => hdistinct⟩
  | other =>
    obtain ⟨table, rfl⟩ : ∃ table, r = { q.vars with listPkt := table } := ⟨_, h.vars⟩
    exact Option.Rel.some ⟨⟨rfl, h.table⟩, fun _ => hdistinct⟩
  | pollout =>
    refine rel_bind (rel_sendNack h e.freshNack) ?_
    rintro q₁ r₁ ⟨⟨hviews, hslots⟩, hsame⟩
    obtain ⟨htable, -, -, hpartial, -⟩ := WindowState.mk.inj hsame
    have hdistinct' : Distinct q₁.listPkt := by rwa [hslots]
    have hbehind : ∀ k, realWindow ≤ k → r₁.listPkt k = none := by
      rw [htable]
      exact hflush.behind
    refine rel_mono (rel_sendAck hviews hdistinct' hbehind e.freshAck) ?_
    rintro q' r' ⟨hviews', hwhole⟩
    rw [htable, hpartial] at hwhole
    exact ⟨hviews', fun hshift => hwhole (hshift rfl)⟩

/-! ## The iteration -/

/-- **One iteration** does the same to the pointers as to the packets.  Unless its flush leaves a
packet behind, the same can be said of the next one. -/
theorem rel_readWriteLoop (h : Shows q r) (hflush : Flushable r.listPkt) (e : ReceiverPoll) :
    Option.Rel (fun q' r' => SameVars q' r' ∧ (FlushesWhole crc32 r e → Shows q' r'))
      (Pointers.readWriteLoop crc32 q e) (readWriteLoop crc32 r e) := by
  have hstatus : q.vars.status = r.status := by rw [h.vars]
  unfold Pointers.readWriteLoop readWriteLoop
  rw [hstatus]
  by_cases hon : r.status = .running
  · have hopen : r.status ≠ .endOfData := by rw [hon]; decide
    rw [if_pos hon, if_pos hon]
    refine rel_bind (rel_and (rel_receive h hopen hflush e) fun _ hm => hm) ?_
    rintro q₁ m ⟨hshows, hm⟩
    have hstatus' : q₁.vars.status = m.status := by rw [hshows.vars]
    rw [hstatus']
    by_cases hend : m.status = .endOfData
    · rw [if_pos hend, if_pos hend]
      exact Option.Rel.some ⟨hshows.vars, fun _ => hshows⟩
    · rw [if_neg hend, if_neg hend]
      have hviews : Views q₁ m := ⟨hshows.vars, hshows.table hend⟩
      refine rel_mono (rel_reply hviews (hshows.distinct hend) (hflush.receive hm) e) ?_
      rintro q' r' ⟨hviews', hwhole⟩
      refine ⟨hviews'.vars, fun hflushes => ⟨hviews'.vars, fun _ => hviews'.table, fun _ =>
        hwhole fun hpoll hack s hs => ?_⟩⟩
      exact hflushes hon hpoll m hm hend hack s hs
  · rw [if_neg hon, if_neg hon]
    exact Option.Rel.some ⟨h.vars, fun _ => h⟩

/-! ## Runs -/

theorem Shows.packets_eq (h : Shows q r) (hopen : r.status ≠ .endOfData) : q.packets = r := by
  have htable := h.table hopen
  obtain ⟨table, rfl⟩ : ∃ table, r = { q.vars with listPkt := table } := ⟨_, h.vars⟩
  have hshown : (fun k => (q.listPkt k).bind q.heap) = table :=
    funext fun k => (htable.shows k).symm
  rw [PointerReceiver.packets, hshown]

theorem Shows.flushesWhole (h : Shows q r) (hflushes : FlushesWhole crc32 q.packets e) :
    FlushesWhole crc32 r e := by
  intro hon
  rw [h.packets_eq (by rw [hon]; decide)] at hflushes
  exact hflushes hon

theorem shows_init (buffer : Memory) :
    Shows (PointerReceiver.init buffer) (Receiver.init buffer) := by
  refine ⟨rfl, fun _ => ⟨fun _ => rfl, ?_, ?_⟩, ?_⟩
  · intro k block hk
    cases hk
  · intro block hblock
    exact absurd rfl hblock
  · intro _ j k block hj
    cases hj

/-- A run of the loop with pointers is one of the loop with packets. -/
theorem exists_shows_of_run {buffer : Memory} {es : List ReceiverPoll}
    (hrun : Run (Pointers.readWriteLoop crc32) (fun _ q e => FlushesWhole crc32 q.packets e)
      (PointerReceiver.init buffer) es q) :
    ∃ r, Run (readWriteLoop crc32) (fun _ r e => FlushesWhole crc32 r e) (Receiver.init buffer) es r
      ∧ Shows q r := by
  have hmatched : ∃ r, Run (readWriteLoop crc32) (fun _ r e => FlushesWhole crc32 r e)
      (Receiver.init buffer) es r ∧ (Shows q r ∧ Flushable r.listPkt) := by
    refine exists_run_of_rel (R := fun q r => Shows q r ∧ Flushable r.listPkt)
      ⟨shows_init buffer, fun _ _ => rfl, fun k pkt hk => by cases hk⟩
      (fun _ _ _ _ h hflushes => h.1.flushesWhole hflushes) ?_ hrun
    rintro es q r e ⟨hshows, hflush⟩ hflushes
    refine rel_mono (rel_and (rel_readWriteLoop hshows hflush e) fun r' hr' =>
      flushable_step hflush hr') ?_
    rintro q' r' ⟨⟨-, hshows'⟩, hflush'⟩
    exact ⟨hshows' (hshows.flushesWhole hflushes), hflush'⟩
  obtain ⟨r, hr, hshows, -⟩ := hmatched
  exact ⟨r, hr, hshows⟩

/-- **The table of pointers can be thought of as a table of packets.**  In the runs whose flushes
take every packet along, whatever is read, the loop with pointers and the loop with packets go
through the same states, and the next iteration has an outcome in both or in neither.  Even if its
flush leaves a packet behind it prints and sends the same. -/
theorem pointers_refine_of_run (crc32 : List UInt8 → UInt32) (buffer : Memory)
    (es : List ReceiverPoll) (q : PointerReceiver)
    (hrun : Run (Pointers.readWriteLoop crc32) (fun _ q e => FlushesWhole crc32 q.packets e)
      (PointerReceiver.init buffer) es q) :
    ∃ r, Run (readWriteLoop crc32) (fun _ r e => FlushesWhole crc32 r e) (Receiver.init buffer) es r
      ∧ Shows q r ∧ ∀ e, Option.Rel
        (fun q' r' => SameVars q' r' ∧ (FlushesWhole crc32 r e → Shows q' r'))
        (Pointers.readWriteLoop crc32 q e) (readWriteLoop crc32 r e) := by
  obtain ⟨r, hr, hshows⟩ := exists_shows_of_run hrun
  exact ⟨r, hr, hshows, fun e => rel_readWriteLoop hshows (flushable_of_run hr) e⟩

/-- Three packets, each flushed when it is read. -/
theorem pointers_refine_threeFlushed :
    ∃ q r, Shows q r ∧ q.vars.stdout = [[0], [1], [2]] ∧ r.stdout = [[0], [1], [2]] := by
  obtain ⟨q, hq, hout⟩ := exists_run_of_follow (Pointers.readWriteLoop zlibCrc32)
    (fun _ q e => FlushesWhole zlibCrc32 q.packets e) (PointerReceiver.init fun _ => 0)
    threeFlushed (fun q => q.vars.stdout) (show _ = some [[0], [1], [2]] by decide +kernel)
  obtain ⟨r, -, hshows, -⟩ := pointers_refine_of_run zlibCrc32 _ threeFlushed q hq
  refine ⟨q, r, hshows, hout, ?_⟩
  rw [hshows.vars]
  exact hout

/-- Packets 3, 0, 1 and 2; the table is flushed after packet 0 and after packet 2. -/
def pointerTwice : List ReceiverPoll :=
  [(3, .idle), (0, .pollout), (1, .idle), (2, .pollout)].map fun p =>
    (streamDelivery zlibCrc32 countingStream blankPkt p.1 p.2).1

/-- The flush of packet 0 leaves the pointer to packet 3 in two slots.  The next flush writes it out
and releases it, and then comes to it again. -/
example : (pointerTwice.foldlM (readWriteLoop zlibCrc32) (Receiver.init fun _ => 0)).isSome = true ∧
    (pointerTwice.foldlM (Pointers.readWriteLoop zlibCrc32)
      (PointerReceiver.init fun _ => 0)).isSome = false := by
  decide +kernel

end TrtpNetwork
