import TrtpNetwork.Receiver.Dangling
import TrtpNetwork.Receiver.Deliveries

/-!
# Where the output comes from

A shift that copies slots, a buffer that is decoded again and a window that loses its place may
write blocks twice, or in the wrong order, or leave them out.  They cannot make one up: whatever the
receiver reads, each block it hands to `fwrite`, and each payload it keeps, is the payload of a
packet it accepted in some earlier iteration (`writesAccepted_of_run`).  The invariant behind it,
`Holds`, is kept by an iteration for any property that the payloads it accepts have.

This is about the loop with its pointers.  A flush that leaves a pointer in two slots may be
followed by one that writes out a released structure, whose bytes are anything; there the run has no
further state.
-/

namespace TrtpNetwork

/-- What was written has the property, and so has what is kept in the table. -/
structure Holds (A : List UInt8 → Prop) (r : Receiver) : Prop where
  stdout : ∀ block ∈ r.stdout, A block
  slot : ∀ k pkt bytes, r.listPkt k = some pkt → pkt.content = some bytes → A bytes

/-- The iteration reads a packet that is accepted, with this payload. -/
def ReadsBlock (crc32 : List UInt8 → UInt32) (r : Receiver) (e : ReceiverPoll)
    (bytes : List UInt8) : Prop :=
  ∃ result, e.readable = .pollin result ∧
    (decodeRead crc32 r.buffer result e.beyond e.freshRcv).1 = .pktOk ∧
    (decodeRead crc32 r.buffer result e.beyond e.freshRcv).2.type ≠ .nack ∧
    (decodeRead crc32 r.buffer result e.beyond e.freshRcv).2.content = some bytes

variable {crc32 : List UInt8 → UInt32} {A B : List UInt8 → Prop} {r m r' : Receiver}
  {e : ReceiverPoll}

theorem Holds.mono (h : Holds A r) (hAB : ∀ bytes, A bytes → B bytes) : Holds B r :=
  ⟨fun block hblock => hAB _ (h.stdout block hblock),
    fun k pkt bytes hk hbytes => hAB _ (h.slot k pkt bytes hk hbytes)⟩

/-- More blocks, all from the table. -/
theorem Holds.write (h : Holds A r) {s : ℕ} {bytes : ℕ → List UInt8}
    (hbytes : ∀ i < s, ∃ pkt, r.listPkt i = some pkt ∧ pkt.content = some (bytes i)) :
    ∀ block ∈ r.stdout ++ (List.range s).map bytes, A block := by
  intro block hblock
  rcases List.mem_append.mp hblock with hold | hnew
  · exact h.stdout block hold
  · obtain ⟨i, hi, rfl⟩ := List.mem_map.mp hnew
    obtain ⟨pkt, hpkt, hcontent⟩ := hbytes i (List.mem_range.mp hi)
    exact h.slot i pkt _ hpkt hcontent

theorem Holds.printSlots (h : Holds A r) {is : List ℕ} (hm : is.foldlM printSlot r = some m) :
    Holds A m := by
  induction is generalizing r with
  | nil =>
    obtain rfl := Option.some.inj hm
    exact h
  | cons i is ih =>
    obtain ⟨q, hq, hrest⟩ := Option.bind_eq_some_iff.mp hm
    obtain ⟨pkt, bytes, hslot, hbytes, rfl⟩ := printSlot_cases hq
    have hprinted : Holds A { r with stdout := r.stdout ++ [bytes] } := by
      refine ⟨fun block hblock => ?_, h.slot⟩
      rcases List.mem_append.mp hblock with hold | hnew
      · exact h.stdout block hold
      · obtain rfl := List.mem_singleton.mp hnew
        exact h.slot i pkt _ hslot hbytes
    exact ih hprinted hrest

theorem Holds.place (h : Holds A r) {pkt : Pkt} (hpkt : ∀ bytes, pkt.content = some bytes → A bytes)
    (hm : placePacket r pkt = some m) : Holds A m := by
  obtain ⟨k, -, ⟨-, rfl⟩ | ⟨-, rfl⟩⟩ := placePacket_cases hm
  · refine ⟨h.stdout, fun j p bytes hj hbytes => ?_⟩
    rcases eq_some_of_update_some hj with ⟨-, rfl⟩ | ⟨-, hj⟩
    · exact hpkt bytes hbytes
    · exact h.slot j p bytes hj hbytes
  · exact ⟨h.stdout, h.slot⟩

/-- **The input half** takes in the payload it accepts. -/
theorem Holds.receive (h : Holds A r) (haccepts : ∀ bytes, ReadsBlock crc32 r e bytes → A bytes)
    (hm : receive crc32 r e = some m) : Holds A m := by
  rcases receive_readable_cases crc32 hm with ⟨-, rfl⟩ | ⟨result, he, hm⟩ | ⟨-, rfl⟩
  · exact h
  · rw [handlePacket] at hm
    split at hm
    · obtain rfl := Option.some.inj hm
      exact ⟨h.stdout, h.slot⟩
    · rename_i hgood
      obtain ⟨hok, hnack⟩ := not_or.mp hgood
      have hread : ∀ bytes,
          (decodeRead crc32 r.buffer result e.beyond e.freshRcv).2.content = some bytes →
          A bytes :=
        fun bytes hbytes => haccepts bytes ⟨result, he, not_not.mp hok, hnack, hbytes⟩
      -- `last_time_pkt` may have moved, whatever is done with the packet
      obtain ⟨q, hq, hrest⟩ : ∃ q, Holds A q ∧
          (if (decodeRead crc32 r.buffer result e.beyond e.freshRcv).2.length = 0 ∧
              (decodeRead crc32 r.buffer result e.beyond e.freshRcv).2.type = .data then
            closeTransfer q (decodeRead crc32 r.buffer result e.beyond e.freshRcv).2
          else placePacket q (decodeRead crc32 r.buffer result e.beyond e.freshRcv).2) =
            some m := by
        refine ⟨_, ?_, hm⟩
        split
        · exact ⟨h.stdout, h.slot⟩
        · exact ⟨h.stdout, h.slot⟩
      split at hrest
      · obtain ⟨n, -, hrest⟩ := Option.bind_eq_some_iff.mp hrest
        obtain ⟨p, hp, hrest⟩ := Option.bind_eq_some_iff.mp hrest
        obtain ⟨-, -, hrest⟩ := Option.bind_eq_some_iff.mp hrest
        obtain rfl := Option.some.inj hrest
        obtain ⟨hstdout, hslot⟩ := hq.printSlots hp
        exact ⟨hstdout, hslot⟩
      · exact hq.place hread hrest
  · exact ⟨h.stdout, h.slot⟩

/-- **The output half** writes what is in the table, and shifts the rest. -/
theorem Holds.reply (h : Holds A m) (hstep : reply crc32 m e = some r') : Holds A r' := by
  rcases reply_cases crc32 hstep with ⟨-, status, rfl⟩ | ⟨-, q, hq, hack⟩
  · exact ⟨h.stdout, h.slot⟩
  · have hq' : q.nack = -1 ∧ Holds A q := by
      rcases sendNack_cases crc32 hq with ⟨hnack, rfl⟩ | ⟨-, rfl⟩
      · exact ⟨hnack, h⟩
      · exact ⟨rfl, h.stdout, h.slot⟩
    rcases sendAck_cases crc32 hack hq'.1 with ⟨-, rfl⟩ | ⟨-, s, bytes, -, hbytes, rfl⟩
    · exact hq'.2
    · refine ⟨hq'.2.write hbytes, fun k pkt bytes hk hcontent => ?_⟩
      dsimp only at hk
      rw [flushedTable_apply] at hk
      split at hk
      · exact hq'.2.slot _ pkt bytes hk hcontent
      · split at hk
        · cases hk
        · exact hq'.2.slot _ pkt bytes hk hcontent

/-- **One iteration.** -/
theorem Holds.step (h : Holds A r) (haccepts : ∀ bytes, ReadsBlock crc32 r e bytes → A bytes)
    (hstep : readWriteLoop crc32 r e = some r') : Holds A r' := by
  rcases readWriteLoop_cases crc32 hstep with ⟨-, rfl⟩ | ⟨-, m, hm, ⟨-, rfl⟩ | ⟨-, hreply⟩⟩
  · exact h
  · exact h.receive haccepts hm
  · exact (h.receive haccepts hm).reply hreply

/-- A payload is read or not whatever is in the table. -/
theorem ReadsBlock.of_sameVars {q : PointerReceiver} {bytes : List UInt8}
    (h : ReadsBlock crc32 r e bytes) (hvars : SameVars q r) : ReadsBlock crc32 q.vars e bytes := by
  obtain ⟨table, rfl⟩ : ∃ table, r = { q.vars with listPkt := table } := ⟨_, hvars⟩
  exact h

variable (crc32) in
/-- The payload of a packet that was accepted in one of these iterations, from the state in which
the ones before had left the loop. -/
def AcceptedIn (buffer : Memory) (es : List ReceiverPoll) (bytes : List UInt8) : Prop :=
  ∃ before e after q, es = before ++ e :: after ∧
    Run (Pointers.readWriteLoop crc32) (fun _ _ _ => True) (PointerReceiver.init buffer) before q ∧
    ReadsBlock crc32 q.vars e bytes

theorem AcceptedIn.snoc {buffer : Memory} {es : List ReceiverPoll} {bytes : List UInt8}
    (h : AcceptedIn crc32 buffer es bytes) (e : ReceiverPoll) :
    AcceptedIn crc32 buffer (es ++ [e]) bytes := by
  obtain ⟨before, e', after, q, rfl, hrun, haccepts⟩ := h
  exact ⟨before, e', after ++ [e], q, by simp, hrun, haccepts⟩

/-- **The receiver writes only what it accepted.**  In every run of the loop with its pointers,
whatever is read from the socket and however the table is flushed, each block that was handed to
`fwrite` and each payload that is stored is the payload of a packet that was accepted in an
iteration of this run. -/
theorem writesAccepted_of_run (crc32 : List UInt8 → UInt32) (buffer : Memory)
    (es : List ReceiverPoll) (q : PointerReceiver)
    (hrun : Run (Pointers.readWriteLoop crc32) (fun _ _ _ => True) (PointerReceiver.init buffer)
      es q) :
    (∀ block ∈ q.vars.stdout, AcceptedIn crc32 buffer es block) ∧
      ∀ k p pkt bytes, q.listPkt k = some p → q.heap p = some pkt → pkt.content = some bytes →
        AcceptedIn crc32 buffer es bytes := by
  have h : ∃ r, ViewsLive q r ∧ Holds (AcceptedIn crc32 buffer es) r := by
    induction hrun with
    | nil =>
      refine ⟨_, viewsLive_init buffer, fun block hblock => ?_, fun k pkt bytes hk => ?_⟩
      · cases hblock
      · cases hk
    | @snoc es q q' e hrun _ hstep ih =>
      obtain ⟨r, hviews, hholds⟩ := ih
      -- the same iteration with packets
      obtain ⟨r', hr', hviews'⟩ := simulates_readWriteLoop hviews e q' hstep
      refine ⟨r', hviews', (hholds.mono fun bytes hbytes => hbytes.snoc e).step ?_ hr'⟩
      exact fun bytes haccepts => ⟨es, e, [], q, rfl, hrun, haccepts.of_sameVars hviews.vars⟩
  obtain ⟨r, hviews, hholds⟩ := h
  refine ⟨fun block hblock => hholds.stdout block ?_, fun k p pkt bytes hk hp hbytes => ?_⟩
  · rw [hviews.vars]
    exact hblock
  · exact hholds.slot k pkt bytes (hviews.table.shows k p pkt hk hp) hbytes

/-- Packets 3, 0 and 1 are read; packet 0 is written, and the flush leaves the pointer to packet 3
in two slots. -/
theorem writesAccepted_twice :
    let es := pointerTwice.take 3
    ∃ q : PointerReceiver, q.vars.stdout = [[0]] ∧ q.listPkt 2 = q.listPkt 3 ∧
      ∀ block ∈ q.vars.stdout, AcceptedIn zlibCrc32 (fun _ => 0) es block := by
  intro es
  obtain ⟨q, hrun, hview⟩ := exists_run_of_follow (Pointers.readWriteLoop zlibCrc32)
    (fun _ _ _ => True) (PointerReceiver.init fun _ => 0) es
    (fun q => (q.vars.stdout, decide (q.listPkt 2 = q.listPkt 3)))
    (show _ = some ([[0]], true) by decide +kernel)
  obtain ⟨hstdout, hsame⟩ := Prod.mk.inj hview
  exact ⟨q, hstdout, of_decide_eq_true hsame, (writesAccepted_of_run zlibCrc32 _ es q hrun).1⟩

end TrtpNetwork
