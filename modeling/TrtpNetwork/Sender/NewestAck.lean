import TrtpNetwork.Sender.Table

/-!
# `base` and the newest ACK

ACKs may arrive in any order and more than once, so the sender has to tell a newer one from an older
one by their numbers modulo 256.  It compares the number with that of the ACK processed last, with a
plain `>` and an exception for 0, and moves `base` to it if the test says so.

An ACK is known here by its position in the stream, one past the packet it is for.  `FollowsNewest`
compares the test with the positions: the ACK is newer than all before it exactly if its number is 0
or exceeds the last number, unless it has the number of the newest anyway.  Under this condition
`base` is the number of the newest ACK (`followsNewest_of_run`), and an ACK that does not meet it
makes it another.  `not_followsNewest` is the history 1, 4, 2, 3: ACK 3 is newer than the one before
it and older than ACK 4, and takes `base` back.
-/

namespace TrtpNetwork

variable (crc32 : List UInt8 → UInt32)

/-- An iteration, and the position of the ACK it reads: one past the packet the ACK is for. -/
abbrev AckDelivery := SenderPoll × ℕ

/-- One iteration of the sender, with a record of the positions of the ACKs processed. -/
def ackStep (t : Sender × List ℕ) (d : AckDelivery) : Option (Sender × List ℕ) :=
  (readWriteLoopSender crc32 t.1 d.1).map fun s =>
    (s, if ackProcessed crc32 t.1 d.1 = none then t.2 else t.2 ++ [d.2])

/-- The greatest position so far. -/
def newest (acks : List ℕ) : ℕ := acks.foldl max 0

/-- The position processed last. -/
def latest (acks : List ℕ) : ℕ := acks.getLastD 0

/-- The ACK that is processed has the number of its position. -/
def NumbersAck (t : Sender × List ℕ) (d : AckDelivery) : Prop :=
  ∀ ack ∈ ackProcessed crc32 t.1 d.1, ack.seqnum.toNat = d.2 % 256

/-- The ACK that is processed is for a packet that was sent, at most 128 positions behind every
packet sent. -/
def AcksRecentlySent (t : Sender × List ℕ) (d : AckDelivery) : Prop :=
  ∀ ack ∈ ackProcessed crc32 t.1 d.1, ack.seqnum.toNat = d.2 % 256 ∧
    (∃ w ∈ t.1.written, d.2 = w.position + 1) ∧ ∀ w ∈ t.1.written, w.position + 1 ≤ d.2 + 128

/-- The position is newer than all before it exactly if the test says so, or it has the number of
the newest. -/
def NumberFollows (acks : List ℕ) (a : ℕ) : Prop :=
  a % 256 = newest acks % 256 ∨ (newest acks < a ↔ a % 256 > latest acks % 256 ∨ a % 256 = 0)

/-- The ACK that is processed, if one is, meets this condition. -/
def FollowsNewest (t : Sender × List ℕ) (d : AckDelivery) : Prop :=
  ackProcessed crc32 t.1 d.1 ≠ none → NumberFollows t.2 d.2

instance (t : Sender × List ℕ) (d : AckDelivery) : Decidable (NumbersAck crc32 t d) := by
  unfold NumbersAck
  infer_instance

instance (t : Sender × List ℕ) (d : AckDelivery) : Decidable (AcksRecentlySent crc32 t d) := by
  unfold AcksRecentlySent
  infer_instance

instance (t : Sender × List ℕ) (d : AckDelivery) : Decidable (FollowsNewest crc32 t d) := by
  unfold FollowsNewest NumberFollows
  infer_instance

theorem newest_snoc (acks : List ℕ) (a : ℕ) : newest (acks ++ [a]) = max (newest acks) a := by
  simp [newest]

theorem latest_snoc (acks : List ℕ) (a : ℕ) : latest (acks ++ [a]) = a := by
  simp [latest]

/-- The state between iterations. -/
structure AtNewest (t : Sender × List ℕ) : Prop where
  base : t.1.base = newest t.2 % 256
  lastAck : t.1.lastAck.seqnum.toNat = latest t.2 % 256

/-- **The test and the positions.** -/
theorem ackedBase_eq_iff {s : Sender} {acks : List ℕ} (h : AtNewest (s, acks)) {a num : ℕ}
    (hnum : num = a % 256) :
    ackedBase s num = newest (acks ++ [a]) % 256 ↔ NumberFollows acks a := by
  have hbase : s.base = newest acks % 256 := h.base
  have hlast : s.lastAck.seqnum.toNat = latest acks % 256 := h.lastAck
  unfold ackedBase NumberFollows
  rw [newest_snoc, hbase, hlast, hnum]
  by_cases hnew : newest acks < a
  · rw [max_eq_right (Nat.le_of_lt hnew)]
    split <;> omega
  · rw [max_eq_left (Nat.le_of_not_lt hnew)]
    split <;> omega

/-- **One iteration** leaves `base` at the newest ACK if and only if the ACK it processes, if it
does, meets the condition. -/
theorem AtNewest.step {t t' : Sender × List ℕ} {d : AckDelivery} (h : AtNewest t)
    (hnum : NumbersAck crc32 t d) (hstep : ackStep crc32 t d = some t') :
    (t'.1.base = newest t'.2 % 256 ↔ FollowsNewest crc32 t d) ∧
      t'.1.lastAck.seqnum.toNat = latest t'.2 % 256 := by
  obtain ⟨s', hs', rfl⟩ := Option.map_eq_some_iff.mp hstep
  rcases readWriteLoopSender_acked crc32 hs' with ⟨hno, hkeeps⟩ | ⟨ack, hack, htakes⟩
  · simp only [if_pos hno]
    rw [hkeeps.base, hkeeps.lastAck]
    exact ⟨iff_of_true h.base fun hsome => absurd hno hsome, h.lastAck⟩
  · have hsome : ackProcessed crc32 t.1 d.1 ≠ none := by simp [hack]
    have hmod := hnum ack hack
    simp only [if_neg hsome]
    rw [htakes.base, htakes.lastAck, latest_snoc, ackedBase_eq_iff h hmod]
    exact ⟨⟨fun hf _ => hf, fun hf => hf hsome⟩, hmod⟩

/-- **`base` follows the newest ACK** in the runs in which the test says of every ACK whether it is
newer than all before it; and from every state of such a run, an iteration keeps it so if and only
if it meets this condition. -/
theorem followsNewest_of_run (crc32 : List UInt8 → UInt32) (file : List UInt8) (buffer : Memory)
    (freshAck : Pkt) (clockAck : UInt32) (fill : FillInputs) (s₀ : Sender)
    (hinit : Sender.init crc32 file buffer freshAck clockAck fill = some s₀)
    (ds : List AckDelivery) (t : Sender × List ℕ)
    (hrun : Run (ackStep crc32) (fun _ t d => NumbersAck crc32 t d ∧ FollowsNewest crc32 t d)
      (s₀, []) ds t) :
    t.1.base = newest t.2 % 256 ∧
      ∀ d t', NumbersAck crc32 t d → ackStep crc32 t d = some t' →
        (t'.1.base = newest t'.2 % 256 ↔ FollowsNewest crc32 t d) := by
  obtain ⟨-, hstart⟩ := starts_of_init hinit
  have hinv : AtNewest t := by
    refine hrun.invariant (I := fun _ t => AtNewest t) ⟨hstart.base, hstart.lastAck⟩ ?_
    intro ds t d t' h hok hstep
    obtain ⟨hbase, hlast⟩ := h.step crc32 hok.1 hstep
    exact ⟨hbase.mpr hok.2, hlast⟩
  exact ⟨hinv.base, fun d t' hnum hstep => (hinv.step crc32 hnum hstep).1⟩

/-- ACK 3 arrives before ACK 2, and ACK 4 behind both. -/
theorem followsNewest_swapped :
    ∃ t : Sender × List ℕ, t.2 = [1, 3, 2, 4] ∧ t.1.base = newest t.2 % 256 := by
  obtain ⟨t, hrun, hacks⟩ := exists_run_of_follow (ackStep zlibCrc32)
    (fun _ t d => NumbersAck zlibCrc32 t d ∧ FollowsNewest zlibCrc32 t d) (startSender [], [])
    [(writePoll, 0), (ackPoll 1 .pollout, 1), (ackPoll 3 .pollout, 3), (ackPoll 2 .pollout, 2),
      (ackPoll 4 .pollout, 4)] Prod.snd (show _ = some [1, 3, 2, 4] by decide +kernel)
  exact ⟨t, hacks, (followsNewest_of_run zlibCrc32 [] (fun _ => 0) blankPkt 0 blankFill
    (startSender []) (init_startSender []) _ t hrun).1⟩

/-- **`base` goes back.**  All four packets were sent when ACKs 4, 2 and 3 arrive, in this order:
after the last of them `base` is 3. -/
theorem not_followsNewest :
    ¬ ∀ (file : List UInt8) (buffer : Memory) (freshAck : Pkt) (clockAck : UInt32)
      (fill : FillInputs) (s₀ : Sender),
      Sender.init zlibCrc32 file buffer freshAck clockAck fill = some s₀ →
      ∀ (ds : List AckDelivery) (t : Sender × List ℕ),
        Run (ackStep zlibCrc32) (fun _ t d => AcksRecentlySent zlibCrc32 t d) (s₀, []) ds t →
        t.1.base = newest t.2 % 256 := by
  intro h
  obtain ⟨t, hrun, hview⟩ := exists_run_of_follow (ackStep zlibCrc32)
    (fun _ t d => AcksRecentlySent zlibCrc32 t d) (startSender [], [])
    [(writePoll, 0), (ackPoll 1 .pollout, 1), (ackPoll 4 .pollout, 4), (ackPoll 2 .pollout, 2),
      (ackPoll 3 .pollout, 3)] (fun t => (t.1.base, t.2))
    (show _ = some (3, [1, 4, 2, 3]) by decide +kernel)
  obtain ⟨hbase, hacks⟩ := Prod.mk.inj hview
  have := h [] (fun _ => 0) blankPkt 0 blankFill (startSender []) (init_startSender []) _ t hrun
  rw [hbase, hacks] at this
  exact absurd this (by decide)

end TrtpNetwork
