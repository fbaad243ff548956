import TrtpNetwork.Sender.Table

/-!
# The lookups of the sender

Three places of the loop look up a packet by its number.  The ACK handling tests the result of
`find_buffer` for -1; the answer to a NACK and the loop over `nextseqnum` use it as an index as it
is.  A number is found exactly when the packet that has it, of the last 50 made, is in its slot
(`found_iff`).  The slot is a matter of arithmetic on the number and the count of packets made, and
`LookupsInPlace` says of an iteration that every number it is going to look up is in place, which
is the case exactly when it finds all of them (`Indexed.status_of_step`).
-/

namespace TrtpNetwork

variable (crc32 : List UInt8 → UInt32)

/-- The slot of the packet with this number, of the last 50 made. -/
def slotOf (s : Sender) (num : ℕ) : ℕ := (num + 256 - (s.seqnum - tableSize) % 256) % 256

/-- The packet with this number is one of the last 50 made, and in its slot. -/
def NumInPlace (s : Sender) (num : ℕ) : Prop :=
  slotOf s num < tableSize ∧
    s.listPkt (slotOf s num) = some (s.seqnum - tableSize + slotOf s num)

/-- The pending NACK names a packet in place. -/
def NackInPlace (s : Sender) : Prop :=
  s.nack ≠ -1 → s.nack ≠ 256 → NumInPlace s s.nack.toNat

/-- If a pass over the window is made, every number from `nextseqnum` up to `base + window` is in
place. -/
def WindowInPlace (s : Sender) : Prop :=
  s.bufferUpdate = true → MaySend s →
    ∀ num < s.base + s.window, s.nextseqnum ≤ num → NumInPlace s (num % 256)

/-- All that the iteration is going to look up is in place after its input half. -/
def LookupsInPlace (s : Sender) (e : SenderPoll) : Prop :=
  s.status = .running → e.writable = .pollout → ∀ m, senderReceive crc32 s e = some m →
    m.status ≠ .readFailed → NackInPlace m ∧ WindowInPlace m

instance (s : Sender) (num : ℕ) : Decidable (NumInPlace s num) := by
  unfold NumInPlace
  infer_instance

instance (s : Sender) : Decidable (NackInPlace s) := by
  unfold NackInPlace
  infer_instance

instance (s : Sender) : Decidable (WindowInPlace s) := by
  unfold WindowInPlace
  infer_instance

instance (s : Sender) (e : SenderPoll) : Decidable (LookupsInPlace crc32 s e) :=
  inferInstanceAs (Decidable (s.status = .running → e.writable = .pollout →
    ∀ m ∈ senderReceive crc32 s e, m.status ≠ .readFailed → NackInPlace m ∧ WindowInPlace m))

/-- The invariant behind the lookups: which packets the table can hold, and what a pending NACK can
be. -/
structure Indexed (file : List UInt8) (s : Sender) : Prop
    extends Genuine crc32 file s, Recent s where
  full : tableSize ≤ s.seqnum
  nack_le : s.nack ≤ 256

variable {crc32} {file : List UInt8} {s s' : Sender}

theorem NumInPlace.congr (hlist : s'.listPkt = s.listPkt) (hseq : s'.seqnum = s.seqnum) (num : ℕ) :
    NumInPlace s' num ↔ NumInPlace s num := by
  unfold NumInPlace slotOf
  rw [hlist, hseq]

/-! ## One lookup -/

/-- A packet that is found is in the slot for its position. -/
theorem Recent.place_of_found (h : Recent s) {num i p : ℕ}
    (hfound : findBuffer s num tableSize = some (some i)) (hp : s.listPkt i = some p) :
    p + tableSize = s.seqnum + i := by
  obtain ⟨hi, ⟨q, pkt, hq, hpkt, hnum⟩, hfirst⟩ := findBuffer_eq_some_iff.mp hfound
  obtain rfl := Option.some.inj (hp.symm.trans hq)
  obtain ⟨f, hf, hfp, heq⟩ := h.first i hi p hp (by rw [hpkt]; simp)
  rcases Nat.eq_or_lt_of_le hf with rfl | hlt
  · exact heq
  · have hholds : HoldsSeqnum s num f := ⟨p, pkt, hfp, hpkt, hnum⟩
    exact absurd (hfirst f hlt) hholds.not_lacks

/-- **A number is found exactly when it is in place.** -/
theorem Indexed.found_iff (h : Indexed crc32 file s) {num : ℕ} (hnum : num < 256)
    {found : Option ℕ} (hfound : findBuffer s num tableSize = some found) :
    found ≠ none ↔ NumInPlace s num := by
  have hfull := h.full
  constructor
  · intro hne
    obtain ⟨i, rfl⟩ := Option.ne_none_iff_exists'.mp hne
    obtain ⟨hi, ⟨p, pkt, hp, hpkt, hseq⟩, -⟩ := findBuffer_eq_some_iff.mp hfound
    -- the first slot of the packet is the one computed from its number
    obtain ⟨f, hf, hfp, heq⟩ := h.first i hi p hp (by rw [hpkt]; simp)
    rw [h.seqnum_eq hpkt] at hseq
    have hslot : slotOf s num = f := by
      unfold slotOf tableSize at *
      omega
    unfold NumInPlace
    rw [hslot]
    exact ⟨by omega, by rw [hfp]; congr 1; omega⟩
  · rintro ⟨hlt, hslot⟩ rfl
    obtain ⟨pkt, hpkt, hne⟩ := findBuffer_eq_neg_one_iff.mp hfound _ hlt _ hslot
    rw [h.seqnum_eq hpkt] at hne
    apply hne
    unfold slotOf tableSize at *
    omega

/-! ## The answer to a NACK -/

theorem status_of_retransmitNack {a : Sender} (h : Indexed crc32 file s)
    (hrunning : s.status ≠ .absentLookup) (hnack : retransmitNack crc32 s = some a) :
    a.status ≠ .absentLookup ↔ NackInPlace s := by
  rcases retransmitNack_lookup crc32 hnack with ⟨hidle, rfl⟩ | ⟨⟨h1, h256⟩, hanswer⟩
  · refine iff_of_true hrunning fun h1 h256 => ?_
    omega
  have hnum : s.nack.toNat < 256 := by
    have := h.nack_le
    omega
  have hplace : NackInPlace s ↔ NumInPlace s s.nack.toNat :=
    ⟨fun hp => hp h1 h256, fun hp _ _ => hp⟩
  rw [hplace]
  rcases hanswer with ⟨hfound, rfl⟩ | ⟨i, p, pkt, payload, hfound, -, -, -, rfl⟩
  · rw [← h.found_iff hnum hfound]
    simp
  · rw [← h.found_iff hnum hfound]
    exact iff_of_true hrunning (Option.some_ne_none i)

/-! ## The loop over `nextseqnum` -/

theorem Indexed.sendNext (h : Indexed crc32 file s) {e : SenderPoll}
    (hnext : TrtpNetwork.sendNext crc32 e s = some s') : Indexed crc32 file s' := by
  obtain ⟨hseqnum, hnack⟩ : s'.seqnum = s.seqnum ∧ s'.nack = s.nack := by
    rcases sendNext_cases crc32 hnext with ⟨-, rfl⟩ | ⟨i, p, pkt, payload, -, -, -, -, -, rfl⟩
    · exact ⟨rfl, rfl⟩
    · exact ⟨rfl, rfl⟩
  exact ⟨h.toGenuine.sendNext hnext, h.toRecent.sendNext hnext, hseqnum ▸ h.full,
    hnack ▸ h.nack_le⟩

/-- **The loop finds everything it looks up** if and only if all of it is in place. -/
theorem Indexed.status_of_sendLoop {e : SenderPoll} {fuel : ℕ} {m : Sender}
    (h : Indexed crc32 file s) (hrunning : s.status ≠ .absentLookup)
    (hfuel : s.base + s.window - s.nextseqnum ≤ fuel)
    (hm : sendLoop crc32 e fuel s = some m) :
    m.status ≠ .absentLookup ↔ (MaySend s →
      ∀ num < s.base + s.window, s.nextseqnum ≤ num → NumInPlace s (num % 256)) := by
  induction fuel generalizing s with
  | zero =>
    obtain rfl := Option.some.inj hm
    exact iff_of_true hrunning fun hmay => absurd hmay.1 (by omega)
  | succ fuel ih =>
    rw [sendLoop] at hm
    split at hm
    · next hmay =>
      obtain ⟨b, hb, hm⟩ := Option.bind_eq_some_iff.mp hm
      have hlt := hmay.1
      have hindexed := h.sendNext hb
      obtain ⟨found, hfound, -⟩ := Option.bind_eq_some_iff.mp hb
      have hiff := h.found_iff (Nat.mod_lt _ (by decide)) hfound
      rcases sendNext_cases crc32 hb with
        ⟨hlacks, rfl⟩ | ⟨i, p, pkt, payload, hi, hp, hpkt, hnum, hcontent, rfl⟩
      · -- the first number of the pass is missing
        rw [if_pos rfl] at hm
        obtain rfl := Option.some.inj hm
        obtain rfl := Option.some.inj ((findBuffer_eq_neg_one_iff.mpr hlacks).symm.trans hfound)
        refine iff_of_false (by simp) fun hall => ?_
        exact absurd (hiff.mpr (hall hmay _ hlt (Nat.le_refl _))) (by simp)
      · -- it is there, and the others are looked up in the same table
        have hplace : NumInPlace s (s.nextseqnum % 256) := by
          refine hiff.mp fun hnone => ?_
          subst hnone
          obtain ⟨pkt', hpkt', hne⟩ := findBuffer_eq_neg_one_iff.mp hfound i hi p hp
          rw [hpkt] at hpkt'
          obtain rfl := Option.some.inj hpkt'
          exact hne hnum
        rw [if_neg (show (sentNext crc32 e s p pkt payload).status ≠ _ from hrunning)] at hm
        rw [ih hindexed hrunning (show s.base + s.window - (s.nextseqnum + 1) ≤ fuel by omega) hm]
        constructor
        · intro hrest _ num hnum' hle
          rcases Nat.eq_or_lt_of_le hle with rfl | hlt'
          · exact hplace
          · exact hrest ⟨show s.nextseqnum + 1 < s.base + s.window by omega,
              Or.inl (Nat.succ_ne_zero _)⟩ num hnum' hlt'
        · intro hall _ num hnum' hle
          exact hall hmay num hnum' (Nat.le_of_succ_le hle)
    · next hstop =>
      obtain rfl := Option.some.inj hm
      exact iff_of_true hrunning fun hmay => absurd hmay hstop

/-! ## One iteration -/

theorem Indexed.retransmitNack (h : Indexed crc32 file s)
    (hnack : TrtpNetwork.retransmitNack crc32 s = some s') : Indexed crc32 file s' := by
  have hgen := h.toGenuine.retransmitNack hnack
  have hrecent := h.toRecent.retransmitNack hnack
  rcases retransmitNack_cases crc32 hnack with rfl | rfl | ⟨i, p, pkt, payload, -, -, -, rfl⟩
  · exact h
  · exact ⟨hgen, hrecent, h.full, h.nack_le⟩
  · exact ⟨hgen, hrecent, h.full, show (-1 : ℤ) ≤ 256 by decide⟩

theorem Indexed.sendWindow (h : Indexed crc32 file s) {e : SenderPoll}
    (hsend : TrtpNetwork.sendWindow crc32 s e = some s') : Indexed crc32 file s' := by
  rcases sendWindow_cases crc32 hsend with ⟨-, rfl⟩ | ⟨-, m, hm, hm'⟩
  · exact h
  · have hindexed : Indexed crc32 file m :=
      sendLoop_rule crc32 (fun a b ha _ hb => ha.sendNext hb) h hm
    rcases hm' with ⟨-, rfl⟩ | ⟨-, rfl⟩
    · exact hindexed
    · exact ⟨hindexed.toGenuine.mono rfl rfl rfl fun _ _ hq => hq,
        hindexed.toRecent.mono rfl rfl fun _ hq => hq, hindexed.full, hindexed.nack_le⟩

theorem Indexed.resendTimeout (h : Indexed crc32 file s) {e : SenderPoll}
    (htime : TrtpNetwork.resendTimeout crc32 s e = some s') : Indexed crc32 file s' := by
  have hgen := h.toGenuine.resendTimeout htime
  have hrecent := h.toRecent.resendTimeout htime
  rcases resendTimeout_cases crc32 htime with rfl | ⟨p, pkt, payload, -, -, -, -, rfl⟩
  · exact h
  · exact ⟨hgen, hrecent, h.full, h.nack_le⟩

theorem Indexed.senderReceive (h : Indexed crc32 file s) {e : SenderPoll}
    (hrcv : TrtpNetwork.senderReceive crc32 s e = some s') : Indexed crc32 file s' := by
  refine ⟨h.toGenuine.senderReceive hrcv, h.toRecent.senderReceive hrcv,
    h.full.trans (seqnum_le_senderReceive crc32 hrcv), ?_⟩
  rcases (senderReceive_control crc32 hrcv).1 with hsame | hle
  · rw [hsame]
    exact h.nack_le
  · exact hle

theorem Indexed.step (h : Indexed crc32 file s) {e : SenderPoll}
    (hstep : readWriteLoopSender crc32 s e = some s') : Indexed crc32 file s' := by
  refine readWriteLoopSender_rule crc32 (fun _ _ hs hm => hs.senderReceive hm) ?_ h hstep
  intro m r hm hreply
  exact senderReply_rule crc32 (fun _ _ ha hb => ha.retransmitNack hb)
    (fun _ _ ha hb => ha.sendWindow hb) (fun _ _ ha hb => ha.resendTimeout hb) hm hreply

/-- A pass over the window finds everything if and only if all of it is in place. -/
theorem Indexed.status_of_sendWindow {e : SenderPoll} (h : Indexed crc32 file s)
    (hrunning : s.status ≠ .absentLookup)
    (hsend : TrtpNetwork.sendWindow crc32 s e = some s') :
    s'.status ≠ .absentLookup ↔ WindowInPlace s := by
  rcases sendWindow_cases crc32 hsend with ⟨hidle, rfl⟩ | ⟨hupdate, m, hm, hm'⟩
  · refine iff_of_true hrunning fun hupdate => ?_
    rw [hidle] at hupdate
    cases hupdate
  · have hstatus : s'.status = m.status := by
      rcases hm' with ⟨-, rfl⟩ | ⟨-, rfl⟩ <;> rfl
    rw [hstatus, h.status_of_sendLoop hrunning (Nat.le_refl _) hm]
    exact ⟨fun hall _ => hall, fun hall => hall hupdate⟩

/-- **The output half** finds everything it looks up if and only if all of it is in place. -/
theorem Indexed.status_of_senderReply {e : SenderPoll} (h : Indexed crc32 file s)
    (hrunning : s.status ≠ .absentLookup) (hreply : senderReply crc32 s e = some s') :
    s'.status ≠ .absentLookup ↔
      (e.writable = .pollout → NackInPlace s ∧ WindowInPlace s) := by
  rcases senderReply_cases crc32 hreply with ⟨hout, rfl⟩ | ⟨hout, a, ha, ha'⟩
  · exact iff_of_true hrunning fun he => absurd he hout
  have hnack := status_of_retransmitNack h hrunning ha
  rcases ha' with ⟨habsent, rfl⟩ | ⟨hgoes, b, hb, hb'⟩
  · refine iff_of_false (fun hne => hne habsent) fun hall => ?_
    exact hnack.mpr (hall hout).1 habsent
  · have hwindow := (h.retransmitNack ha).status_of_sendWindow hgoes hb
    have hsame : WindowInPlace a ↔ WindowInPlace s := by
      rcases retransmitNack_cases crc32 ha with
        rfl | rfl | ⟨i, p, pkt, payload, -, -, -, rfl⟩ <;> exact Iff.rfl
    rw [hsame] at hwindow
    have hstatus : s'.status = b.status := by
      rcases hb' with ⟨-, rfl⟩ | ⟨-, htime⟩
      · rfl
      · rcases resendTimeout_cases crc32 htime with rfl | ⟨p, pkt, payload, -, -, -, -, rfl⟩ <;> rfl
    rw [hstatus, hwindow]
    exact ⟨fun hall _ => ⟨hnack.mp hgoes, hall⟩, fun hall => (hall hout).2⟩

/-- **One iteration** finds everything it looks up if and only if all of it is in place. -/
theorem Indexed.status_of_step {e : SenderPoll} (h : Indexed crc32 file s)
    (hrunning : s.status ≠ .absentLookup) (hstep : readWriteLoopSender crc32 s e = some s') :
    s'.status ≠ .absentLookup ↔ LookupsInPlace crc32 s e := by
  rcases readWriteLoopSender_cases crc32 hstep with ⟨hoff, rfl⟩ | ⟨hon, m, hm, hm'⟩
  · exact iff_of_true hrunning fun hon => absurd hon hoff
  have hmstatus : m.status ≠ .absentLookup := status_senderReceive_ne crc32 hm hrunning
  have hiff : LookupsInPlace crc32 s e ↔ (e.writable = .pollout → m.status ≠ .readFailed →
      NackInPlace m ∧ WindowInPlace m) := by
    constructor
    · exact fun hall hout hgoes => hall hon hout m hm hgoes
    · intro hall _ hout m' hm' hgoes
      obtain rfl := Option.some.inj (hm.symm.trans hm')
      exact hall hout hgoes
  rw [hiff]
  rcases hm' with ⟨hfailed, rfl⟩ | ⟨hgoes, hreply⟩
  · exact iff_of_true hmstatus fun _ hgoes => absurd hfailed hgoes
  · rw [(h.senderReceive hm).status_of_senderReply hmstatus hreply]
    exact ⟨fun hall hout _ => hall hout, fun hall hout => hall hout hgoes⟩

/-! ## Runs -/

theorem indexed_of_starts (hgen : Genuine crc32 file s) (h : Starts s) :
    Indexed crc32 file s where
  toGenuine := hgen
  toRecent := recent_of_starts h
  full := by rw [h.seqnum]
  nack_le := by
    rw [h.nack]
    decide

/-- An iteration that reads the NACK with the given number and finds the socket writable. -/
def nackPoll (num : ℕ) : SenderPoll :=
  { writePoll with
    readable := .pollin (.bytes (encoding zlibCrc32 (controlPkt blankPkt .nack num 4 0) [])) }

end TrtpNetwork
