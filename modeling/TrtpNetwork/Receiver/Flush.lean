import TrtpNetwork.Receiver.Bookkeeping

/-!
# What one flush does to the packets

`clear_and_fill_buffer_r` takes the leading run off the table, writes it out and moves the rest to
the front.  `ConservesPackets` is that, slot by slot, with its consequence for the packets: those of
the old table are those written, followed by those of the new table.

The shift runs over the indices from the first empty place on, and clears nothing.  A packet in the
last slot behind a hole is therefore in two slots afterwards, unless the run is empty or fills the
table (`conservesPackets_iff`).
-/

namespace TrtpNetwork

/-- The call writes the payloads of the leading run, in order and once each, adds its length to
`free_place`, and leaves the rest of the table shifted to the front, with `NULL` behind it. -/
def ConservesPackets (r : Receiver) : Prop :=
  ∃ (r' : Receiver) (s : ℕ) (pkt : ℕ → Pkt) (bytes : ℕ → List UInt8),
    clearAndFillBufferR r = some r' ∧ r.listPkt s = none ∧
    (∀ k < s, r.listPkt k = some (pkt k) ∧ (pkt k).content = some (bytes k)) ∧
    r'.stdout = r.stdout ++ (List.range s).map bytes ∧
    r'.freePlace = r.freePlace + s ∧
    (∀ k < realWindow, r'.listPkt k = if k + s < realWindow then r.listPkt (k + s) else none) ∧
    occupants r.listPkt realWindow = (List.range s).map pkt ++ occupants r'.listPkt realWindow

/-- The leading run can be written out, and the shift behind it leaves no packet in a slot it came
from. -/
def FlushesClean (listPkt : Slots Pkt) : Prop :=
  ∃ s, firstEmptyPlace listPkt = some s ∧
    (∀ k < s, ∃ pkt, listPkt k = some pkt ∧ pkt.content ≠ none) ∧ ShiftsAll listPkt s

variable {r : Receiver}

/-- The table of a flush behind a leading run of length `s`. -/
theorem flushedTable_eq_iff {t : Slots Pkt} {s : ℕ} (hend : t realWindow = none)
    (hs : firstEmptyPlace t = some s) :
    (∀ k < realWindow, flushedTable t s k = if k + s < realWindow then t (k + s) else none) ↔
      ShiftsAll t s := by
  obtain ⟨-, hfree, -⟩ := firstEmptyPlace_eq_some_iff.mp hs
  have hle : s ≤ realWindow := firstEmptyPlace_le hend hs
  unfold ShiftsAll
  constructor
  · intro h
    by_cases h0 : s = 0
    · exact Or.inl h0
    by_cases h4 : s = realWindow
    · exact Or.inr (Or.inl h4)
    -- the last slot is behind the hole, and what is in it stays
    have hlast := h (realWindow - 1) (by decide)
    rw [flushedTable_apply, if_neg (by unfold realWindow at *; omega),
      if_neg (by unfold realWindow at *; omega), if_neg (by unfold realWindow at *; omega)] at hlast
    exact Or.inr (Or.inr hlast)
  · intro h k hk
    rw [flushedTable_apply]
    by_cases hks : k < realWindow - s
    · rw [if_pos hks, if_pos (by omega)]
    rw [if_neg hks, if_neg (show ¬ k + s < realWindow by omega)]
    by_cases hk' : k < s
    · rw [if_pos hk']
    rw [if_neg hk']
    -- neither freed nor overwritten: the hole itself, or the last slot
    rcases h with rfl | rfl | hlast
    · omega
    · omega
    · unfold realWindow at *
      by_cases hkh : k = s
      · rw [hkh]
        exact hfree
      · have hk3 : k = 3 := by omega
        rw [hk3]
        exact hlast

/-- **When a flush conserves packets.**  For every table with `NULL` behind its last slot: exactly
if the payloads of the leading run can be read, and the run is empty, or fills the table, or the
last slot is empty. -/
theorem conservesPackets_iff (r : Receiver) (hend : r.listPkt realWindow = none) :
    ConservesPackets r ↔ FlushesClean r.listPkt := by
  constructor
  · rintro ⟨r', s, pkt, bytes, hflush, hfree, hrun, -, -, htable, -⟩
    obtain ⟨s', written, hs', -, rfl⟩ := clearAndFillBufferR_cases hflush
    obtain ⟨-, hfree', hfull'⟩ := firstEmptyPlace_eq_some_iff.mp hs'
    obtain rfl : s = s' := by
      rcases Nat.lt_trichotomy s s' with hlt | heq | hgt
      · exact absurd hfree (hfull' s hlt)
      · exact heq
      · rw [(hrun s' hgt).1] at hfree'
        cases hfree'
    refine ⟨s, hs', fun k hk => ⟨pkt k, (hrun k hk).1, ?_⟩, ?_⟩
    · rw [(hrun k hk).2]
      exact Option.some_ne_none _
    · exact (flushedTable_eq_iff hend hs').mp htable
  · rintro ⟨s, hs, hread, hshift⟩
    obtain ⟨-, hfree, -⟩ := firstEmptyPlace_eq_some_iff.mp hs
    have hle : s ≤ realWindow := firstEmptyPlace_le hend hs
    have hcontent : ∀ k, ∃ (pkt : Pkt) (bytes : List UInt8), k < s →
        r.listPkt k = some pkt ∧ pkt.content = some bytes := by
      intro k
      by_cases hk : k < s
      · obtain ⟨pkt, hpkt, hne⟩ := hread k hk
        obtain ⟨bytes, hbytes⟩ := Option.ne_none_iff_exists'.mp hne
        exact ⟨pkt, bytes, fun _ => ⟨hpkt, hbytes⟩⟩
      · exact ⟨blankPkt, [], fun h => absurd h hk⟩
    choose pkt bytes hrun using hcontent
    have hflush := clearAndFillBufferR_eq hs fun i hi => ⟨pkt i, hrun i hi⟩
    have htable := (flushedTable_eq_iff hend hs).mpr hshift
    exact ⟨_, s, pkt, bytes, hflush, hfree, hrun, rfl, rfl, htable,
      occupants_shift hle (fun k hk => (hrun k hk).1) htable⟩

/-- A receiver with packets in these slots. -/
def receiverWith (slots : List ℕ) : Receiver :=
  { Receiver.init fun _ => 0 with
    listPkt := fun k => if k ∈ slots then some { threeBytes with seqnum := UInt8.ofNat k } else none
    freePlace := realWindow - slots.length }

/-- Two packets in front, one behind them. -/
theorem conservesPackets_receiverWith : ConservesPackets (receiverWith [0, 2]) := by
  refine (conservesPackets_iff (receiverWith [0, 2]) rfl).mpr ⟨1, by decide, fun k hk => ?_, ?_⟩
  · obtain rfl : k = 0 := by omega
    exact ⟨_, rfl, by decide⟩
  · exact Or.inr (Or.inr rfl)

/-- **A packet behind a hole is duplicated**: that of the last slot is in slot 2 and still in
slot 3. -/
theorem not_conservesPackets :
    ¬ ∀ r : Receiver, r.listPkt realWindow = none →
      (∀ k pkt, r.listPkt k = some pkt → pkt.content ≠ none) → ConservesPackets r := by
  intro h
  have hread : ∀ k pkt, (receiverWith [0, 3]).listPkt k = some pkt → pkt.content ≠ none := by
    intro k pkt hk
    have hslot : (if k ∈ [0, 3] then some { threeBytes with seqnum := UInt8.ofNat k } else none) =
        some pkt := hk
    split at hslot
    · obtain rfl := Option.some.inj hslot
      exact fun hnone => by cases hnone
    · cases hslot
  obtain ⟨r', s, -, -, hflush, hfree, -, -, -, htable, -⟩ := h (receiverWith [0, 3]) rfl hread
  have hlast : (clearAndFillBufferR (receiverWith [0, 3])).map
      (fun r => (r.listPkt 3).map Pkt.seqnum) = some (some 3) := by
    decide +kernel
  have hs : s ≠ 0 := by
    rintro rfl
    cases hfree
  have hnone : r'.listPkt 3 = none := by
    rw [htable 3 (by decide), if_neg (by unfold realWindow; omega)]
  rw [hflush, Option.map_some, hnone] at hlast
  cases hlast

end TrtpNetwork
