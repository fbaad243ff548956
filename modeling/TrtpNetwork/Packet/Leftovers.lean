import TrtpNetwork.Library.Crc32
import TrtpNetwork.Packet.Exits

/-!
# What `pkt_decode` leaves of the structure it is given

`pkt_new` does not initialise the structure, and `pkt_decode` fills it in as it goes.  What its
caller finds afterwards is partly what was in the memory before.

* **The outcome.**  A length over 512 is refused by `pkt_set_length`, and the test that follows is
  on the length the structure happened to hold.  And a packet without payload is accepted with
  `payload` and `crc2` as they were.  These are the only two ways for the earlier contents to show
  (`decodesAlike_iff`).
* **The payload pointer.**  It is set last, the length long before.  At every exit in between the
  structure announces a payload that it does not have, and `pkt_del` releases whatever the pointer
  holds (`safeToDelete_iff`).
-/

namespace TrtpNetwork

variable (crc32 : List UInt8 → UInt32)

/-! ## The outcome -/

/-- Two calls on structures of any contents return the same status, and, if that is `PKT_OK`, the
same packet, field by field; a length field over 512 behind a valid type is `E_LENGTH`. -/
def DecodesAlike (malloc : Bool) (data : Memory) (len : ℕ) : Prop :=
  ∀ old old' : Pkt,
    (pktDecode crc32 malloc data len old).1 = (pktDecode crc32 malloc data len old').1 ∧
    ((pktDecode crc32 malloc data len old).1 = .pktOk →
      (pktDecode crc32 malloc data len old).2 = (pktDecode crc32 malloc data len old').2) ∧
    (8 ≤ len → ¬ Wire.BadType data → 512 < Wire.length data →
      (pktDecode crc32 malloc data len old).1 = .eLength)

section Outcome

variable {crc32} {malloc : Bool} {data : Memory} {len : ℕ}

theorem storedLength_of_gt (hlen : 512 < Wire.length data) (pkt : Pkt) :
    storedLength data pkt = pkt.length := by
  rw [storedLength, if_neg (by omega)]

/-- A length that is not refused is the same in every structure, and so is the rest of the
header. -/
theorem storedLength_eq (hlen : Wire.length data ≤ 512) (old old' : Pkt) :
    storedLength data old = storedLength data old' := by
  rw [storedLength, storedLength, if_pos hlen, if_pos hlen]

theorem storedLength_eq_zero_iff (hlen : Wire.length data ≤ 512) (pkt : Pkt) :
    storedLength data pkt = 0 ↔ Wire.length data = 0 := by
  rw [← UInt16.toNat_inj, toNat_storedLength hlen]
  rfl

/-- A structure that holds length 0 lets an over-long length field pass the length test. -/
theorem readsHeader_blankPkt (h8 : 8 ≤ len) (htype : ¬ Wire.BadType data)
    (hlen : 512 < Wire.length data) : ReadsHeader data len blankPkt :=
  ⟨h8, htype, by rw [storedLength_of_gt hlen]; decide⟩

/-- Behind the header, `E_LENGTH` is no longer returned. -/
theorem ReadsHeader.status_ne_eLength {pkt : Pkt} (h : ReadsHeader data len pkt) :
    (pktDecode crc32 malloc data len pkt).1 ≠ .eLength := by
  by_cases hcrc : crc32 (bytesAt data 0 8) = Wire.crc1 data
  · by_cases hzero : storedLength data pkt = 0
    · simp [h.pktDecode_empty crc32 malloc hcrc hzero]
    · by_cases hcrc2 : crc32 (bytesAt data 12 (storedLength data pkt).toNat) =
          Wire.crc2 data (storedLength data pkt).toNat
      · simp [h.pktDecode_payload crc32 malloc hcrc hzero hcrc2]
      · simp [h.pktDecode_badCrc2 crc32 malloc hcrc hzero hcrc2]
  · simp [h.pktDecode_badCrc1 crc32 malloc hcrc]

/-- Before the length is stored, the structure has no part in what is returned. -/
theorem decodesAlike_of_refused (h : len < 8 ∨ Wire.BadType data) :
    DecodesAlike crc32 malloc data len := by
  intro old old'
  by_cases h8 : len < 8
  · rw [pktDecode_of_noheader crc32 malloc h8, pktDecode_of_noheader crc32 malloc h8]
    exact ⟨rfl, by simp, fun h => absurd h8 (Nat.not_lt.mpr h)⟩
  · have htype := h.resolve_left h8
    rw [pktDecode_of_badType crc32 malloc (Nat.not_lt.mp h8) htype,
      pktDecode_of_badType crc32 malloc (Nat.not_lt.mp h8) htype]
    exact ⟨rfl, by simp, fun _ h => absurd htype h⟩

/-- With a payload, or a wrong header CRC, the structure is either complete or rejected. -/
theorem pktDecode_alike (malloc : Bool) (h8 : 8 ≤ len) (htype : ¬ Wire.BadType data)
    (hlen : Wire.length data ≤ 512)
    (h : 0 < Wire.length data ∨ crc32 (bytesAt data 0 8) ≠ Wire.crc1 data) (old old' : Pkt) :
    (pktDecode crc32 malloc data len old).1 = (pktDecode crc32 malloc data len old').1 ∧
    ((pktDecode crc32 malloc data len old).1 = .pktOk →
      (pktDecode crc32 malloc data len old).2 = (pktDecode crc32 malloc data len old').2) := by
  have hold := ReadsHeader.of_length h8 htype hlen old
  have hold' := ReadsHeader.of_length h8 htype hlen old'
  have hstored := storedLength_eq hlen old old'
  by_cases hcrc : crc32 (bytesAt data 0 8) = Wire.crc1 data
  · have hpos : Wire.length data ≠ 0 := (h.resolve_right (not_not.mpr hcrc)).ne'
    have hne := mt (storedLength_eq_zero_iff hlen old).mp hpos
    have hne' := mt (storedLength_eq_zero_iff hlen old').mp hpos
    by_cases hcrc2 : crc32 (bytesAt data 12 (storedLength data old).toNat) =
        Wire.crc2 data (storedLength data old).toNat
    · rw [hold.pktDecode_payload crc32 malloc hcrc hne hcrc2,
        hold'.pktDecode_payload crc32 malloc hcrc hne' (hstored ▸ hcrc2)]
      simp [decodedHeader, hstored]
    · rw [hold.pktDecode_badCrc2 crc32 malloc hcrc hne hcrc2,
        hold'.pktDecode_badCrc2 crc32 malloc hcrc hne' (hstored ▸ hcrc2)]
      simp
  · rw [hold.pktDecode_badCrc1 crc32 malloc hcrc, hold'.pktDecode_badCrc1 crc32 malloc hcrc]
    simp

end Outcome

/-- **Where the earlier contents of the structure do not show.**  For a datagram that is refused
before its length is stored, or has a length field of at most 512 and a payload or a wrong header
CRC; and for no other. -/
theorem decodesAlike_iff (malloc : Bool) (data : Memory) (len : ℕ) :
    DecodesAlike crc32 malloc data len ↔
      len < 8 ∨ Wire.BadType data ∨ (Wire.length data ≤ 512 ∧
        (0 < Wire.length data ∨ crc32 (bytesAt data 0 8) ≠ Wire.crc1 data)) := by
  constructor
  · intro h
    by_cases h8 : len < 8
    · exact Or.inl h8
    by_cases htype : Wire.BadType data
    · exact Or.inr (Or.inl htype)
    -- the header is read
    refine Or.inr (Or.inr ?_)
    by_cases hlen : Wire.length data ≤ 512
    · refine ⟨hlen, ?_⟩
      by_contra hcon
      obtain ⟨hzero, hcrc⟩ := not_or.mp hcon
      -- accepted without payload: the CRC of the payload is the one from before
      have hexit : ∀ old : Pkt, pktDecode crc32 malloc data len old =
          (.pktOk, decodedHeader data old) := fun old =>
        (ReadsHeader.of_length (Nat.not_lt.mp h8) htype hlen old).pktDecode_empty crc32 malloc
          (not_not.mp hcrc) ((storedLength_eq_zero_iff hlen old).mpr (by omega))
      have hsame := (h blankPkt { blankPkt with crc2 := 1 }).2.1
      rw [hexit, hexit] at hsame
      exact absurd (congrArg Pkt.crc2 (hsame rfl)) (by simp [decodedHeader, blankPkt])
    · -- refused by the setter, and the length tested is the one from before
      have hlen' : 512 < Wire.length data := Nat.not_le.mp hlen
      have hstatus := (h blankPkt blankPkt).2.2 (Nat.not_lt.mp h8) htype hlen'
      exact absurd hstatus
        (readsHeader_blankPkt (Nat.not_lt.mp h8) htype hlen').status_ne_eLength
  · rintro (h8 | htype | ⟨hlen, hrest⟩)
    · exact decodesAlike_of_refused (Or.inl h8)
    · exact decodesAlike_of_refused (Or.inr htype)
    · by_cases hrefused : len < 8 ∨ Wire.BadType data
      · exact decodesAlike_of_refused hrefused
      obtain ⟨h8, htype⟩ := not_or.mp hrefused
      intro old old'
      obtain ⟨hstatus, hpkt⟩ := pktDecode_alike malloc (Nat.not_lt.mp h8) htype hlen
        hrest old old'
      exact ⟨hstatus, hpkt, fun _ _ h => absurd h (Nat.not_lt.mpr hlen)⟩

/-- The header of a data packet with 513 in its length field, and its CRC. -/
def overlongDatagram : Memory :=
  memcpy (fun _ => 0) 0
    ([64, 2, 1, 0, 0, 0, 0, 0] ++ beBytes 4 (zlibCrc32 [64, 2, 1, 0, 0, 0, 0, 0]).toNat)

/-- **A length of 513 is accepted** into a structure that holds length 0. -/
theorem not_decodesAlike :
    ¬ ∀ (malloc : Bool) (data : Memory) (len : ℕ), DecodesAlike zlibCrc32 malloc data len := by
  intro h
  have hlength : (pktDecode zlibCrc32 true overlongDatagram 528 blankPkt).1 = .eLength :=
    (h true overlongDatagram 528 blankPkt blankPkt).2.2 (by decide) (by decide +kernel)
      (by decide +kernel)
  have hok : (pktDecode zlibCrc32 true overlongDatagram 528 blankPkt).1 = .pktOk := by
    decide +kernel
  rw [hok] at hlength
  cases hlength

/-! ## The payload pointer -/

/-- The call allocates this block: it is there afterwards even if the structure came with a pointer
to nothing. -/
def Allocates (malloc : Bool) (data : Memory) (len : ℕ) (fresh : Pkt) (bytes : List UInt8) :
    Prop :=
  (pktDecode crc32 malloc data len { fresh with payload := .wild }).2.payload = .block bytes

/-- The structure has no payload, or `NULL` for one, or a block of its length that the call
allocated. -/
def OwnsPayload (malloc : Bool) (data : Memory) (len : ℕ) (fresh q : Pkt) : Prop :=
  q.length = 0 ∨ q.payload = .null ∨ ∃ bytes, Allocates crc32 malloc data len fresh bytes ∧
    q.payload = .block bytes ∧ bytes.length = q.length.toNat

/-- What `pkt_decode` returns can be handed to `pkt_del`, and has its payload when it is
accepted. -/
structure SafeToDelete (malloc : Bool) (data : Memory) (len : ℕ) (fresh : Pkt) : Prop where
  owns : OwnsPayload crc32 malloc data len fresh (pktDecode crc32 malloc data len fresh).2
  deletes : pktDel (pktDecode crc32 malloc data len fresh).2 = some ()
  accepted : (pktDecode crc32 malloc data len fresh).1 = .pktOk →
    (pktDecode crc32 malloc data len fresh).2.length ≠ 0 →
      ∃ bytes, (pktDecode crc32 malloc data len fresh).2.payload = .block bytes

section Deletion

variable {crc32} {malloc : Bool} {data : Memory} {len : ℕ} {fresh : Pkt}

/-- A structure without payload is safe whatever its pointer. -/
theorem safeToDelete_of_length (h : (pktDecode crc32 malloc data len fresh).2.length = 0) :
    SafeToDelete crc32 malloc data len fresh where
  owns := Or.inl h
  deletes := by
    rw [pktDel, if_neg]
    rintro ⟨hpos, -⟩
    rw [h] at hpos
    exact absurd hpos (by decide)
  accepted := fun _ hne => absurd h hne

/-- A structure that still has the pointer it came with is not, once it has a length. -/
theorem not_safeToDelete_of_wild (h : (pktDecode crc32 malloc data len fresh).2.length ≠ 0)
    (hwild : (pktDecode crc32 malloc data len fresh).2.payload = .wild) :
    ¬ SafeToDelete crc32 malloc data len fresh := by
  intro hsafe
  have hpos : (pktDecode crc32 malloc data len fresh).2.length > 0 := UInt16.pos_iff_ne_zero.mpr h
  have hdel := hsafe.deletes
  rw [pktDel, if_pos ⟨hpos, hwild⟩] at hdel
  cases hdel

/-- The header announces no payload. -/
theorem safeToDelete_of_empty (h8 : 8 ≤ len) (htype : ¬ Wire.BadType data)
    (hzero : Wire.length data = 0) : SafeToDelete crc32 malloc data len fresh := by
  have hlen : Wire.length data ≤ 512 := by omega
  have h := ReadsHeader.of_length h8 htype hlen fresh
  have hlength := (storedLength_eq_zero_iff hlen fresh).mpr hzero
  apply safeToDelete_of_length
  by_cases hcrc : crc32 (bytesAt data 0 8) = Wire.crc1 data
  · rw [h.pktDecode_empty crc32 malloc hcrc hlength]
    exact hlength
  · rw [h.pktDecode_badCrc1 crc32 malloc hcrc]
    exact hlength

/-- The payload is announced, its CRC is right, and there is memory for it. -/
theorem safeToDelete_of_payload (h8 : 8 ≤ len) (htype : ¬ Wire.BadType data)
    (hlen : Wire.length data ≤ 512) (hne : Wire.length data ≠ 0)
    (hcrc : crc32 (bytesAt data 0 8) = Wire.crc1 data)
    (hcrc2 : crc32 (bytesAt data 12 (Wire.length data)) = Wire.crc2 data (Wire.length data)) :
    SafeToDelete crc32 true data len fresh := by
  have hexit : ∀ pkt : Pkt, pktDecode crc32 true data len pkt =
      (.pktOk, { decodedHeader data pkt with
        crc2 := Wire.crc2 data (Wire.length data)
        payload := .block (bytesAt data 12 (Wire.length data)) }) := by
    intro pkt
    have hstored := toNat_storedLength hlen pkt
    rw [(ReadsHeader.of_length h8 htype hlen pkt).pktDecode_payload crc32 true hcrc
      (mt (storedLength_eq_zero_iff hlen pkt).mp hne) (by rw [hstored]; exact hcrc2), hstored,
      if_pos rfl]
  have hblock : (pktDecode crc32 true data len fresh).2.payload =
      .block (bytesAt data 12 (Wire.length data)) := by
    rw [hexit]
  have hallocates : Allocates crc32 true data len fresh (bytesAt data 12 (Wire.length data)) := by
    rw [Allocates, hexit]
  have hlength : (bytesAt data 12 (Wire.length data)).length =
      (pktDecode crc32 true data len fresh).2.length.toNat := by
    rw [length_bytesAt, hexit]
    exact (toNat_storedLength hlen fresh).symm
  refine ⟨Or.inr (Or.inr ⟨_, hallocates, hblock, hlength⟩), ?_, fun _ _ => ⟨_, hblock⟩⟩
  rw [pktDel, if_neg]
  rintro ⟨-, hwild⟩
  rw [hblock] at hwild
  cases hwild

/-- A structure as `pkt_new` may return it: a length over 512 and a pointer to nothing. -/
def danglingPkt : Pkt := { blankPkt with length := 600, payload := .wild }

/-- A header that is not read to its end leaves the structure with its length and its pointer. -/
theorem not_safeToDelete_of_refused
    (h : len < 8 ∨ Wire.BadType data ∨ 512 < Wire.length data) :
    ¬ SafeToDelete crc32 malloc data len danglingPkt := by
  have hlength : danglingPkt.length ≠ 0 := by decide
  by_cases h8 : len < 8
  · have hexit : pktDecode crc32 malloc data len danglingPkt = _ :=
      pktDecode_of_noheader crc32 malloc h8
    exact not_safeToDelete_of_wild (by rw [hexit]; exact hlength) (by rw [hexit]; rfl)
  by_cases htype : Wire.BadType data
  · have hexit : pktDecode crc32 malloc data len danglingPkt = _ :=
      pktDecode_of_badType crc32 malloc (Nat.not_lt.mp h8) htype
    exact not_safeToDelete_of_wild (by rw [hexit]; exact hlength) (by rw [hexit]; rfl)
  · have hlen := (h.resolve_left h8).resolve_left htype
    have hstored := storedLength_of_gt hlen danglingPkt
    have hexit : pktDecode crc32 malloc data len danglingPkt = _ :=
      pktDecode_of_overlong crc32 malloc (Nat.not_lt.mp h8) htype (by rw [hstored]; decide)
    exact not_safeToDelete_of_wild (by rw [hexit, hstored]; exact hlength) (by rw [hexit]; rfl)

/-- A CRC that does not match is noticed when the length is stored and the payload is not. -/
theorem not_safeToDelete_of_badCrc (h8 : 8 ≤ len) (htype : ¬ Wire.BadType data)
    (hlen : Wire.length data ≤ 512) (hne : Wire.length data ≠ 0)
    (hbad : crc32 (bytesAt data 0 8) = Wire.crc1 data →
      crc32 (bytesAt data 12 (Wire.length data)) ≠ Wire.crc2 data (Wire.length data)) :
    ¬ SafeToDelete crc32 malloc data len danglingPkt := by
  have h := ReadsHeader.of_length h8 htype hlen danglingPkt
  have hstored := toNat_storedLength hlen danglingPkt
  have hpos := mt (storedLength_eq_zero_iff hlen danglingPkt).mp hne
  by_cases hcrc : crc32 (bytesAt data 0 8) = Wire.crc1 data
  · have hexit := h.pktDecode_badCrc2 crc32 malloc hcrc hpos (by rw [hstored]; exact hbad hcrc)
    exact not_safeToDelete_of_wild (by rw [hexit]; exact hpos) (by rw [hexit]; rfl)
  · have hexit := h.pktDecode_badCrc1 crc32 malloc hcrc
    exact not_safeToDelete_of_wild (by rw [hexit]; exact hpos) (by rw [hexit]; rfl)

/-- Without memory the packet is accepted all the same, its payload `NULL`. -/
theorem not_safeToDelete_of_nomem (h8 : 8 ≤ len) (htype : ¬ Wire.BadType data)
    (hlen : Wire.length data ≤ 512) (hne : Wire.length data ≠ 0)
    (hcrc : crc32 (bytesAt data 0 8) = Wire.crc1 data)
    (hcrc2 : crc32 (bytesAt data 12 (Wire.length data)) = Wire.crc2 data (Wire.length data)) :
    ¬ SafeToDelete crc32 false data len danglingPkt := by
  intro hsafe
  have hpos := mt (storedLength_eq_zero_iff hlen danglingPkt).mp hne
  have hexit := (ReadsHeader.of_length h8 htype hlen danglingPkt).pktDecode_payload crc32 false
    hcrc hpos (by rw [toNat_storedLength hlen]; exact hcrc2)
  obtain ⟨bytes, hblock⟩ := hsafe.accepted (by rw [hexit]) (by rw [hexit]; exact hpos)
  rw [hexit] at hblock
  cases hblock

end Deletion

/-- **When what `pkt_decode` leaves is safe to delete.**  For every structure `pkt_new` may return,
exactly if the datagram gets past the checks of the header with a length field of at most 512, and
this is 0, or both CRCs are right and the payload can be allocated. -/
theorem safeToDelete_iff (malloc : Bool) (data : Memory) (len : ℕ) :
    (∀ fresh : Pkt, SafeToDelete crc32 malloc data len fresh) ↔
      8 ≤ len ∧ ¬ Wire.BadType data ∧ Wire.length data ≤ 512 ∧
        (Wire.length data = 0 ∨ crc32 (bytesAt data 0 8) = Wire.crc1 data ∧
          crc32 (bytesAt data 12 (Wire.length data)) = Wire.crc2 data (Wire.length data) ∧
          malloc = true) := by
  constructor
  · intro hall
    have hsafe := hall danglingPkt
    by_cases hrefused : len < 8 ∨ Wire.BadType data ∨ 512 < Wire.length data
    · exact absurd hsafe (not_safeToDelete_of_refused hrefused)
    obtain ⟨h8, hrest⟩ := not_or.mp hrefused
    obtain ⟨htype, hlen⟩ := not_or.mp hrest
    have h8' := Nat.not_lt.mp h8
    have hlen' := Nat.not_lt.mp hlen
    refine ⟨h8', htype, hlen', ?_⟩
    by_cases hzero : Wire.length data = 0
    · exact Or.inl hzero
    refine Or.inr ?_
    by_contra hcon
    by_cases hcrcs : crc32 (bytesAt data 0 8) = Wire.crc1 data ∧
        crc32 (bytesAt data 12 (Wire.length data)) = Wire.crc2 data (Wire.length data)
    · obtain ⟨hcrc, hcrc2⟩ := hcrcs
      cases malloc with
      | false => exact not_safeToDelete_of_nomem h8' htype hlen' hzero hcrc hcrc2 hsafe
      | true => exact hcon ⟨hcrc, hcrc2, rfl⟩
    · exact not_safeToDelete_of_badCrc h8' htype hlen' hzero
        (fun hcrc hcrc2 => hcrcs ⟨hcrc, hcrc2⟩) hsafe
  · rintro ⟨h8, htype, hlen, hzero | ⟨hcrc, hcrc2, rfl⟩⟩ fresh
    · exact safeToDelete_of_empty h8 htype hzero
    · by_cases hzero : Wire.length data = 0
      · exact safeToDelete_of_empty h8 htype hzero
      · exact safeToDelete_of_payload h8 htype hlen hzero hcrc hcrc2

/-- A data packet of three bytes with a CRC that does not match. -/
def brokenDatagram : Memory := memcpy (fun _ => 0) 0 [64, 0, 3]

/-- **The sender's `pkt_del` releases a pointer that was never allocated**, after `E_CRC`. -/
theorem not_safeToDelete :
    ¬ ∀ (malloc : Bool) (data : Memory) (len : ℕ) (fresh : Pkt),
      SafeToDelete zlibCrc32 malloc data len fresh := by
  intro h
  have hcrc : (pktDecode zlibCrc32 true brokenDatagram 512 danglingPkt).1 = .eCrc := by
    decide +kernel
  have hdel : pktDel (pktDecode zlibCrc32 true brokenDatagram 512 danglingPkt).2 = none := by
    decide +kernel
  have hsome := (h true brokenDatagram 512 danglingPkt).deletes
  rw [hdel] at hsome
  cases hsome

end TrtpNetwork
