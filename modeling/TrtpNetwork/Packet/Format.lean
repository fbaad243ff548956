import TrtpNetwork.Packet.RoundTrip

/-!
# The documented format, and what `pkt_decode` accepts

`packet_interface.h` says what `pkt_decode` verifies: the header CRC "with the TR field taken as
0", the CRC of the payload if there is one, a valid type, and a length and TR bit that are valid and
consistent with the number of bytes received.  `DocumentedFormat` is that text as a predicate on
the bytes.

The function differs from it in both directions.  It makes its checks on other values than the text
says (the header CRC includes the TR bit, a refused length leaves an older one behind) and leaves
some out (the type, the twelve bytes of a header, the bytes of the payload section).
`pktDecode_eq_format_iff` says on which inputs the two agree.
-/

namespace TrtpNetwork

variable (crc32 : List UInt8 → UInt32)

/-- The eight header bytes with the TR bit as 0. -/
def headerTrCleared (data : Memory) : List UInt8 :=
  (data 0 &&& 0xDF) :: bytesAt data 1 7

/-- The format of `packet_interface.h`, for a datagram of `len` bytes. -/
def DocumentedFormat (data : Memory) (len : ℕ) : Prop :=
  12 ≤ len ∧ Wire.type data ≠ .zero ∧ (Wire.tr data = 0 ∨ Wire.type data = .data) ∧
  Wire.length data ≤ 512 ∧ crc32 (headerTrCleared data) = Wire.crc1 data ∧
  (Wire.length data = 0 ∨ Wire.tr data = 1 ∨
    16 + Wire.length data ≤ len ∧
      crc32 (bytesAt data 12 (Wire.length data)) = Wire.crc2 data (Wire.length data))

/-- The two CRC tests as the function makes them, for a payload of `n` bytes: the header with its
TR bit, and the bytes behind the header whatever TR says. -/
def PassesCrcs (data : Memory) (n : ℕ) : Prop :=
  crc32 (bytesAt data 0 8) = Wire.crc1 data ∧
    (0 < n → crc32 (bytesAt data 12 n) = Wire.crc2 data n)

/-- The bytes on which the tests the function makes are the ones the format asks for, or come to the
same.
* Fewer than eight bytes, or TR on another packet than a data packet: both refuse it.
* A length over 512, which is not stored: the older length is over 512 as well, or a CRC test that
  is made for a payload of the older length fails.
* TR clear: a CRC test fails, or nothing is wrong that is not tested (the bytes of a header are
  there, the type is not the reserved one, the bytes of a payload section are there if there is
  one).
* TR set: the CRC tests, which include the TR bit and the payload that is not there, pass when the
  right one would and the bytes of a header are there. -/
def TestsSuffice (data : Memory) (len : ℕ) (pkt : Pkt) : Prop :=
  len < 8 ∨ (Wire.tr data = 1 ∧ Wire.type data ≠ .data) ∨
  (512 < Wire.length data ∧
    (512 < pkt.length.toNat ∨ ¬ PassesCrcs crc32 data pkt.length.toNat)) ∨
  (Wire.length data ≤ 512 ∧ Wire.tr data = 0 ∧
    (¬ PassesCrcs crc32 data (Wire.length data) ∨
      12 ≤ len ∧ Wire.type data ≠ .zero ∧
        (Wire.length data = 0 ∨ 16 + Wire.length data ≤ len))) ∨
  (Wire.length data ≤ 512 ∧ Wire.tr data = 1 ∧
    (PassesCrcs crc32 data (Wire.length data) ↔
      12 ≤ len ∧ crc32 (headerTrCleared data) = Wire.crc1 data))

theorem tr_eq_one_of_ne_zero {data : Memory} (h : Wire.tr data ≠ 0) : Wire.tr data = 1 := by
  rcases Fin.exists_fin_two.mp ⟨Wire.tr data, rfl⟩ with h0 | h1
  · exact absurd h0 h
  · exact h1

/-- With TR clear, clearing it changes nothing. -/
theorem headerTrCleared_of_tr_zero {data : Memory} (h : Wire.tr data = 0) :
    headerTrCleared data = bytesAt data 0 8 := by
  have key : ∀ n : Fin 256, n.val / 32 % 2 = 0 → n.val &&& 223 = n.val := by decide +kernel
  have htr : (data 0).toNat / 32 % 2 = 0 := by
    have := congrArg Fin.val h
    simpa [Wire.tr] using this
  have hb : data 0 &&& 0xDF = data 0 := by
    apply UInt8.toNat_inj.mp
    rw [UInt8.toNat_and]
    exact key ⟨(data 0).toNat, (data 0).toNat_lt⟩ htr
  rw [headerTrCleared, hb, show (8 : ℕ) = 1 + 7 from rfl, bytesAt_add]
  simp [bytesAt]

/-- **Where `pkt_decode` implements its documentation.**  On an input it returns `PKT_OK` exactly
when the datagram has the documented format, if and only if its tests suffice for these bytes. -/
theorem pktDecode_eq_format_iff (malloc : Bool) (data : Memory) (len : ℕ) (pkt : Pkt) :
    ((pktDecode crc32 malloc data len pkt).1 = .pktOk ↔ DocumentedFormat crc32 data len) ↔
      TestsSuffice crc32 data len pkt := by
  rw [pktDecode_status_eq_pktOk_iff]
  unfold DocumentedFormat TestsSuffice PassesCrcs
  by_cases htr : Wire.tr data = 0
  · -- the header is the one the CRC is specified over; only omissions are left
    have h1 : Wire.tr data ≠ 1 := by rw [htr]; decide
    rw [headerTrCleared_of_tr_zero htr]
    by_cases hl : Wire.length data ≤ 512
    · rw [toNat_storedLength hl]
      have hpos : Wire.length data = 0 ∨ 0 < Wire.length data := Nat.eq_zero_or_pos _
      grind
    · rw [storedLength, if_neg hl]
      grind
  · have h1 := tr_eq_one_of_ne_zero htr
    by_cases hl : Wire.length data ≤ 512
    · rw [toNat_storedLength hl]
      grind
    · rw [storedLength, if_neg hl]
      grind

/-- The twelve bytes of a packet with all fields 0, type bits included, in a buffer of zeros. -/
def reservedDatagram : Memory := memcpy (fun _ => 0) 0 (encoding zlibCrc32 blankPkt [])

/-- The reserved type passes: `pkt_decode` accepts a datagram the documentation excludes. -/
theorem pktDecode_ne_format :
    ¬ ∀ (malloc : Bool) (data : Memory) (len : ℕ) (pkt : Pkt),
      (pktDecode zlibCrc32 malloc data len pkt).1 = .pktOk ↔
        DocumentedFormat zlibCrc32 data len := by
  intro h
  have hstart : StartsWith reservedDatagram (encoding zlibCrc32 blankPkt []) :=
    startsWith_memcpy _ _
  have hok : pktDecode zlibCrc32 true reservedDatagram 12 blankPkt =
      (.pktOk, decodedPkt zlibCrc32 true blankPkt [] blankPkt) :=
    pktDecode_of_startsWith zlibCrc32 rfl rfl (by decide) hstart (by decide) true blankPkt
  have hdoc := (h true reservedDatagram 12 blankPkt).mp (by rw [hok])
  exact hdoc.2.1 (Wire.type_of_startsWith hstart)

end TrtpNetwork
