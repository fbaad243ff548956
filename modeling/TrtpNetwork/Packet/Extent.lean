import TrtpNetwork.Packet.Socket

/-!
# How far `pkt_decode` looks

`pkt_decode` is told the size of the buffer, not of the datagram, and stops reading where its checks
tell it to: after the first byte if the type is refused, after the length if that is, after the
header CRC if it does not match or announces no payload, and after the CRC of the payload
otherwise.  `LooksWithin data n pkt` says that this is within the first `n` bytes.  Then the bytes
behind them have no part in the result (`pktDecode_congr`), and a datagram of which it holds is
decoded the same whatever the buffer held before (`decodeRead_congr`).
-/

namespace TrtpNetwork

variable (crc32 : List UInt8 → UInt32)

/-- The bytes `pkt_decode` looks at are among the first `n`. -/
def LooksWithin (data : Memory) (n : ℕ) (pkt : Pkt) : Prop :=
  (1 ≤ n ∧ Wire.tr data ≠ 0 ∧ Wire.type data ≠ .data) ∨
  (3 ≤ n ∧ storedLength data pkt > 512) ∨
  (12 ≤ n ∧ (crc32 (bytesAt data 0 8) ≠ Wire.crc1 data ∨ storedLength data pkt = 0 ∨
    16 + (storedLength data pkt).toNat ≤ n))

instance (data : Memory) (n : ℕ) (pkt : Pkt) : Decidable (LooksWithin crc32 data n pkt) := by
  unfold LooksWithin
  infer_instance

variable {data data' : Memory} {n : ℕ}

/-! ## Fields of memories that agree at the front -/

section Agree

variable (h : ∀ i < n, data i = data' i)

include h

theorem bytesAt_agree {off k : ℕ} (hk : off + k ≤ n) : bytesAt data off k = bytesAt data' off k :=
  bytesAt_congr fun i _ hi => h i (by omega)

theorem firstByte_agree (hn : 1 ≤ n) :
    Wire.type data = Wire.type data' ∧ Wire.tr data = Wire.tr data' ∧
      Wire.window data = Wire.window data' := by
  unfold Wire.type Wire.tr Wire.window
  rw [h 0 (by omega)]
  exact ⟨rfl, rfl, rfl⟩

theorem storedLength_agree (hn : 3 ≤ n) (pkt : Pkt) :
    storedLength data pkt = storedLength data' pkt := by
  unfold storedLength Wire.length
  rw [bytesAt_agree h (by omega)]

theorem decodedHeader_agree (hn : 12 ≤ n) (pkt : Pkt) :
    decodedHeader data pkt = decodedHeader data' pkt := by
  obtain ⟨htype, htr, hwindow⟩ := firstByte_agree h (by omega)
  unfold decodedHeader Wire.seqnum Wire.timestamp Wire.crc1
  rw [htype, htr, hwindow, storedLength_agree h (by omega) pkt, h 3 (by omega),
    bytesAt_agree h (show 4 + 4 ≤ n by omega), bytesAt_agree h (show 8 + 4 ≤ n by omega)]

theorem crc1_agree (hn : 12 ≤ n) : Wire.crc1 data = Wire.crc1 data' := by
  unfold Wire.crc1
  rw [bytesAt_agree h (by omega)]

theorem crc2_agree {k : ℕ} (hn : 16 + k ≤ n) : Wire.crc2 data k = Wire.crc2 data' k := by
  unfold Wire.crc2
  rw [bytesAt_agree h (by omega)]

theorem pktSetPayload_agree {length : UInt16} (hn : 12 + length.toNat ≤ n) (malloc : Bool)
    (pkt : Pkt) :
    pktSetPayload malloc pkt (fun i => data (12 + i)) length =
      pktSetPayload malloc pkt (fun i => data' (12 + i)) length := by
  unfold pktSetPayload
  rw [bytesAt_shift, bytesAt_shift, bytesAt_agree h (by omega)]

/-- **`pkt_decode` depends on the bytes it looks at only.** -/
theorem pktDecode_congr {pkt : Pkt} (hlook : LooksWithin crc32 data n pkt) (malloc : Bool)
    (len : ℕ) : pktDecode crc32 malloc data len pkt = pktDecode crc32 malloc data' len pkt := by
  rw [pktDecode_eq, pktDecode_eq]
  by_cases h8 : len < 8
  · rw [if_pos h8, if_pos h8]
  rw [if_neg h8, if_neg h8]
  have hn1 : 1 ≤ n := by
    rcases hlook with ⟨hn, -⟩ | ⟨hn, -⟩ | ⟨hn, -⟩ <;> omega
  obtain ⟨htype, htr, hwindow⟩ := firstByte_agree h hn1
  rw [← htype, ← htr, ← hwindow]
  by_cases hrefused : Wire.tr data ≠ 0 ∧ Wire.type data ≠ .data
  · rw [if_pos hrefused, if_pos hrefused]
  rw [if_neg hrefused, if_neg hrefused]
  have hn3 : 3 ≤ n := by
    rcases hlook with ⟨-, hbad⟩ | ⟨hn, -⟩ | ⟨hn, -⟩
    · exact absurd hbad hrefused
    · exact hn
    · omega
  rw [← storedLength_agree h hn3]
  by_cases hlen : storedLength data pkt > 512
  · rw [if_pos hlen, if_pos hlen]
  rw [if_neg hlen, if_neg hlen]
  obtain ⟨hn12, hrest⟩ : 12 ≤ n ∧ (crc32 (bytesAt data 0 8) ≠ Wire.crc1 data ∨
      storedLength data pkt = 0 ∨ 16 + (storedLength data pkt).toNat ≤ n) := by
    rcases hlook with ⟨-, hbad⟩ | ⟨-, hbad⟩ | hrest
    · exact absurd hbad hrefused
    · exact absurd hbad hlen
    · exact hrest
  rw [← crc1_agree h hn12, ← decodedHeader_agree h hn12, ← bytesAt_agree h (by omega)]
  by_cases hcrc : crc32 (bytesAt data 0 8) ≠ Wire.crc1 data
  · rw [if_pos hcrc, if_pos hcrc]
  rw [if_neg hcrc, if_neg hcrc]
  by_cases hpos : storedLength data pkt > 0
  · have hn16 : 16 + (storedLength data pkt).toNat ≤ n := by
      rcases hrest with hbad | hzero | hn16
      · exact absurd hbad hcrc
      · rw [hzero] at hpos
        exact absurd hpos (by decide)
      · exact hn16
    rw [if_pos hpos, if_pos hpos]
    simp only
    rw [← crc2_agree h hn16, ← bytesAt_agree h (show 12 + _ ≤ n by omega)]
    rw [pktSetPayload_agree h (by simp only [decodedHeader]; omega)]
  · rw [if_neg hpos, if_neg hpos]

end Agree

/-! ## Reading a datagram -/

/-- What is read settles its decoding by itself: the datagram fills the buffer, or `pkt_decode` does
not look behind it. -/
def SettlesDecoding (fresh : Pkt) : ReadResult → Prop
  | .error => False
  | .bytes datagram => maxBufferSize ≤ datagram.length ∨
      LooksWithin crc32 (memcpy (fun _ => 0) 0 datagram) datagram.length fresh

instance (fresh : Pkt) (result : ReadResult) :
    Decidable (SettlesDecoding crc32 fresh result) := by
  unfold SettlesDecoding
  cases result <;> infer_instance

/-- **Such a datagram is decoded the same in every buffer.** -/
theorem decodeRead_congr {fresh : Pkt} {result : ReadResult}
    (h : SettlesDecoding crc32 fresh result) (buffer buffer' beyond : Memory) :
    decodeRead crc32 buffer result beyond fresh = decodeRead crc32 buffer' result beyond fresh := by
  cases result with
  | error => exact h.elim
  | bytes datagram =>
    by_cases hfull : maxBufferSize ≤ datagram.length
    · -- the whole buffer is overwritten
      have hview : bufferView (readInto buffer (.bytes datagram)) beyond =
          bufferView (readInto buffer' (.bytes datagram)) beyond := by
        funext i
        unfold bufferView
        split
        · rw [readInto, readInto, memcpy_of_mem (Nat.zero_le i) (by rw [List.length_take]; omega),
            memcpy_of_mem (Nat.zero_le i) (by rw [List.length_take]; omega)]
        · rfl
      rw [decodeRead, decodeRead, hview]
    · have hlook := h.resolve_left hfull
      have hstart : ∀ b : Memory, ∀ i < datagram.length, memcpy (fun _ => 0) 0 datagram i =
          bufferView (readInto b (.bytes datagram)) beyond i := by
        intro b i hi
        rw [startsWith_bufferView (by omega) b beyond i hi,
          memcpy_of_mem (Nat.zero_le i) (by omega)]
        rfl
      rw [decodeRead, decodeRead,
        ← pktDecode_congr crc32 (hstart buffer) hlook true maxBufferSize,
        ← pktDecode_congr crc32 (hstart buffer') hlook true maxBufferSize]

end TrtpNetwork
