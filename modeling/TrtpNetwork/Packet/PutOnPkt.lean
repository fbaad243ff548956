import TrtpNetwork.Packet.RoundTrip
import Mathlib.Algebra.Order.Ring.Int

/-!
# What `put_on_pkt` produces

Both loops build their packets with `put_on_pkt`: the sender data packets, the receiver ACKs and
NACKs without payload.  `putOnPkt_control` and `putOnPkt_data` give the packet and the bytes in
closed form.  A fresh structure shows through in two places only: the window, when the argument
does not fit five bits, and the fields that belong to a payload section, when there is none.
-/

namespace TrtpNetwork

variable (crc32 : List UInt8 → UInt32)

theorem toNat_toUint8 (z : ℤ) : ((toUint8 z).toNat : ℤ) = z % 256 := by
  rw [toUint8, UInt8.toNat_ofNat']
  omega

theorem toNat_toUint8_natCast (n : ℕ) : (toUint8 n).toNat = n % 256 := by
  have h := toNat_toUint8 n
  omega

theorem toNat_toUint16 {n : ℕ} (h : n < 65536) : (toUint16 n).toNat = n := by
  rw [toUint16, UInt16.toNat_ofNat']
  omega

/-- The window field `put_on_pkt` leaves: the argument when it is at most 31, else whatever the
fresh structure held. -/
def windowField (fresh : Pkt) (window : ℤ) : Fin 32 :=
  (pktSetWindow fresh (toUint8 window)).2.window

theorem pktSetWindow_eq (pkt fresh : Pkt) (window : ℤ) (h : pkt.window = fresh.window) :
    (pktSetWindow pkt (toUint8 window)).2 = { pkt with window := windowField fresh window } := by
  unfold windowField pktSetWindow
  split
  · rw [← h]
  · rfl

theorem val_windowField {fresh : Pkt} {window : ℤ} (h₀ : 0 ≤ window) (h₁ : window ≤ 31) :
    ((windowField fresh window).val : ℤ) = window := by
  have hn := toNat_toUint8 window
  have hlt : (toUint8 window).toNat < 32 := by omega
  rw [windowField, pktSetWindow_snd hlt, Fin.val_ofNat, Nat.mod_eq_of_lt hlt]
  omega

/-! ## ACKs and NACKs -/

/-- The packet of a reply: no payload, length 0. -/
def controlPkt (fresh : Pkt) (type : Ptypes) (seqnum window : ℤ) (timestamp : UInt32) : Pkt :=
  { fresh with
    type := type
    tr := 0
    window := windowField fresh window
    length := 0
    seqnum := toUint8 seqnum
    timestamp := timestamp }

@[simp] theorem content_controlPkt (fresh : Pkt) (type : Ptypes) (seqnum window : ℤ)
    (timestamp : UInt32) : (controlPkt fresh type seqnum window timestamp).content = some [] := rfl

@[simp] theorem pktDel_controlPkt (fresh : Pkt) (type : Ptypes) (seqnum window : ℤ)
    (timestamp : UInt32) : pktDel (controlPkt fresh type seqnum window timestamp) = some () :=
  pktDel_of_content (content_controlPkt ..)

/-- `put_on_pkt` for an ACK (`type = 1`) or a NACK (`type = 2`). -/
theorem putOnPkt_control (fresh : Pkt) (buf : Memory) (payload : Option Memory)
    (seqnum window : ℤ) {type : ℤ} {ptype : Ptypes}
    (htype : type = 1 ∧ ptype = .ack ∨ type = 2 ∧ ptype = .nack) (len : ℕ) (timestamp : UInt32) :
    putOnPkt crc32 fresh buf payload seqnum window 0 type len timestamp =
      some (controlPkt fresh ptype seqnum window timestamp,
        ⟨.pktOk, memcpy buf 0
          (encoding crc32 (controlPkt fresh ptype seqnum window timestamp) []), 12⟩) := by
  have htr : (pktSetTr fresh 0).2 = { fresh with tr := 0 } := pktSetTr_snd (by decide)
  have hwin : (pktSetWindow { fresh with tr := 0 } (toUint8 window)).2 =
      { fresh with tr := 0, window := windowField fresh window } :=
    pktSetWindow_eq _ fresh window rfl
  have hlen : ∀ p : Pkt, (pktSetLength p (toUint16 0)).2 = { p with length := 0 } :=
    fun p => pktSetLength_snd (by decide)
  have henc := pktEncode_eq crc32 (content_controlPkt fresh ptype seqnum window timestamp) buf len
  rw [length_encoding, if_pos rfl] at henc
  unfold putOnPkt
  rcases htype with ⟨rfl, rfl⟩ | ⟨rfl, rfl⟩
  · simp only [htr, hwin, hlen, pktSetTimestamp, pktSetSeqnum,
      pktSetType_snd (show Ptypes.ack.toBits ≤ 3 by decide), Ptypes.ofBits_toBits]
    simp only [controlPkt] at henc ⊢
    simp [henc]
  · simp only [htr, hwin, hlen, pktSetTimestamp, pktSetSeqnum,
      pktSetType_snd (show Ptypes.nack.toBits ≤ 3 by decide), Ptypes.ofBits_toBits]
    simp only [controlPkt] at henc ⊢
    simp [henc]

/-! ## Data packets -/

/-- The packet `put_on_pkt` makes of a chunk of the input. -/
def dataPkt (fresh : Pkt) (chunk : List UInt8) (seqnum window : ℤ) (timestamp : UInt32) : Pkt :=
  { fresh with
    type := .data
    tr := 0
    window := windowField fresh window
    length := toUint16 chunk.length
    seqnum := toUint8 seqnum
    timestamp := timestamp
    payload := if chunk = [] then fresh.payload else .block chunk }

theorem content_dataPkt {chunk : List UInt8} (h : chunk.length ≤ 512) (fresh : Pkt)
    (seqnum window : ℤ) (timestamp : UInt32) :
    (dataPkt fresh chunk seqnum window timestamp).content = some chunk := by
  have hlen : (toUint16 (chunk.length : ℤ)).toNat = chunk.length := toNat_toUint16 (by omega)
  by_cases hne : chunk = []
  · have h0 : (toUint16 0).toNat = 0 := by decide
    simp [Pkt.content, dataPkt, Payload.read, hne, h0]
  · simp [Pkt.content, dataPkt, Payload.read, hlen, hne]

/-- `put_on_pkt` for a data packet whose chunk lies at the payload pointer. -/
theorem putOnPkt_data {chunk : List UInt8} (h : chunk.length ≤ 512) (fresh : Pkt)
    (buf data : Memory) (seqnum window : ℤ) (len : ℕ) (timestamp : UInt32)
    (hdata : bytesAt data 0 chunk.length = chunk) :
    putOnPkt crc32 fresh buf (some data) seqnum window chunk.length 0 len timestamp =
      some (dataPkt fresh chunk seqnum window timestamp,
        ⟨.pktOk, memcpy buf 0
          (encoding crc32 (dataPkt fresh chunk seqnum window timestamp) chunk),
          (encoding crc32 (dataPkt fresh chunk seqnum window timestamp) chunk).length⟩) := by
  have hlen : (toUint16 (chunk.length : ℤ)).toNat = chunk.length := toNat_toUint16 (by omega)
  have htr : (pktSetTr fresh 0).2 = { fresh with tr := 0 } := pktSetTr_snd (by decide)
  have hwin : (pktSetWindow { fresh with tr := 0 } (toUint8 window)).2 =
      { fresh with tr := 0, window := windowField fresh window } :=
    pktSetWindow_eq _ fresh window rfl
  have hset : ∀ p : Pkt, (pktSetLength p (toUint16 chunk.length)).2 =
      { p with length := toUint16 chunk.length } :=
    fun p => pktSetLength_snd (by rw [hlen]; exact h)
  have hpay : ∀ p : Pkt, (pktSetPayload true p data (toUint16 chunk.length)).2 =
      { p with payload := .block chunk } := by
    intro p
    rw [pktSetPayload_snd (by rw [hlen]; exact h), hlen, hdata]
  have henc := pktEncode_eq crc32 (content_dataPkt h fresh seqnum window timestamp) buf len
  unfold putOnPkt
  simp only [htr, hwin, hset, pktSetTimestamp, pktSetSeqnum,
    pktSetType_snd (show Ptypes.data.toBits ≤ 3 by decide), Ptypes.ofBits_toBits]
  by_cases hne : chunk = []
  · subst hne
    simp only [dataPkt] at henc ⊢
    simp only [List.length_nil, Nat.cast_zero, if_true] at henc ⊢
    simp [henc]
  · have hpos : 0 < chunk.length := List.length_pos_iff.mpr hne
    simp only [dataPkt, hne, if_false] at henc ⊢
    simp [hpos, hpay, henc]

end TrtpNetwork
