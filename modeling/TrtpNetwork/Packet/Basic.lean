import TrtpNetwork.Library.ByteMemory
import Mathlib.Algebra.GroupWithZero.Nat

/-!
# The packet structure and its accessors

`struct pkt` of `packet_implem.c` with the functions that create, destroy and fill it.  The three
bit fields keep their widths: two bits of type, one of TR, five of window.

The structure is filled in place by setters that check their argument, return a status, and leave
the field untouched when they refuse.  Callers in this program ignore the status, so what matters
is the packet that comes back, and each setter here returns both.

`pkt_new` is `malloc` without initialisation.  A fresh packet is therefore an arbitrary value of
`Pkt`, and every function that calls `pkt_new` takes that value as an argument.  The getters
`pkt_get_*` are the fields.
-/

namespace TrtpNetwork

/-- `ptypes_t`, as the two-bit field stores it.  The enumeration names three of the four values;
`zero` is the bit pattern it leaves unnamed. -/
inductive Ptypes where
  | zero
  | data
  | ack
  | nack
  deriving DecidableEq, Repr

namespace Ptypes

/-- The value of the two-bit field. -/
def toBits : Ptypes → ℕ
  | zero => 0
  | data => 1
  | ack => 2
  | nack => 3

/-- The type a value is stored as; a two-bit field keeps the value modulo 4. -/
def ofBits (n : ℕ) : Ptypes :=
  match n % 4 with
  | 0 => zero
  | 1 => data
  | 2 => ack
  | _ => nack

@[simp] theorem ofBits_toBits (t : Ptypes) : ofBits t.toBits = t := by
  cases t <;> rfl

theorem toBits_ofBits {n : ℕ} (h : n < 4) : (ofBits n).toBits = n := by
  match n, h with
  | 0, _ | 1, _ | 2, _ | 3, _ => rfl

theorem toBits_lt (t : Ptypes) : t.toBits < 4 := by
  cases t <;> decide

end Ptypes

/-- `pkt_status_code`. -/
inductive PktStatusCode where
  | pktOk
  | eType
  | eTr
  | eLength
  | eCrc
  | eWindow
  | eSeqnum
  | eNomem
  | eNoheader
  | eUnconsistent
  deriving DecidableEq, Repr

/-- The `payload` pointer: `NULL`, a pointer `malloc` never returned (what an uninitialised
structure holds), or a block of the heap with its contents. -/
inductive Payload where
  | null
  | wild
  | block (bytes : List UInt8)
  deriving DecidableEq, Repr

/-- Reading `n` bytes through the pointer.  `none` is an undefined read: through `NULL`, through a
wild pointer, or past the end of the block.  Reading nothing is always defined. -/
def Payload.read (p : Payload) (n : ℕ) : Option (List UInt8) :=
  if n = 0 then some []
  else
    match p with
    | block bytes => if n ≤ bytes.length then some (bytes.take n) else none
    | _ => none

/-- The TR field has values. -/
instance neZero_two : NeZero 2 := ⟨by decide⟩

/-- The window field has values. -/
instance neZero_thirtyTwo : NeZero 32 := ⟨by decide⟩

/-- `struct pkt`. -/
structure Pkt where
  type : Ptypes
  tr : Fin 2
  window : Fin 32
  length : UInt16
  seqnum : UInt8
  timestamp : UInt32
  crc1 : UInt32
  payload : Payload
  crc2 : UInt32
  deriving DecidableEq, Repr

/-- A structure of zeros, as `pkt_new` may return it. -/
def blankPkt : Pkt where
  type := .zero
  tr := 0
  window := 0
  length := 0
  seqnum := 0
  timestamp := 0
  crc1 := 0
  payload := .null
  crc2 := 0

/-- The payload bytes of a packet: `length` bytes through the pointer. -/
def Pkt.content (pkt : Pkt) : Option (List UInt8) := pkt.payload.read pkt.length.toNat

/-- `pkt_del`.  `none` is the undefined release of a pointer that was never allocated. -/
def pktDel (pkt : Pkt) : Option Unit :=
  if pkt.length > 0 ∧ pkt.payload = .wild then none else some ()

/-- Without a payload only the structure is released. -/
theorem pktDel_of_length {pkt : Pkt} (h : pkt.length = 0) : pktDel pkt = some () := by
  rw [pktDel, if_neg]
  rintro ⟨hpos, -⟩
  rw [h] at hpos
  exact absurd hpos (by decide)

/-- Whatever can be read can be released. -/
theorem pktDel_of_content {pkt : Pkt} {bytes : List UInt8} (h : pkt.content = some bytes) :
    pktDel pkt = some () := by
  rw [pktDel, if_neg]
  rintro ⟨hlen, hwild⟩
  have hn : pkt.length.toNat ≠ 0 := by
    rw [gt_iff_lt, UInt16.lt_iff_toNat_lt] at hlen
    exact Nat.pos_iff_ne_zero.mp hlen
  simp [Pkt.content, hwild, Payload.read, hn] at h

/-! ## Setters -/

/-- `pkt_set_type`. -/
def pktSetType (pkt : Pkt) (type : ℕ) : PktStatusCode × Pkt :=
  if type > 3 then (.eType, pkt) else (.pktOk, { pkt with type := Ptypes.ofBits type })

/-- `pkt_set_tr`. -/
def pktSetTr (pkt : Pkt) (tr : UInt8) : PktStatusCode × Pkt :=
  if tr ≠ 0 ∧ tr ≠ 1 then (.eTr, pkt) else (.pktOk, { pkt with tr := Fin.ofNat 2 tr.toNat })

/-- `pkt_set_window`. -/
def pktSetWindow (pkt : Pkt) (window : UInt8) : PktStatusCode × Pkt :=
  if window > 31 then (.eWindow, pkt)
  else (.pktOk, { pkt with window := Fin.ofNat 32 window.toNat })

/-- `pkt_set_seqnum`. -/
def pktSetSeqnum (pkt : Pkt) (seqnum : UInt8) : PktStatusCode × Pkt :=
  (.pktOk, { pkt with seqnum := seqnum })

/-- `pkt_set_length`. -/
def pktSetLength (pkt : Pkt) (length : UInt16) : PktStatusCode × Pkt :=
  if length > 512 then (.eLength, pkt) else (.pktOk, { pkt with length := length })

/-- `pkt_set_timestamp`. -/
def pktSetTimestamp (pkt : Pkt) (timestamp : UInt32) : PktStatusCode × Pkt :=
  (.pktOk, { pkt with timestamp := timestamp })

/-- `pkt_set_crc1`. -/
def pktSetCrc1 (pkt : Pkt) (crc1 : UInt32) : PktStatusCode × Pkt :=
  (.pktOk, { pkt with crc1 := crc1 })

/-- `pkt_set_crc2`. -/
def pktSetCrc2 (pkt : Pkt) (crc2 : UInt32) : PktStatusCode × Pkt :=
  (.pktOk, { pkt with crc2 := crc2 })

/-- `pkt_set_payload`; `malloc` says whether the allocation succeeds.  The pointer is overwritten
before the test, so a failed allocation leaves `NULL`. -/
def pktSetPayload (malloc : Bool) (pkt : Pkt) (data : Memory) (length : UInt16) :
    PktStatusCode × Pkt :=
  if 512 < length then (.eLength, pkt)
  else if malloc then
    (.pktOk, { pkt with payload := .block (bytesAt data 0 length.toNat) })
  else (.eNomem, { pkt with payload := .null })

/-! ## What a setter leaves behind -/

theorem pktSetType_snd {pkt : Pkt} {type : ℕ} (h : type ≤ 3) :
    (pktSetType pkt type).2 = { pkt with type := Ptypes.ofBits type } := by
  rw [pktSetType, if_neg (by omega)]

theorem pktSetTr_snd {pkt : Pkt} {tr : UInt8} (h : tr.toNat < 2) :
    (pktSetTr pkt tr).2 = { pkt with tr := Fin.ofNat 2 tr.toNat } := by
  rw [pktSetTr, if_neg]
  rintro ⟨h0, h1⟩
  have h0' : tr.toNat ≠ 0 := fun h => h0 (UInt8.toNat_inj.mp h)
  have h1' : tr.toNat ≠ 1 := fun h => h1 (UInt8.toNat_inj.mp h)
  omega

theorem pktSetWindow_snd {pkt : Pkt} {window : UInt8} (h : window.toNat < 32) :
    (pktSetWindow pkt window).2 = { pkt with window := Fin.ofNat 32 window.toNat } := by
  rw [pktSetWindow, if_neg]
  rw [gt_iff_lt, UInt8.lt_iff_toNat_lt]
  exact Nat.not_lt.mpr (Nat.le_of_lt_succ h)

theorem pktSetLength_snd {pkt : Pkt} {length : UInt16} (h : length.toNat ≤ 512) :
    (pktSetLength pkt length).2 = { pkt with length := length } := by
  rw [pktSetLength, if_neg]
  rw [gt_iff_lt, UInt16.lt_iff_toNat_lt]
  exact Nat.not_lt.mpr h

/-- An over-long length is refused and the old one stays. -/
theorem pktSetLength_snd_of_gt {pkt : Pkt} {length : UInt16} (h : 512 < length.toNat) :
    (pktSetLength pkt length).2 = pkt := by
  rw [pktSetLength, if_pos]
  rw [gt_iff_lt, UInt16.lt_iff_toNat_lt]
  exact h

theorem pktSetPayload_snd {pkt : Pkt} {data : Memory} {length : UInt16}
    (h : length.toNat ≤ 512) :
    (pktSetPayload true pkt data length).2 =
      { pkt with payload := .block (bytesAt data 0 length.toNat) } := by
  rw [pktSetPayload, if_neg, if_pos rfl]
  rw [UInt16.lt_iff_toNat_lt]
  exact Nat.not_lt.mpr h

end TrtpNetwork
