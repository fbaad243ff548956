import TrtpNetwork.Library.SlotArray
import TrtpNetwork.Packet.Socket
import Mathlib.Data.Int.Init

/-!
# The receiver: `read_write_loop`

One iteration of the poll loop of `read_write_loop.c` is a function of the loop's state and of
everything the iteration is given from outside: the two `revents`, what `read` returned, the memory
behind the stack buffer, and the contents of the structures `pkt_new` returns.  `none` is an
iteration without defined outcome, which is what a negative index into the table leads to.

The table has packets where the source has pointers to them, and a packet in two slots is two
packets here.  The loop with its pointers is in `Receiver.Pointers`: it does the same until it comes
to a pointer that is dangling (`Receiver.Dangling`).

`stdout` and `written` are the calls of `fwrite` and of `write` so far.  The counters that only the
final report prints are kept beside this state in `Receiver.Report`.  `last_timestamp` and `fill`,
which nothing reads, are left out.
-/

namespace TrtpNetwork

/-- `realWindow`. -/
def realWindow : ℕ := 4

/-- The pointers that fit into the table, which is allocated as `realWindow` structures. -/
def receiveCells : ℕ := 12

/-- `lastFullAck`, which is never assigned. -/
def lastFullAck : ℤ := 0

/-- `full_ack`, which is never assigned. -/
def fullAck : ℤ := -1

/-- The outside of one iteration of `read_write_loop`. -/
structure ReceiverPoll where
  readable : Readable
  writable : Writable
  /-- The memory behind the 512 bytes of `buffer`. -/
  beyond : Memory
  /-- What `pkt_new` returns for the received packet, the NACK and the ACK. -/
  freshRcv : Pkt
  freshNack : Pkt
  freshAck : Pkt

/-! ## The state of the loop -/

/-- Whether the loop goes on, and how it was left. -/
inductive LoopStatus where
  | running
  | endOfData
  | hangup
  deriving DecidableEq

/-- The variables of the loop. -/
structure Receiver where
  listPkt : Slots Pkt
  buffer : Memory
  baseR : ℤ
  freePlace : ℤ
  partialAck : ℤ
  nack : ℤ
  lastTimePkt : UInt32
  packetIgnored : ℕ
  packetDuplicated : ℕ
  /-- The blocks of bytes handed to `fwrite(…, stdout)`. -/
  stdout : List (List UInt8)
  /-- The datagrams handed to `write`, each with the packet it encodes. -/
  written : List (Pkt × List UInt8)
  status : LoopStatus

/-- The state before the first iteration, the table all `NULL`. -/
def Receiver.init (buffer : Memory) : Receiver where
  listPkt := fun _ => none
  buffer := buffer
  baseR := 0
  freePlace := realWindow
  partialAck := -1
  nack := -1
  lastTimePkt := 0
  packetIgnored := 0
  packetDuplicated := 0
  stdout := []
  written := []
  status := .running

/-! ## The table -/

/-- `first_empty_place`. -/
def firstEmptyPlace (listPkt : Slots Pkt) : Option ℕ :=
  scanWhile Option.isSome listPkt receiveCells 0

/-- `fwrite(pkt_get_payload(listPkt[i]), …)` and `pkt_del(listPkt[i])`. -/
def printSlot (r : Receiver) (i : ℕ) : Option Receiver := do
  let pkt ← r.listPkt i
  let bytes ← pkt.content
  pktDel pkt
  some { r with stdout := r.stdout ++ [bytes] }

/-- The body of the first loop of `clear_and_fill_buffer_r`. -/
def printAndRemove (r : Receiver) (i : ℕ) : Option Receiver := do
  let r ← printSlot r i
  some { r with
    freePlace := r.freePlace + 1
    listPkt := Function.update r.listPkt i none }

/-- `clear_and_fill_buffer_r`. -/
def clearAndFillBufferR (r : Receiver) : Option Receiver := do
  let s ← firstEmptyPlace r.listPkt
  let r := { r with baseR := (r.baseR + s).tmod realWindow }
  let first ← firstEmptyPlace r.listPkt
  let r ← (List.range first).foldlM printAndRemove r
  some { r with listPkt := shiftDown r.listPkt first (realWindow - first) }

/-! ## Receiving -/

/-- The branch for a bad packet: it may request a retransmission. -/
def badPacket (r : Receiver) (pkt : Pkt) : Receiver :=
  let seqnum := pkt.seqnum.toNat
  { r with
    nack :=
      if (seqnum : ℤ) < lastFullAck + realWindow ∧ (seqnum : ℤ) > lastFullAck ∧
          r.listPkt seqnum = none then seqnum
      else r.nack
    packetIgnored := r.packetIgnored + 1 }

/-- The end of the transfer: a zero-length data packet writes out the front of the table and leaves
the loop. -/
def closeTransfer (r : Receiver) (pktRcv : Pkt) : Option Receiver := do
  let n ← scanWhile (fun p => p.any fun pkt => pkt.length > 0) r.listPkt receiveCells 0
  let r ← (List.range n).foldlM printSlot r
  pktDel pktRcv
  some { r with status := .endOfData }

/-- The slot a packet belongs in: `(pkt_get_seqnum(pktRcv)-base_r)%realWindow`, with C's remainder.
A negative index is outside the table. -/
def slotIndex (seqnum : ℕ) (baseR : ℤ) : Option ℕ :=
  let i := ((seqnum : ℤ) - baseR).tmod realWindow
  if 0 ≤ i then some i.toNat else none

/-- Storing a packet in its slot, or dropping it when the slot is taken. -/
def placePacket (r : Receiver) (pktRcv : Pkt) : Option Receiver := do
  let seqnum := pktRcv.seqnum.toNat
  let r := if seqnum = 0 then { r with baseR := 0 } else r
  let i ← slotIndex seqnum r.baseR
  if r.listPkt i = none then
    some { r with
      listPkt := Function.update r.listPkt i (some pktRcv)
      freePlace := r.freePlace - 1
      partialAck := ((seqnum + 1) % 256 : ℕ) }
  else do
    if pktRcv.length = 0 then pktDel pktRcv
    some { r with
      packetIgnored := r.packetIgnored + 1
      packetDuplicated := r.packetDuplicated + 1 }

/-- The branch for a good packet. -/
def goodPacket (r : Receiver) (pktRcv : Pkt) : Option Receiver :=
  let r :=
    if pktRcv.timestamp > r.lastTimePkt then { r with lastTimePkt := pktRcv.timestamp } else r
  if pktRcv.length = 0 ∧ pktRcv.type = .data then closeTransfer r pktRcv
  else placePacket r pktRcv

/-- The dispatch on the decoded packet. -/
def handlePacket (r : Receiver) (decoded : PktStatusCode × Pkt) : Option Receiver :=
  if decoded.1 ≠ .pktOk ∨ decoded.2.type = .nack then some (badPacket r decoded.2)
  else goodPacket r decoded.2

variable (crc32 : List UInt8 → UInt32)

/-- The input half of an iteration. -/
def receive (r : Receiver) (e : ReceiverPoll) : Option Receiver :=
  match e.readable with
  | .idle => some r
  | .pollin result =>
    handlePacket { r with buffer := readInto r.buffer result }
      (decodeRead crc32 r.buffer result e.beyond e.freshRcv)
  | .other => some { r with status := .hangup }

/-! ## Replying -/

/-- `put_on_pkt(buffer, NULL, seqnum, free_place, 0, type, …)`, then `write` and `pkt_del`. -/
def sendReply (r : Receiver) (fresh : Pkt) (seqnum type : ℤ) : Option Receiver := do
  let (pkt, encoded) ←
    putOnPkt crc32 fresh r.buffer none seqnum r.freePlace 0 type maxBufferSize r.lastTimePkt
  pktDel pkt
  some { r with
    buffer := encoded.buf
    written := r.written ++ [(pkt, bytesAt encoded.buf 0 encoded.len)] }

/-- Sending the pending NACK. -/
def sendNack (r : Receiver) (fresh : Pkt) : Option Receiver :=
  if r.nack ≠ -1 then do
    let r ← sendReply crc32 r fresh r.nack 2
    some { r with nack := -1 }
  else some r

/-- Flushing the table and sending the pending ACK. -/
def sendAck (r : Receiver) (fresh : Pkt) : Option Receiver :=
  if r.partialAck ≠ -1 ∧ r.nack = -1 ∧ fullAck = -1 then do
    let r ← clearAndFillBufferR r
    let r ← sendReply crc32 r fresh r.partialAck 1
    let r := if r.partialAck = 0 then { r with baseR := 0 } else r
    some { r with partialAck := -1 }
  else some r

/-- The output half of an iteration. -/
def reply (r : Receiver) (e : ReceiverPoll) : Option Receiver :=
  match e.writable with
  | .idle => some r
  | .pollout => do
    let r ← sendNack crc32 r e.freshNack
    sendAck crc32 r e.freshAck
  | .other => some { r with status := .hangup }

/-- **One iteration of `read_write_loop`.**  The `break` at the end of the transfer skips the
output half; a hang-up does not. -/
def readWriteLoop (r : Receiver) (e : ReceiverPoll) : Option Receiver :=
  if r.status = .running then do
    let r ← receive crc32 r e
    if r.status = .endOfData then some r else reply crc32 r e
  else some r

end TrtpNetwork
