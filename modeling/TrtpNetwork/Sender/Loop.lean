import TrtpNetwork.Library.SlotArray
import TrtpNetwork.Packet.Socket
import TrtpNetwork.Packet.Stream

/-!
# The sender: `read_write_loop_sender`

One iteration of the poll loop of `read_write_loop_sender.c`, as a function of the loop's state and
of what the iteration is given from outside: the two `revents`, what `read` returned, the memory
behind the stack buffer, the structures `pkt_new` returns and the readings of `clock`.

The table of 50 slots holds pointers.  A packet made for it is known by its position in the input,
which is the value of the counter `seqnum` when it was made; `packets` is the heap these pointers
refer to, and a position that is not there, or not there any more, is a dangling pointer.  `none` is
an iteration without defined outcome.  One case of this is told apart, because the lookups are what
the protocol depends on: where `find_buffer` returns -1 and the result is used as an index, the
loop stops with the status `absentLookup` and the state it had.

`written` are the calls of `write` so far, each with the position of the packet, the reason for
sending it, and the values of `base` and `window` at that moment.  The counters of the final report
are kept beside this state in `Sender.Report`.  Diagnostics are left out, and so are the variables
only they read.
-/

namespace TrtpNetwork

/-- The slots of the table, 50 throughout the source. -/
def tableSize : ℕ := 50

/-! ## The state of the loop -/

/-- Why a packet is handed to `write`: by the loop over `nextseqnum`, on a NACK, or by timeout. -/
inductive SendCause where
  | sendLoop
  | nack
  | timeout
  deriving DecidableEq

/-- A call of `write`. -/
structure Transmission where
  cause : SendCause
  position : ℕ
  base : ℕ
  window : ℕ
  datagram : List UInt8
  deriving DecidableEq

/-- Whether the loop goes on, and why it does not. -/
inductive SenderStatus where
  | running
  | readFailed
  | hangup
  | absentLookup
  deriving DecidableEq

/-- The variables of the loop. -/
structure Sender where
  listPkt : Slots ℕ
  packets : ℕ → Option Pkt
  buffer : Memory
  /-- What `fread` has not returned yet. -/
  fd : List UInt8
  seqnum : ℕ
  lastValid : ℕ
  window : ℕ
  base : ℕ
  nextseqnum : ℕ
  nack : ℤ
  lastAck : Pkt
  bufferUpdate : Bool
  written : List Transmission
  status : SenderStatus

/-- What `pkt_new` and `clock` return when the packet at a position is made. -/
structure FillInputs where
  fresh : ℕ → Pkt
  clock : ℕ → UInt32

/-- The outside of one iteration of `read_write_loop_sender`. -/
structure SenderPoll where
  readable : Readable
  writable : Writable
  beyond : Memory
  freshDecode : Pkt
  fill : FillInputs
  /-- The clock after the loop over `nextseqnum` sent a packet, by its `nextseqnum`. -/
  clockSend : ℕ → UInt32
  clockTimer : ℕ
  clockResend : UInt32

/-! ## The table -/

/-- The loop of `find_buffer` over the `n` slots from `i` on. -/
def findFrom (listPkt : Slots ℕ) (packets : ℕ → Option Pkt) (seq : ℕ) :
    ℕ → ℕ → Option (Option ℕ)
  | 0, _ => some none
  | n + 1, i =>
    match listPkt i with
    | none => findFrom listPkt packets seq n (i + 1)
    | some p => do
      let pkt ← packets p
      if pkt.seqnum.toNat = seq then some (some i)
      else findFrom listPkt packets seq n (i + 1)

/-- `find_buffer`; an inner `none` is the result -1. -/
def findBuffer (s : Sender) (seq win : ℕ) : Option (Option ℕ) :=
  findFrom s.listPkt s.packets seq win 0

variable (crc32 : List UInt8 → UInt32)

/-- One turn of the loop that fills the table: the next chunk becomes a packet in slot `i`. -/
def insertPkt (fill : FillInputs) (win : ℤ) (s : Sender) (i : ℕ) : Option Sender := do
  let content := s.fd.take chunkSize
  let (toInsert, _) ← putOnPkt crc32 (fill.fresh s.seqnum) (fun _ => 0)
    (some (memcpy (fun _ => 0) 0 content)) s.seqnum win content.length 0 maxBufferSize
    (fill.clock s.seqnum)
  some { s with
    fd := s.fd.drop chunkSize
    seqnum := s.seqnum + 1
    packets := Function.update s.packets s.seqnum (some toInsert)
    listPkt := Function.update s.listPkt i (some s.seqnum) }

/-- `clear_and_fill_buffer` for an ACK: the leading free slots are shifted out and refilled.  The
bound of the shift is the source's, `i <= 50 - s`. -/
def clearAndFillBuffer (fill : FillInputs) (win : ℤ) (s : Sender) : Option Sender := do
  let s := if s.listPkt 0 = none then { s with bufferUpdate := true } else s
  let n ← scanWhile Option.isNone s.listPkt tableSize 0
  let s := { s with listPkt := shiftDown s.listPkt n (tableSize + 1 - 2 * n) }
  (List.range' (tableSize - n) n).foldlM (insertPkt crc32 fill win) s

/-- The state before the first iteration: `lastAck`, the table filled from the front of the input,
`buffer_update` set.  `freshAck` and `clockAck` are the structure and the time `lastAck` is made
of. -/
def Sender.init (file : List UInt8) (buffer : Memory) (freshAck : Pkt) (clockAck : UInt32)
    (fill : FillInputs) : Option Sender := do
  let (lastAck, encoded) ← putOnPkt crc32 freshAck buffer none 0 1 0 1 maxBufferSize clockAck
  let s ← (List.range tableSize).foldlM (insertPkt crc32 fill 1)
    { listPkt := fun _ => none
      packets := fun _ => none
      buffer := encoded.buf
      fd := file
      seqnum := 0
      lastValid := 0
      window := 1
      base := 0
      nextseqnum := 0
      nack := -1
      lastAck := lastAck
      bufferUpdate := false
      written := []
      status := .running }
  some { s with bufferUpdate := true }

/-! ## Receiving -/

/-- The packet an ACK is for: the one before its number. -/
def ackedSeqnum (seqnum : ℕ) : ℕ := if seqnum = 0 then 255 else seqnum - 1

/-- The ACK frees the slot of its packet, if that is found in the window. -/
def deleteAcked (s : Sender) (seqnum : ℕ) : Option Sender := do
  let place := ackedSeqnum seqnum
  let found ← findBuffer s place s.window
  if found.isNone then some s
  else do
    let found ← findBuffer s place tableSize
    let placeToDel ← found
    let p ← s.listPkt placeToDel
    let pkt ← s.packets p
    pktDel pkt
    some { s with
      packets := Function.update s.packets p none
      listPkt := Function.update s.listPkt placeToDel none }

/-- The branch for an ACK. -/
def handleAck (fill : FillInputs) (s : Sender) (decode : Pkt) : Option Sender := do
  let seqnum := decode.seqnum.toNat
  let s :=
    if seqnum > s.lastAck.seqnum.toNat ∨ seqnum = 0 then { s with base := seqnum } else s
  let s ← deleteAcked s seqnum
  let s ← clearAndFillBuffer crc32 fill decode.window.val s
  pktDel s.lastAck
  some { s with
    window := if decode.window.val > s.window then decode.window.val else s.window
    lastValid := seqnum
    lastAck := decode }

/-- The branch for a NACK: it is served if it names a packet of the window. -/
def handleNack (s : Sender) (decode : Pkt) : Option Sender := do
  let seqnum := decode.seqnum.toNat
  pktDel decode
  some { s with
    nack := if seqnum < s.lastValid ∨ seqnum > s.lastValid + s.window then 256 else seqnum }

/-- The dispatch on the decoded packet. -/
def handleDecoded (fill : FillInputs) (s : Sender) (decoded : PktStatusCode × Pkt) :
    Option Sender :=
  if decoded.1 ≠ .pktOk then do
    pktDel decoded.2
    some s
  else if decoded.2.type = .nack then handleNack s decoded.2
  else if decoded.2.type = .ack then handleAck crc32 fill s decoded.2
  else do
    pktDel decoded.2
    some s

/-- The input half of an iteration. -/
def senderReceive (s : Sender) (e : SenderPoll) : Option Sender :=
  match e.readable with
  | .idle => some s
  | .pollin .error => some { s with status := .readFailed }
  | .pollin (.bytes datagram) =>
    handleDecoded crc32 e.fill { s with buffer := readInto s.buffer (.bytes datagram) }
      (decodeRead crc32 s.buffer (.bytes datagram) e.beyond e.freshDecode)
  | .other => some { s with status := .hangup }

/-! ## Sending -/

/-- `pkt_encode(listPkt[i], buffer, &len)` and `write(sfd, buffer, len)`. -/
def transmit (s : Sender) (cause : SendCause) (i : ℕ) : Option Sender := do
  let p ← s.listPkt i
  let pkt ← s.packets p
  let encoded ← pktEncode crc32 pkt s.buffer maxBufferSize
  some { s with
    buffer := encoded.buf
    written := s.written ++
      [⟨cause, p, s.base, s.window, bytesAt encoded.buf 0 encoded.len⟩] }

/-- `pkt_set_timestamp(listPkt[i], clock)`. -/
def setTimestampAt (s : Sender) (i : ℕ) (clock : UInt32) : Option Sender := do
  let p ← s.listPkt i
  let pkt ← s.packets p
  some { s with packets := Function.update s.packets p (some (pktSetTimestamp pkt clock).2) }

/-- Answering a pending NACK. -/
def retransmitNack (s : Sender) : Option Sender :=
  if s.nack ≠ -1 ∧ s.nack ≠ 256 then do
    let found ← findBuffer s s.nack.toNat tableSize
    match found with
    | none => some { s with status := .absentLookup }
    | some i => do
      let s ← transmit crc32 s .nack i
      some { s with nack := -1 }
  else some s

/-- The condition of the loop over `nextseqnum`. -/
def MaySend (s : Sender) : Prop :=
  s.nextseqnum < s.base + s.window ∧ (s.nextseqnum ≠ 0 ∨ s.lastAck.seqnum.toNat = 0)

instance (s : Sender) : Decidable (MaySend s) := by
  unfold MaySend
  infer_instance

/-- The body of the loop over `nextseqnum`. -/
def sendNext (e : SenderPoll) (s : Sender) : Option Sender := do
  let found ← findBuffer s (s.nextseqnum % 256) tableSize
  match found with
  | none => some { s with status := .absentLookup }
  | some i => do
    let s ← transmit crc32 s .sendLoop i
    let s ← setTimestampAt s i (e.clockSend s.nextseqnum)
    some { s with bufferUpdate := false, nextseqnum := s.nextseqnum + 1 }

/-- The loop over `nextseqnum`.  It ends by itself within `base + window - nextseqnum` turns. -/
def sendLoop (e : SenderPoll) : ℕ → Sender → Option Sender
  | 0, s => some s
  | fuel + 1, s =>
    if MaySend s then do
      let s ← sendNext crc32 e s
      if s.status = .absentLookup then some s else sendLoop e fuel s
    else some s

/-- Sending what the window allows, after the table changed. -/
def sendWindow (s : Sender) (e : SenderPoll) : Option Sender :=
  if s.bufferUpdate then do
    let s ← sendLoop crc32 e (s.base + s.window - s.nextseqnum) s
    if s.status = .absentLookup then some s
    else some { s with nextseqnum := s.nextseqnum % 256 }
  else some s

/-- The retransmission timeout of the first packet of the table. -/
def resendTimeout (s : Sender) (e : SenderPoll) : Option Sender :=
  match s.listPkt 0 with
  | none => some s
  | some p => do
    let pkt ← s.packets p
    if (pkt.timestamp + 500000).toNat < e.clockTimer then do
      let s ← setTimestampAt s 0 e.clockResend
      transmit crc32 s .timeout 0
    else some s

/-- The output half of an iteration. -/
def senderReply (s : Sender) (e : SenderPoll) : Option Sender :=
  match e.writable with
  | .pollout => do
    let s ← retransmitNack crc32 s
    if s.status = .absentLookup then some s
    else do
      let s ← sendWindow crc32 s e
      if s.status = .absentLookup then some s else resendTimeout crc32 s e
  | _ => some s

/-- **One iteration of `read_write_loop_sender`.**  The `break` after a failed `read` skips the
output half; a hang-up does not. -/
def readWriteLoopSender (s : Sender) (e : SenderPoll) : Option Sender :=
  if s.status = .running then do
    let s ← senderReceive crc32 s e
    if s.status = .readFailed then some s else senderReply crc32 s e
  else some s

end TrtpNetwork
