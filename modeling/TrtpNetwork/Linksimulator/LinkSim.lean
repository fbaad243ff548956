import TrtpNetwork.Linksimulator.MinQueue

/-!
# The link simulator: `link_sim.c`

A proxy between the two programs.  Whoever sends to it first is taken for the sender, and what he
sends goes on to `dest_addr`, where the receiver is; what comes from there goes back to him.  In the
directions it simulates, a datagram may be dropped, cut to its header, have one byte inverted, and
be kept in a queue until its expiration date.

One turn of `proxy_loop` is a function of the simulator's variables and of what the turn is given
from outside: the results of `select`, `recvfrom`, `sendto` and of the allocations, the time, and
the random numbers.  `none` is a turn without defined outcome, which is a division by zero among the
`unsigned` computations of the delay.

`sent` are the calls of `sendto` that succeeded, each with the time it was made and, for a packet
from the queue, its expiration date.  What is printed is left out.
-/

namespace TrtpNetwork

/-- `MIN_PKT_LEN`. -/
def minPktLen : ℕ := 10

/-- `MIN_PKT_PDATA_LEN`. -/
def minPktPdataLen : ℕ := 12

/-- `MAX_PKT_LEN`. -/
def maxPktLen : ℕ := minPktLen + 2 + 512 + 4

/-! ## Time -/

/-- `struct timeval`. -/
structure Timeval where
  tvSec : ℤ
  tvUsec : ℤ
  deriving DecidableEq

/-- `timeval_cmp`: `left > right`. -/
def timevalCmp (left right : Timeval) : Bool :=
  if left.tvSec = right.tvSec then decide (left.tvUsec > right.tvUsec)
  else decide (left.tvSec > right.tvSec)

/-- `timeval_diff`.  The seconds are decremented in the condition, and where this makes them 0 the
microseconds stay negative. -/
def timevalDiff (a b : Timeval) : Timeval :=
  let tvSec := a.tvSec - b.tvSec
  let tvUsec := a.tvUsec - b.tvUsec
  if tvUsec < 0 then
    if tvSec - 1 ≠ 0 then ⟨tvSec - 1, tvUsec + 1000000⟩ else ⟨tvSec - 1, tvUsec⟩
  else ⟨tvSec, tvUsec⟩

/-! ## Addresses and directions -/

/-- `struct sockaddr_in6`. -/
structure SockaddrIn6 where
  sin6Addr : BitVec 128
  sin6Port : UInt16
  sin6ScopeId : UInt32
  deriving DecidableEq

/-- `!sockaddr_cmp(a, b)`: the address and the port are the same. -/
def sameSockaddr (a b : SockaddrIn6) : Bool :=
  a.sin6Addr == b.sin6Addr && a.sin6Port == b.sin6Port

/-- The direction of a packet. -/
inductive Direction where
  | forward
  | reverse
  deriving DecidableEq

/-- `link_direction`. -/
inductive LinkDirection where
  | forward
  | reverse
  | bothWays
  deriving DecidableEq

/-- `SAME_DIRECTION`. -/
def sameDirection : Direction → LinkDirection → Bool
  | .forward, .reverse => false
  | .reverse, .forward => false
  | _, _ => true

/-- The options, and the address the simulator forwards to. -/
structure LinkParams where
  delay : UInt32
  jitter : UInt32
  errRate : UInt32
  cutRate : UInt32
  lossRate : UInt32
  linkDirection : LinkDirection
  destAddr : SockaddrIn6

/-! ## The state of the simulator -/

/-- `struct pkt_slot`, with the first `size` bytes of `buf`. -/
structure PktSlot where
  ts : Timeval
  direction : Direction
  buf : List UInt8

/-- `pkt_slot_cmp`. -/
def pktSlotCmp (a b : PktSlot) : Bool := timevalCmp a.ts b.ts

/-- A successful call of `sendto`. -/
structure Sent where
  addr : SockaddrIn6
  direction : Direction
  datagram : List UInt8
  /-- The expiration date, for a packet that was in the queue. -/
  due : Option Timeval
  /-- `last_clock` at the call. -/
  clock : Timeval
  deriving DecidableEq

/-- The variables of the simulator. -/
structure LinkSim where
  pktQueue : MinQueue PktSlot
  lastClock : Timeval
  hasSourceAddr : Bool
  srcAddr : SockaddrIn6
  sent : List Sent
  /-- Whether `proxy_loop` goes on. -/
  running : Bool

/-- `errno`. -/
inductive Errno where
  | eintr
  | eagain
  | ewouldblock
  | other
  deriving DecidableEq

/-- The errors after which the call is made again later. -/
def Errno.retries : Errno → Bool
  | .other => false
  | _ => true

/-- `EXIT_SUCCESS` and `EXIT_FAILURE`. -/
inductive ExitCode where
  | success
  | failure
  deriving DecidableEq

/-! ## The outside of one turn -/

/-- The values of `rand()`, each for the place it is called at. -/
structure Draws where
  loss : UInt32
  cut : UInt32
  err : UInt32
  idx : UInt32
  jitter : UInt32

/-- The result of `select`, with `FD_ISSET(sfd, &rfds)`. -/
inductive SelectResult where
  | error (errno : Errno)
  | ready (isSet : Bool)
  deriving DecidableEq

/-- The result of `recvfrom`: the datagram as it arrived, and where it came from. -/
inductive RecvResult where
  | error (errno : Errno)
  | received (addr : SockaddrIn6) (bytes : List UInt8)
  deriving DecidableEq

/-- The outside of one turn of `proxy_loop`.  A `sendto` that failed has its `errno` here, and one
that sent the datagram has `none`. -/
structure ProxyPoll where
  select : SelectResult
  /-- The time `update_time` reads, or its failure. -/
  clock : Option Timeval
  /-- The `sendto` calls of `deliver_delayed_pkt`, counted from 0. -/
  sendDelayed : ℕ → Option Errno
  recvfrom : RecvResult
  /-- The `sendto` call made for the datagram received. -/
  sendNow : Option Errno
  draws : Draws
  /-- Whether `malloc` has room for a slot. -/
  malloc : Bool
  realloc : Option (ℕ → PktSlot)

/-! ## Delivering -/

/-- `write_out`. -/
def writeOut (params : LinkParams) (s : LinkSim) (buf : List UInt8) (direction : Direction)
    (due : Option Timeval) : Option Errno → ExitCode × LinkSim
  | none => (.success, { s with
      sent := s.sent ++ [{
        addr := match direction with
          | .forward => params.destAddr
          | .reverse => s.srcAddr
        direction := direction
        datagram := buf
        due := due
        clock := s.lastClock }] })
  | some _ => (.failure, s)

/-- The loop of `deliver_delayed_pkt`, for a queue of at most `fuel` packets, one of which goes in
each iteration.  `n` counts the calls of `sendto`. -/
def deliverFrom (params : LinkParams) (send : ℕ → Option Errno) :
    ℕ → ℕ → LinkSim → ExitCode × LinkSim
  | 0, _, s => (.success, s)
  | fuel + 1, n, s =>
    match minqPeek s.pktQueue with
    | none => (.success, s)
    | some p =>
      if timevalCmp s.lastClock p.ts then
        match writeOut params s p.buf p.direction (some p.ts) (send n) with
        | (.failure, s) =>
          ((if (send n).any Errno.retries then .success else .failure), s)
        | (.success, s) =>
          deliverFrom params send fuel (n + 1) { s with pktQueue := minqPop s.pktQueue }
      else (.success, s)

/-- `deliver_delayed_pkt`. -/
def deliverDelayedPkt (params : LinkParams) (s : LinkSim) (send : ℕ → Option Errno) :
    ExitCode × LinkSim :=
  deliverFrom params send (minqSize s.pktQueue) 0 s

/-! ## The lossy link -/

/-- `RAND_PERCENT`. -/
def randPercent (rand : UInt32) : UInt32 := rand % 101

/-- "Do we drop it?" -/
def drops (params : LinkParams) (draws : Draws) : Bool :=
  params.lossRate ≠ 0 && randPercent draws.loss < params.lossRate

/-- "Do we cut it after the header?", "or do we corrupt it?" -/
def mangle (params : LinkParams) (draws : Draws) (buf : List UInt8) : List UInt8 :=
  if params.cutRate ≠ 0 ∧ randPercent draws.cut < params.cutRate ∧ buf.length > minPktPdataLen ∧
      buf.headD 0 >>> 6 = 1 then
    (buf.take minPktPdataLen).modify 0 fun b => b ||| 0x20
  else if params.errRate ≠ 0 ∧ randPercent draws.err < params.errRate then
    buf.modify (draws.idx.toNat % buf.length) fun b => ~~~b
  else buf

/-- `applied_delay` in milliseconds.  The computation is one of `unsigned int`, so a divisor may
wrap around to 0. -/
def appliedDelay (params : LinkParams) (draws : Draws) : Option UInt32 :=
  if params.jitter ≠ 0 then
    if params.jitter > params.delay then
      if params.delay + params.jitter = 0 then none
      else some (draws.jitter % (params.delay + params.jitter) % 10000)
    else if 2 * params.jitter = 0 then none
    else some (((params.delay + draws.jitter % (2 * params.jitter)) - params.jitter) % 10000)
  else some (params.delay % 10000)

/-- The expiration date of a packet that is received at `now`. -/
def expirationDate (now : Timeval) (delay : UInt32) : Timeval where
  tvSec := now.tvSec + (delay / 1000).toNat
  tvUsec := now.tvUsec + ((delay % 1000) * 1000).toNat

/-- The part of `simulate_link` for a delayed packet: a slot in the queue. -/
def enqueue (s : LinkSim) (slot : PktSlot) (e : ProxyPoll) : ExitCode × LinkSim :=
  if e.malloc then
    match minqPush s.pktQueue slot e.realloc with
    | (0, q) => (.success, { s with pktQueue := q })
    | (_, q) => (.failure, { s with pktQueue := q })
  else (.failure, s)

/-- `simulate_link`. -/
def simulateLink (params : LinkParams) (s : LinkSim) (buf : List UInt8) (direction : Direction)
    (e : ProxyPoll) : Option (ExitCode × LinkSim) :=
  if drops params e.draws then some (.success, s)
  else if params.delay ≠ 0 then do
    let delay ← appliedDelay params e.draws
    let slot : PktSlot :=
      { ts := expirationDate s.lastClock delay
        direction := direction
        buf := mangle params e.draws buf }
    some (enqueue s slot e)
  else some (writeOut params s (mangle params e.draws buf) direction none e.sendNow)

/-! ## Receiving -/

/-- The direction of a datagram: back to the source if it is from `dest_addr`, but forward whenever
it is from the source.  `none` is the 0 of a datagram from elsewhere. -/
def directionOf (params : LinkParams) (srcAddr addr : SockaddrIn6) : Option Direction :=
  if sameSockaddr addr srcAddr then some .forward
  else if sameSockaddr addr params.destAddr then some .reverse
  else none

/-- The first one to send is the source. -/
def adoptSource (s : LinkSim) (addr : SockaddrIn6) : LinkSim :=
  if s.hasSourceAddr then s else { s with hasSourceAddr := true, srcAddr := addr }

/-- `process_incoming_pkt`. -/
def processIncomingPkt (params : LinkParams) (s : LinkSim) (e : ProxyPoll) :
    Option (ExitCode × LinkSim) :=
  match e.recvfrom with
  | .error errno => some (if errno.retries then .success else .failure, s)
  | .received addr bytes =>
    let buf := bytes.take maxPktLen
    if buf.length < minPktLen then some (.success, s)
    else
      let s := adoptSource s addr
      match directionOf params s.srcAddr addr with
      | none => some (.success, s)
      | some direction =>
        if sameDirection direction params.linkDirection then
          simulateLink params s buf direction e
        else some (writeOut params s buf direction none e.sendNow)

/-! ## The loop -/

/-- The calls in the condition that ends the loop, from `update_time` on. -/
def proxyTurn (params : LinkParams) (s : LinkSim) (e : ProxyPoll) (isSet : Bool) :
    Option (ExitCode × LinkSim) :=
  match e.clock with
  | none => some (.failure, s)
  | some now =>
    match deliverDelayedPkt params { s with lastClock := now } e.sendDelayed with
    | (.failure, s) => some (.failure, s)
    | (.success, s) => if isSet then processIncomingPkt params s e else some (.success, s)

/-- **One turn of `proxy_loop`.** -/
def proxyLoop (params : LinkParams) (s : LinkSim) (e : ProxyPoll) : Option LinkSim :=
  if s.running then
    match e.select with
    | .error errno => some (if errno = .eintr then s else { s with running := false })
    | .ready isSet =>
      (proxyTurn params s e isSet).map fun r =>
        match r with
        | (.success, s) => s
        | (.failure, s) => { s with running := false }
  else some s

/-- The state in front of the loop, for a queue from `minq_new` and a first reading of the clock. -/
def LinkSim.init (mallocQueue : Bool) (mallocSlots : Option (ℕ → PktSlot))
    (clock : Option Timeval) : Option LinkSim := do
  let q ← minqNew pktSlotCmp mallocQueue mallocSlots
  let now ← clock
  some
    { pktQueue := q
      lastClock := now
      hasSourceAddr := false
      srcAddr := ⟨0, 0, 0⟩
      sent := []
      running := true }

/-- `get_queue_timeout`, the time limit of `select`; `none` is `NULL`. -/
def getQueueTimeout (s : LinkSim) : Option Timeval :=
  (minqPeek s.pktQueue).map fun p =>
    let timeout := timevalDiff p.ts s.lastClock
    if timeout.tvSec < 0 ∨ timeout.tvSec = 0 ∧ timeout.tvUsec ≤ 0 then ⟨0, 1000⟩ else timeout

end TrtpNetwork
