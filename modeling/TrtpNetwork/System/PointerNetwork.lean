import TrtpNetwork.Receiver.Dangling
import TrtpNetwork.System.SimulatedLink

/-!
# The system with pointers

The three programs, of which the receiver has its table of pointers.  The sender has pointers in
`Sender.Loop` already.  A run of this system is one of the system of `System.SimulatedLink`, however
the receiver flushes (`exists_viewsLive_of_pointerRun`): an event at which the receiver comes to a
dangling pointer has no outcome here.
-/

namespace TrtpNetwork

/-- A state of the three programs, of the receiver's with its pointers. -/
structure PointerNetwork where
  sender : Sender
  link : LinkSim
  receiver : PointerReceiver

/-- What the pointers show. -/
def PointerNetwork.packets (n : PointerNetwork) : SimulatedNetwork :=
  ⟨n.sender, n.link, n.receiver.packets⟩

/-- One iteration of the program whose event it is. -/
def pointerStep (crc32 : List UInt8 → UInt32) (params : LinkParams) (n : PointerNetwork) :
    SimulatedEvent → Option PointerNetwork
  | .sender e => (readWriteLoopSender crc32 n.sender e).map fun s => { n with sender := s }
  | .link e => (proxyLoop params n.link e).map fun l => { n with link := l }
  | .receiver e => (Pointers.readWriteLoop crc32 n.receiver e).map fun q => { n with receiver := q }

variable {crc32 : List UInt8 → UInt32} {params : LinkParams} {srcAddr : SockaddrIn6}
  {n : PointerNetwork} {m : SimulatedNetwork} {e : SimulatedEvent}

/-- What the sockets allow does not depend on the receiver's table. -/
theorem connectedSockets_of_sameVars (hsender : n.sender = m.sender) (hlink : n.link = m.link)
    (hvars : SameVars n.receiver m.receiver)
    (hsockets : ConnectedSockets params srcAddr n.packets e) :
    ConnectedSockets params srcAddr m e := by
  have hsender' : n.packets.sender = m.sender := hsender
  have hlink' : n.packets.link = m.link := hlink
  have hwritten : n.packets.receiver.written = m.receiver.written := by
    rw [hvars]
    rfl
  cases e <;> simpa only [ConnectedSockets, hsender', hlink', hwritten] using hsockets

/-- The same sender and the same simulator, and a receiver whose pointers show the packets where
they are not dangling. -/
structure ViewsLiveNetwork (n : PointerNetwork) (m : SimulatedNetwork) : Prop where
  sender : n.sender = m.sender
  link : n.link = m.link
  receiver : ViewsLive n.receiver m.receiver

/-- **One event.** -/
theorem simulates_pointerStep (h : ViewsLiveNetwork n m) (e : SimulatedEvent) :
    Simulates ViewsLiveNetwork (pointerStep crc32 params n e) (simulatedStep crc32 params m e) := by
  cases e with
  | sender e =>
    rw [pointerStep, simulatedStep, h.sender]
    cases readWriteLoopSender crc32 m.sender e with
    | none => exact simulates_none
    | some s => exact simulates_some ⟨rfl, h.link, h.receiver⟩
  | link e =>
    rw [pointerStep, simulatedStep, h.link]
    cases proxyLoop params m.link e with
    | none => exact simulates_none
    | some l => exact simulates_some ⟨h.sender, rfl, h.receiver⟩
  | receiver e =>
    exact (simulates_readWriteLoop h.receiver e).map fun q r hviews => ⟨h.sender, h.link, hviews⟩

/-- **A run with pointers is a run with packets.** -/
theorem exists_viewsLive_of_pointerRun {s₀ : Sender} {l₀ : LinkSim} {buffer : Memory}
    {es : List SimulatedEvent}
    (hrun : Run (pointerStep crc32 params)
      (fun _ n e => ConnectedSockets params srcAddr n.packets e)
      ⟨s₀, l₀, PointerReceiver.init buffer⟩ es n) :
    ∃ m, Run (simulatedStep crc32 params) (fun _ m e => ConnectedSockets params srcAddr m e)
      ⟨s₀, l₀, Receiver.init buffer⟩ es m ∧ ViewsLiveNetwork n m :=
  exists_run_of_simulates (R := ViewsLiveNetwork) ⟨rfl, rfl, viewsLive_init buffer⟩
    (fun _ _ _ _ h hsockets =>
      connectedSockets_of_sameVars h.sender h.link h.receiver.vars hsockets)
    (fun _ _ _ e h _ => simulates_pointerStep h e) hrun

end TrtpNetwork
