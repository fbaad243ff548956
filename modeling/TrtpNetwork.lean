import TrtpNetwork.Library.Runs
import TrtpNetwork.Library.SlotArray
import TrtpNetwork.Library.SerialNumbers
import TrtpNetwork.Library.Noninterference
import TrtpNetwork.Library.HeapOrder
import TrtpNetwork.Library.SortedQueue
import TrtpNetwork.Packet.Format
import TrtpNetwork.Packet.PutOnPkt
import TrtpNetwork.Packet.Corruption
import TrtpNetwork.Packet.Canonical
import TrtpNetwork.Packet.Extent
import TrtpNetwork.Packet.Leftovers
import TrtpNetwork.Packet.Capacity
import TrtpNetwork.Packet.Socket
import TrtpNetwork.Receiver.InOrderOutput
import TrtpNetwork.Receiver.Acknowledgements
import TrtpNetwork.Receiver.Duplicates
import TrtpNetwork.Receiver.Bookkeeping
import TrtpNetwork.Receiver.EndOfTransfer
import TrtpNetwork.Receiver.Flush
import TrtpNetwork.Receiver.Nacks
import TrtpNetwork.Sender.Window
import TrtpNetwork.Sender.Lookups
import TrtpNetwork.Sender.NewestAck
import TrtpNetwork.Sender.FlowControl
import TrtpNetwork.Sender.NackRequests
import TrtpNetwork.Sender.Supply
import TrtpNetwork.Sender.Chunking
import TrtpNetwork.Sender.Scan
import TrtpNetwork.Sender.Timer
import TrtpNetwork.Linksimulator.MinQueueRuns
import TrtpNetwork.Linksimulator.Conservation
import TrtpNetwork.Linksimulator.Expiry
import TrtpNetwork.Linksimulator.Options
import TrtpNetwork.System.AckAgreement
import TrtpNetwork.System.PerfectLink
import TrtpNetwork.System.SharedBuffer
import TrtpNetwork.System.PointerNetwork
import TrtpNetwork.System.CorruptingLink
import TrtpNetwork.System.FaultlessCompletion
import TrtpNetwork.System.Reports
import TrtpNetwork.Library.Bisimulation
import TrtpNetwork.Library.OwnedSlots
import TrtpNetwork.Receiver.MemorySafety
import TrtpNetwork.Receiver.Pointers
import TrtpNetwork.Receiver.Dangling
import TrtpNetwork.Sender.MemorySafety
import TrtpNetwork.System.MemorySafety
