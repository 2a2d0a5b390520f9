import NodeLink.Action
import NodeLink.Async.Receiver
import NodeLink.Async.Sender
import NodeLink.Bench.Command
import NodeLink.Bench.Item
import NodeLink.Bench.Session
import NodeLink.Bench.World
import NodeLink.Buffer
import NodeLink.Bus
import NodeLink.Bytes
import NodeLink.Channel.Header
import NodeLink.Channel.Receiver
import NodeLink.Channel.Sender
import NodeLink.Checksum
import NodeLink.ConfigurationChannel.Consumer
import NodeLink.ConfigurationChannel.ObjectWrite
import NodeLink.ConfigurationChannel.Producer
import NodeLink.Dictionary
import NodeLink.ElementFifo
import NodeLink.Error
import NodeLink.Host
import NodeLink.Layout
import NodeLink.Link
import NodeLink.Logbook.Consumer
import NodeLink.Logbook.Entry
import NodeLink.Logbook.Producer
import NodeLink.Medium
import NodeLink.Object
import NodeLink.ProcessData.Consumer
import NodeLink.ProcessData.Image
import NodeLink.ProcessData.Producer
import NodeLink.Prog
import NodeLink.Queue
import NodeLink.Safety.Builder
import NodeLink.Safety.Frame
import NodeLink.Safety.Reader
import NodeLink.SharedMemory
import NodeLink.Side.Application
import NodeLink.Side.Communication
import NodeLink.Side.Report
import NodeLink.Ssdo.Inbound
import NodeLink.Ssdo.Outbound
import NodeLink.Status
import NodeLink.Timer
import NodeLink.TripleBuffer
import NodeLink.TripleBuffer.Call
import NodeLink.TripleBuffer.Remote
import NodeLink.TripleBuffer.Sequence
import NodeLink.Words
import NodeLink.Proofs.Ensures
import NodeLink.Proofs.Log
import NodeLink.Proofs.Memory
import NodeLink.Proofs.MediumAccess
import NodeLink.Proofs.Interference
import NodeLink.Proofs.TripleBuffer.Connection
import NodeLink.Proofs.TripleBuffer.Freshness
import NodeLink.Proofs.TripleBuffer.Interleaving
import NodeLink.Proofs.Acyclic
import NodeLink.Proofs.Acyclic.Delivery
import NodeLink.Proofs.Agreement
import NodeLink.Proofs.Async
import NodeLink.Proofs.Channel
import NodeLink.Proofs.Channel.Conveyance
import NodeLink.Proofs.Channel.Custody
import NodeLink.Proofs.ConfigurationChannel
import NodeLink.Proofs.ConfigurationChannel.Order
import NodeLink.Proofs.Logbook
import NodeLink.Proofs.Safety.Reader
import NodeLink.Proofs.Ssdo.InboundConsumer
import NodeLink.Proofs.Ssdo.InboundDelivery
import NodeLink.Proofs.Ssdo.InboundLapping
import NodeLink.Proofs.Ssdo.OutboundConsumer
import NodeLink.Proofs.Ssdo.OutboundOrder
import NodeLink.Proofs.Ssdo.OutboundRelease
import NodeLink.Proofs.Checksum
import NodeLink.Proofs.Safety.WireForm
import NodeLink.Proofs.Safety.Builder
import NodeLink.Proofs.Safety.Corruption
import NodeLink.Proofs.Ssdo.InboundRetransmission
import NodeLink.Proofs.Footprint
import NodeLink.Proofs.LinkAccess
import NodeLink.Proofs.TripleBuffer.Footprint
import NodeLink.Proofs.TripleBuffer.Remote
import NodeLink.Proofs.ProcessData
import NodeLink.Proofs.Node
import NodeLink.Proofs.Node.Images
import NodeLink.Proofs.Ssdo.InboundAdmission
import NodeLink.Proofs.Ssdo.InboundProgress
import NodeLink.Proofs.Async.Delivery
import NodeLink.Proofs.Bounds.Checked
import NodeLink.Proofs.Bounds.Decoders
import NodeLink.Proofs.Bounds.Reading
import NodeLink.Proofs.Bounds.Consumers
import NodeLink.Proofs.Bounds.Readers
import NodeLink.Proofs.Linking
import NodeLink.Proofs.TripleBuffer.Creation
import NodeLink.Proofs.Node.StartUp
import NodeLink.Proofs.Outage
import NodeLink.Proofs.TripleBuffer.Interruption
import NodeLink.Proofs.Patching
import NodeLink.Proofs.ProcessData.Copying
import NodeLink.Proofs.ProcessData.Delivery
import NodeLink.Proofs.Checksum.Burst
import NodeLink.Proofs.Timer.Ledger
import NodeLink.Proofs.Ssdo.OutboundRetries
import NodeLink.Proofs.Logbook.Timeout
import NodeLink.Proofs.Trace
import NodeLink.Proofs.Node.Cycle
import NodeLink.Proofs.TripleBuffer.Renewal
