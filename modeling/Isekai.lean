import Isekai.Lib.Outcome
import Isekai.Lib.Serial
import Isekai.Lib.Bitmap
import Isekai.Lib.OrderedSet
import Isekai.Lib.OrderedMap
import Isekai.Falcon.Types
import Isekai.Falcon.Transaction
import Isekai.Falcon.Endpoint
import Isekai.Falcon.AckCoalescing
import Isekai.Falcon.Scheduling
import Isekai.Falcon.Reorder
import Isekai.Falcon.Transmission
import Isekai.Falcon.Acknowledgement
import Isekai.Falcon.Reception
import Isekai.Falcon.Step
import Isekai.Lib.TransitionSystem
import Isekai.Common.TokenBucket
import Isekai.Falcon.AdmissionControl
import Isekai.Rdma.Context
import Isekai.Rdma.Coverage
import Isekai.Rdma.Credit
import Isekai.Rdma.Frame
import Isekai.Rdma.Model
import Isekai.Rdma.Requests
import Isekai.Rdma.ScheduleSet
import Isekai.Rdma.WorkScheduler
import Isekai.Rdma.OutstandingReads
import Isekai.Rdma.SglCutting
import Isekai.Falcon.TargetBuffer
import Isekai.Falcon.ResourceCredits
import Isekai.Falcon.ResourceManager
import Isekai.Lib.Rewind
import Isekai.Rdma.TargetDelivery
import Isekai.Falcon.Edits
import Isekai.Falcon.Stages
import Isekai.Falcon.Arrivals
import Isekai.Rdma.Steps
import Isekai.Rdma.Chain
import Isekai.Rdma.Estimates
import Isekai.Rdma.Members
import Isekai.Rdma.Limits
import Isekai.Rdma.Core
import Isekai.Rdma.CoreRefinement
import Isekai.Rdma.RequestHistory
import Isekai.Rdma.ReadLimit
import Isekai.Rdma.InboundReads
import Isekai.Host.RxBuffers
import Isekai.Host.BufferBytes
import Isekai.Fabric.IngressAccounting
import Isekai.Fabric.EgressAccounting
import Isekai.Fabric.PfcTrigger
import Isekai.Fabric.IngressRelease
import Isekai.Fabric.PfcPauses
import Isekai.Fabric.PortWakeup
import Isekai.Lib.Agenda
import Isekai.Host.PacketBuilder
import Isekai.Host.TransmitQueue
import Isekai.Host.TransmitChain
import Isekai.Host.PausedHost
import Isekai.Host.NetworkChannel
import Isekai.Host.TrafficShaper
import Isekai.Rue.RateUpdateEngine
import Isekai.Rue.Bookkeeping
import Isekai.Rue.Fixed
import Isekai.Falcon.MultipathWindow
import Isekai.Lib.Scan
import Isekai.Falcon.EackLimit
import Isekai.Falcon.WindowFrames
import Isekai.Falcon.EackProcessing
import Isekai.Falcon.DropIndication
import Isekai.Falcon.EarlyRetransmission
import Isekai.Falcon.ReceiveWindow
import Isekai.Falcon.ReceiveArrival
import Isekai.Falcon.ReceiveDiscipline
import Isekai.Falcon.WeightedRoundRobin
import Isekai.Falcon.InterHostRx
import Isekai.Falcon.Gen3
import Isekai.Falcon.RackSelection
import Isekai.Falcon.RackAck
import Isekai.Falcon.RackTimeout
import Isekai.Falcon.TailLossProbe
import Isekai.Falcon.Sender
import Isekai.Falcon.SenderFrames
import Isekai.Falcon.SenderWindows
import Isekai.Falcon.SenderAcks
import Isekai.Falcon.FlowCounts
import Isekai.Lib.Resequencer
import Isekai.Falcon.ReorderEngine
import Isekai.Falcon.ReorderDelivery
import Isekai.Falcon.PolicyRuns
import Isekai.Falcon.Arbiter
import Isekai.Falcon.ConnectionScheduler
import Isekai.Falcon.PacketCounts
import Isekai.Falcon.CoalescingTimer
import Isekai.Rue.NicGuard
import Isekai.Rue.PacketTiming
import Isekai.Rue.Plb
import Isekai.Falcon.SenderPackets
import Isekai.Falcon.SenderSimulation
import Isekai.Fabric.IpTable
import Isekai.Fabric.IngressAdmission
import Isekai.Fabric.Wcmp
import Isekai.Falcon.FirstHole
import Isekai.Falcon.StrictPriority
import Isekai.Common.TokenRate
import Isekai.Rdma.Turns
