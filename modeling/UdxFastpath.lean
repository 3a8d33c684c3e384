import UdxFastpath.Cndp.Cleanup
import UdxFastpath.Cndp.KeyClash
import UdxFastpath.Cndp.LcoreGroups
import UdxFastpath.Cndp.RunToCompletion
import UdxFastpath.Cndp.StartUp
import UdxFastpath.Cndp.ThreadControl
import UdxFastpath.Cndp.ThreadResources
import UdxFastpath.Cndp.Umem
import UdxFastpath.Core.ArpAnswer
import UdxFastpath.Core.ArpTranslation
import UdxFastpath.Core.Classification
import UdxFastpath.Core.Events
import UdxFastpath.Core.FastpathPorts
import UdxFastpath.Core.FilterContract
import UdxFastpath.Core.Json
import UdxFastpath.Core.Lifecycle
import UdxFastpath.Core.Loader
import UdxFastpath.Core.Manager
import UdxFastpath.Core.PacketConservation
import UdxFastpath.Core.PacketOrder
import UdxFastpath.Core.RangeLists
import UdxFastpath.Core.Rejection
import UdxFastpath.Core.SameDecision
import UdxFastpath.Core.UdpPort
import UdxFastpath.Core.Verdicts
import UdxFastpath.Dpdk.LaunchArgs
import UdxFastpath.Dpdk.PortMap
import UdxFastpath.Dpdk.QueuePolling
import UdxFastpath.Dpdk.RunToCompletion
import UdxFastpath.Dpdk.SharedRxq
import UdxFastpath.Dpdk.SocketPools
import UdxFastpath.Dpdk.StreamSlots
import UdxFastpath.Dpdk.TapFanOut
import UdxFastpath.Dpdk.TxBufferOwner
import UdxFastpath.Foundation.AccessLog
import UdxFastpath.Foundation.ByteWindow
import UdxFastpath.Foundation.CParsing
import UdxFastpath.Foundation.CStrings
import UdxFastpath.Foundation.Conservation
import UdxFastpath.Foundation.Disposal
import UdxFastpath.Foundation.FifoTrace
import UdxFastpath.Foundation.HeaderPush
import UdxFastpath.Foundation.SearchTree
import UdxFastpath.Foundation.Tiling
import UdxFastpath.Foundation.Words
import UdxFastpath.Net.InterfaceAddress
import UdxFastpath.Net.PacketType
import UdxFastpath.Upf.Accesses
import UdxFastpath.Upf.ConfiguredAddresses
import UdxFastpath.Upf.Decapsulation
import UdxFastpath.Upf.Encapsulation
import UdxFastpath.Upf.GtpHeader
import UdxFastpath.Upf.Handler
import UdxFastpath.Upf.Outcomes
import UdxFastpath.Upf.Processor
import UdxFastpath.Upf.ReadBounds
import UdxFastpath.Upf.RuleKeys
import UdxFastpath.Upf.SessionFidelity
import UdxFastpath.Upf.StaleHeadroom
import UdxFastpath.Upf.TapDevice
