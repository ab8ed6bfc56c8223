import Failover.Library.Machine
import Failover.Library.Bytes
import Failover.Library.OnesComplement
import Failover.Library.Persistence
import Failover.Library.Deadline
import Failover.AdvertMatching
import Failover.AdvertisementPace
import Failover.ArpResponder
import Failover.Cluster
import Failover.Compatibility
import Failover.ConfigConsistency
import Failover.DecoderSafety
import Failover.FailedRun
import Failover.InstalledAddresses
import Failover.Isolation
import Failover.SourceFilter
import Failover.GracefulStop
import Failover.Host
import Failover.Leaving
import Failover.LinkTable
import Failover.LossTolerance
import Failover.MasterDown
import Failover.NdpResponder
import Failover.NeighborEcho
import Failover.Noninterference
import Failover.Network
import Failover.PacketCanonical
import Failover.PacketCorruption
import Failover.PacketFormat
import Failover.Preemption
import Failover.ReceiveBuffers
import Failover.Session
import Failover.SharedMacVlan
import Failover.ShutdownRelease
import Failover.SiblingAddresses
import Failover.StateTimer
import Failover.Succession
import Failover.Supremacy
import Failover.Tie
