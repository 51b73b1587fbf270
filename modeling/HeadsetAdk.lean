import HeadsetAdk.Rafs.OpenModes
import HeadsetAdk.Rafs.PowerCuts
import HeadsetAdk.GoalsEngine.Draining
import HeadsetAdk.Rwcp.Delivery
import HeadsetAdk.Gaia.FlushedPackets
import HeadsetAdk.Gaia.StreamReception
import HeadsetAdk.CaseComms.Polling
import HeadsetAdk.CaseComms.StatusReports
import HeadsetAdk.CaseComms.CaseChannel
import HeadsetAdk.Volumes.DeviceVolumes
import HeadsetAdk.Volumes.OutputVolume
import HeadsetAdk.Rsa.Exponentiation
import HeadsetAdk.Rsa.PssAcceptance
import HeadsetAdk.UpgradeSm.ImageCheck
import HeadsetAdk.DeviceList.Refinement
import HeadsetAdk.LeAdvertising.BuiltAdvert
import HeadsetAdk.BandwidthManager.Throttling
import HeadsetAdk.InputEvents.HoldDetection
import HeadsetAdk.Gaia.Confirmations
import HeadsetAdk.Gaia.SentMessages
import HeadsetAdk.Handset.Reconnection
import HeadsetAdk.Handset.ConnectionLimit
import HeadsetAdk.ConManager.LinkUsers
import HeadsetAdk.ConManager.ScanPauses
import HeadsetAdk.ConManager.LeDisconnections
import HeadsetAdk.BtDevice.Upgrading
import HeadsetAdk.Hdma.Handovers
import HeadsetAdk.Hdma.QueueRuns
import HeadsetAdk.Hdma.FilterRounding
import HeadsetAdk.Rwcp.DeliveryReports
import HeadsetAdk.Rafs.ExtentQueries
import HeadsetAdk.Marshal.UnionArrays
import HeadsetAdk.Marshal.ArrayBlobs
import HeadsetAdk.Marshal.ClearStore
import HeadsetAdk.Rafs.BackgroundWork
import HeadsetAdk.PeerFindRole.LinkReferences
import HeadsetAdk.KeyValues.Sized
import HeadsetAdk.TaskList.Capacity
import HeadsetAdk.DeviceDb.FrameLimits
import HeadsetAdk.DeviceDb.DelayedSerialise
import HeadsetAdk.KeyValues.Merge
import HeadsetAdk.Upgrade.HeaderGrammar
import HeadsetAdk.Upgrade.ResumeRequests
import HeadsetAdk.UpgradePeer.Relay
import HeadsetAdk.ByteUtils.StreamAccessors
import HeadsetAdk.Upgrade.ChunkedRequests
import HeadsetAdk.Rtime.Wallclock
import HeadsetAdk.StateProxy.PhyStateReplay
import HeadsetAdk.AudioSources.SourcesIterator
import HeadsetAdk.LeAdvertising.PacketBuffers
import HeadsetAdk.BandwidthManager.SlotTable
import HeadsetAdk.FastPair.MessageSending
import HeadsetAdk.FastPair.BloomFilter
import HeadsetAdk.Handset.LinkLoss
import HeadsetAdk.ScriptEngine.Engine
import HeadsetAdk.StateOfCharge.ChargeLookup
