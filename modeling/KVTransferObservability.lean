import KVTransferObservability.NormalizerTransitions
import KVTransferObservability.NormalizerTables
import KVTransferObservability.NormalizerRejection
import KVTransferObservability.Library.Alternation
import KVTransferObservability.NormalizerHistory
import KVTransferObservability.Library.LastOccurrence
import KVTransferObservability.NormalizerEvidence
import KVTransferObservability.NormalizerCapacity
import KVTransferObservability.Correlated
import KVTransferObservability.Adapter
import KVTransferObservability.Native
import KVTransferObservability.NativeDelivery
import KVTransferObservability.NativeInFlight
import KVTransferObservability.NativeRelease
import KVTransferObservability.NativeExhaustion
import KVTransferObservability.Library.Grouping
import KVTransferObservability.Library.OnlineCheck
import KVTransferObservability.Validation
import KVTransferObservability.ChainRules
import KVTransferObservability.Library.LogMirror
import KVTransferObservability.ReplayedNormalizer
import KVTransferObservability.ChainTracking
import KVTransferObservability.ChainEpisodes
import KVTransferObservability.ChainVerdict
import KVTransferObservability.RestoreChain
import KVTransferObservability.ValidationErrors
import KVTransferObservability.CorrelatedChain
import KVTransferObservability.ShiftedClocks
import KVTransferObservability.ValidationIndependence
import KVTransferObservability.EventSink
import KVTransferObservability.RejectedSubmission
import KVTransferObservability.SinkDrain
import KVTransferObservability.ObserveOrder
import KVTransferObservability.AdapterLifecycle
import KVTransferObservability.LifecycleTransitions
import KVTransferObservability.StoppedWriters
import KVTransferObservability.HostRegistration
import KVTransferObservability.DescriptorQueue
import KVTransferObservability.DescriptorAccounting
import KVTransferObservability.FileWriter
import KVTransferObservability.Library.Json
import KVTransferObservability.Payload
import KVTransferObservability.Decoding
import KVTransferObservability.Constructors
import KVTransferObservability.DecodingRules
import KVTransferObservability.ObservationDecoding
import KVTransferObservability.HostFactDecoding
import KVTransferObservability.CorrelatedDecoding
import KVTransferObservability.EventReaders
import KVTransferObservability.Library.JsonText
import KVTransferObservability.RecordText
import KVTransferObservability.EventFile
import KVTransferObservability.Recording
import KVTransferObservability.RecordedEvents
import KVTransferObservability.ReaderLimits
import KVTransferObservability.NormalizerCounters
import KVTransferObservability.HostCallbacks
import KVTransferObservability.Descriptors
import KVTransferObservability.Library.Blocks
import KVTransferObservability.DescriptorPublication
import KVTransferObservability.PublicationOutcomes
import KVTransferObservability.DescriptorDecoding
import KVTransferObservability.DefaultBounds
import KVTransferObservability.DescriptorCorrelation
import KVTransferObservability.Library.Restriction
import KVTransferObservability.NormalizerShards
import KVTransferObservability.LiveReplay
import KVTransferObservability.Library.WholeGroups
import KVTransferObservability.LostRecords
import KVTransferObservability.RecordCallbacks
import KVTransferObservability.RecordAccounting
import KVTransferObservability.PluginProcesses
import KVTransferObservability.PluginOwnership
import KVTransferObservability.Library.Holdings
import KVTransferObservability.ConcurrentPublication
import KVTransferObservability.PublicationInterleavings
import KVTransferObservability.UninterruptedPublication
import KVTransferObservability.CommandLine
import KVTransferObservability.Library.Parts
import KVTransferObservability.ScannedCaptures
import KVTransferObservability.SeveralFiles
import KVTransferObservability.EventLines
import KVTransferObservability.EncodedSizes
import KVTransferObservability.EpisodeChecks
import KVTransferObservability.HostFacts
import KVTransferObservability.Library.Dict
import KVTransferObservability.Library.IndentedJson
import KVTransferObservability.Library.Machine
import KVTransferObservability.Library.Steps
import KVTransferObservability.Library.Totals
import KVTransferObservability.Normalization
import KVTransferObservability.NormalizerRecords
import KVTransferObservability.Observation
import KVTransferObservability.PythonValues
import KVTransferObservability.RecordedEpisodes
import KVTransferObservability.Schema
import KVTransferObservability.ScopedIds
