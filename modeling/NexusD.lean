import NexusD.Library.Execution
import NexusD.Library.DebtLedger
import NexusD.Library.Heartbeats
import NexusD.Library.Window
import NexusD.Library.ListFacts
import NexusD.Library.Attempts
import NexusD.Library.Dispatch
import NexusD.Library.IterationOrder
import NexusD.Library.Concatenation
import NexusD.Library.DirtyCache
import NexusD.Library.FrontLoss
import NexusD.Library.Json
import NexusD.Library.JsonParser
import NexusD.Library.JsonMembers
import NexusD.Library.JsonLines
import NexusD.Library.Numeral
import NexusD.Library.Noninterference
import NexusD.Library.ValueSum
import NexusD.Library.ConditionVariable
import NexusD.Library.ShiftRegister
import NexusD.Core.Basic
import NexusD.Core.TextConversion
import NexusD.Core.TextFormat
import NexusD.Core.Uuid
import NexusD.Core.TopicBuffer
import NexusD.Core.TopicMessageBuffer
import NexusD.Core.BufferHistory
import NexusD.Core.ReplayGaps
import NexusD.Core.UnlimitedMemory
import NexusD.Core.TopicTail
import NexusD.Core.BufferOperations
import NexusD.Core.ReplayAccounting
import NexusD.Core.MemoryAccounting
import NexusD.Core.BufferRejection
import NexusD.Core.TopicIndependence
import NexusD.Core.SubscriberQueue
import NexusD.Core.QueueThreads
import NexusD.Core.QueueClosing
import NexusD.Core.QueueWakeups
import NexusD.Core.QueueExpiry
import NexusD.Core.PeerRegistry
import NexusD.Core.TopicIndex
import NexusD.Core.Crc64
import NexusD.Core.Crc64Bitwise
import NexusD.Core.TopicHash
import NexusD.Core.HashCache
import NexusD.Core.PeerTable
import NexusD.Core.RoutingThreads
import NexusD.Core.DiscoveryAgent
import NexusD.Core.ClusterIsolation
import NexusD.Core.FailureDetector
import NexusD.Core.AgentLifecycle
import NexusD.Core.SubscriptionCalls
import NexusD.Core.PauseResume
import NexusD.Core.AdvertisedHash
import NexusD.Services.SubscribeReactor
import NexusD.Services.StreamTransitions
import NexusD.Services.StreamLocks
import NexusD.Services.WriteOwnership
import NexusD.Services.StreamProgress
import NexusD.Services.StreamTermination
import NexusD.Services.SubscriptionStream
import NexusD.Services.SidecarService
import NexusD.Services.NodeState
import NexusD.Services.AntiEntropy
import NexusD.Services.Convergence
import NexusD.Services.ServiceFrames
import NexusD.Services.ReactorCast
import NexusD.Services.SubscriptionTable
import NexusD.Services.SubscriptionIds
import NexusD.Services.DaemonRuns
import NexusD.Services.RemoteForwarding
import NexusD.Services.RetainedMessages
import NexusD.Services.LiveMessages
import NexusD.Services.LiveStreams
import NexusD.Services.FanOut
import NexusD.Services.DeliveryPosition
import NexusD.Services.StreamEvents
import NexusD.Services.SubscriberIsolation
import NexusD.Services.ResumePosition
import NexusD.Services.PauseReplay
import NexusD.Services.ConcurrentCalls
import NexusD.Services.LoneCalls
import NexusD.Services.ResumeAtomicity
import NexusD.Services.DeliveryOrder
import NexusD.Services.ResumePhases
import NexusD.Services.ReplayHandover
import NexusD.Services.StreamContents
import NexusD.Services.TopicQueries
import NexusD.Services.PeerQueries
import NexusD.Services.Provenance
import NexusD.Services.CallProvenance
import NexusD.Services.Mesh
import NexusD.Services.PushMessageStream
import NexusD.Services.MeshRuns
import NexusD.Services.MeshStreams
import NexusD.Services.MeshDelivery
import NexusD.Services.MeshPublish
import NexusD.Services.MeshLocality
import NexusD.Daemon.Config
import NexusD.Daemon.ConfigRoundTrip
import NexusD.Clients.SubscribeLoop
import NexusD.Clients.Reconnection
import NexusD.Clients.GapDetection
import NexusD.Clients.NodeClient
import NexusD.Clients.ConnectionCallbacks
import NexusD.Clients.NodeConnections
import NexusD.Clients.NodeOperations
import NexusD.Clients.NodeLoops
import NexusD.Clients.NodeSubscriptions
import NexusD.Clients.PublishRetry
import NexusD.Clients.IteratorBridge
import NexusD.Tools.Tokenizer
import NexusD.Tools.CommandParser
import NexusD.Tools.PublishCommand
import NexusD.Tools.OutputFormatter
import NexusD.Tools.PrintedLines
import NexusD.Tools.MessageLines
import NexusD.Tools.DiscoveryResponse
import NexusD.Tools.Discovery
import NexusD.Tools.DiscoveredList
import NexusD.Tools.DiscoveryRounds
