import CapnpDeno.Encoding.RuntimeMessage
import CapnpDeno.Encoding.AnyPointerCopy
import CapnpDeno.Encoding.BuilderProof
import CapnpDeno.Encoding.Locate
import CapnpDeno.Lib.Fallible
import CapnpDeno.Rpc.Wire.FrameLimits
import CapnpDeno.Rpc.Wire.FrameLimitsProof
import CapnpDeno.Rpc.Wire.FramerProof
import CapnpDeno.Encoding.ObjectTree
import CapnpDeno.Encoding.Layout
import CapnpDeno.Encoding.AnyPointerCopyProof
import CapnpDeno.Encoding.PointerGraph
import CapnpDeno.Rpc.Wire.FrameLimitsWalk
import CapnpDeno.Encoding.RuntimeCaps
import CapnpDeno.Lib.CallStack
import CapnpDeno.Encoding.RuntimeCapsProof
import CapnpDeno.Encoding.EncodeFrame
import CapnpDeno.Encoding.ValueLemmas
import CapnpDeno.Encoding.CapabilityFields
import CapnpDeno.Encoding.CapabilityRoundTrip
import CapnpDeno.Lib.Runs
import CapnpDeno.Lib.Acts
import CapnpDeno.Lib.Table
import CapnpDeno.Rpc.Server.Bridge
import CapnpDeno.Rpc.Server.BridgeStep
import CapnpDeno.Rpc.Server.BridgeLemmas
import CapnpDeno.Rpc.Server.RetainedInput
import CapnpDeno.Rpc.Server.BridgeInvariant
import CapnpDeno.Rpc.Server.WaitGraph
import CapnpDeno.Rpc.Server.Books
import CapnpDeno.Rpc.Server.AnswerHolds
import CapnpDeno.Rpc.Server.WireReferences
import CapnpDeno.Rpc.Server.AnswerTable
import CapnpDeno.Rpc.Server.TerminalReturn
import CapnpDeno.Rpc.Server.Pipelining
import CapnpDeno.Rpc.Server.PipelinedResolution
import CapnpDeno.Rpc.Server.WireManaged
import CapnpDeno.Rpc.Client.ClientCall
import CapnpDeno.Rpc.Server.Outbound
import CapnpDeno.Lib.Heap
import CapnpDeno.Rpc.Server.ReturnRouting
import CapnpDeno.Rpc.Server.DeferredFrames
import CapnpDeno.Rpc.Server.PostInboundHook
import CapnpDeno.Rpc.Client.WireClient
import CapnpDeno.Rpc.Session.Client
import CapnpDeno.Rpc.Client.WireMoves
import CapnpDeno.Rpc.Client.ParamCapGrants
import CapnpDeno.Rpc.Session.ClientMoves
import CapnpDeno.Rpc.Session.Waiters
import CapnpDeno.Rpc.Client.CallHistory
import CapnpDeno.Rpc.Session.SessionCalls
import CapnpDeno.Lib.Numbered
import CapnpDeno.Rpc.Client.WireWaiters
import CapnpDeno.Rpc.Client.WireCalls
import CapnpDeno.Rpc.Server.OutboundCalls
import CapnpDeno.Rpc.Client.GeneratedCalls
import CapnpDeno.Rpc.Client.ResultCaps
import CapnpDeno.Rpc.Server.FinishedQuestions
import CapnpDeno.Rpc.Client.AutoFinish
import CapnpDeno.Rpc.Session.GrantFrames
import CapnpDeno.Rpc.Transports.ConnectionPool
import CapnpDeno.Rpc.Transports.PoolActs
import CapnpDeno.Rpc.Transports.ConnectionCount
import CapnpDeno.Rpc.Transports.ConnectionOwnership
import CapnpDeno.Rpc.Transports.PendingAcquires
import CapnpDeno.Rpc.Transports.ConnectionLimit
import CapnpDeno.Rpc.Transports.CircuitBreaker
import CapnpDeno.Rpc.Transports.Tcp
import CapnpDeno.Rpc.Transports.TcpOutput
import CapnpDeno.Rpc.Transports.CapabilityOrigin
import CapnpDeno.Rpc.Transports.Middleware
import CapnpDeno.Rpc.Transports.MiddlewareOrder
import CapnpDeno.Rpc.Session.Streaming
import CapnpDeno.Rpc.Session.StreamActs
import CapnpDeno.Rpc.Session.StreamStages
import CapnpDeno.Rpc.Session.StreamWindow
import CapnpDeno.Rpc.Session.StreamBytes
import CapnpDeno.Rpc.Session.StreamProgress
import CapnpDeno.Rpc.Session.StreamDelivery
import CapnpDeno.Capnpc.EmitterRpc
import CapnpDeno.Capnpc.EmitterTypes
import CapnpDeno.Capnpc.WireOrdinals
import CapnpDeno.Lib.CallGraph
import CapnpDeno.Lib.CallScript
import CapnpDeno.Capnpc.StructDescriptors
import CapnpDeno.Capnpc.DefaultTermination
import CapnpDeno.Encoding.NestedStructs
import CapnpDeno.Encoding.DecodeDepth
import CapnpDeno.Capnpc.EmittedDecoding
import CapnpDeno.Rpc.Wire.Segments
import CapnpDeno.Rpc.Wire.SegmentParsers
import CapnpDeno.Encoding.DataSection
import CapnpDeno.Encoding.CopyLimits
import CapnpDeno.Lib.TextDecoder
import CapnpDeno.Capnpc.CapnpReader
import CapnpDeno.Capnpc.ReaderAgreement
import CapnpDeno.Rpc.Session.L3Handoff
import CapnpDeno.Rpc.Wire.Pointers
import CapnpDeno.Rpc.Wire.PointersProof
import CapnpDeno.Capnpc.ServerAdapter
import CapnpDeno.Capnpc.StreamOrder
import CapnpDeno.Capnpc.StreamJobs
import CapnpDeno.Capnpc.StreamRuns
import CapnpDeno.Capnpc.InterfaceGraph
import CapnpDeno.Lib.GraphSearch
import CapnpDeno.Capnpc.CapabilityWalkers
import CapnpDeno.Capnpc.WalkerPlan
import CapnpDeno.Capnpc.WalkerValues
import CapnpDeno.Capnpc.WalkerRoundTrip
import CapnpDeno.Lib.ByteBits
import CapnpDeno.Encoding.DefaultMasks
import CapnpDeno.Encoding.TextPointer
import CapnpDeno.Capnpc.PluginResponse
import CapnpDeno.Capnpc.PluginResponseProof
import CapnpDeno.Encoding.PlacedTrees
import CapnpDeno.Encoding.TreeDrawing
import CapnpDeno.Encoding.EncodedTrees
import CapnpDeno.Encoding.EncodedMessages
import CapnpDeno.Encoding.TreeTwins
import CapnpDeno.Encoding.FieldPlaces
import CapnpDeno.Encoding.RemapTwins
import CapnpDeno.Encoding.RemapPresence
import CapnpDeno.Rpc.Wire.FrameRoundTrip
import CapnpDeno.Rpc.Wire.Router
import CapnpDeno.Encoding.ShownTrees
import CapnpDeno.Encoding.TreeDecoding
import CapnpDeno.Encoding.SketchedFields
import CapnpDeno.Encoding.ReadBack
import CapnpDeno.Encoding.CodecRoundTrip
