import SystemScale.Lib.Runs
import SystemScale.Lib.Lookups
import SystemScale.Agent.Encode
import SystemScale.Cloud.CommandCodec
import SystemScale.Cloud.IngestCodec
import SystemScale.Relay.GatewayCodec
import SystemScale.Relay.JsonFrames
import SystemScale.Contract.Messages
import SystemScale.Agent.Ring
import SystemScale.Agent.Replay
import SystemScale.Agent.Transport
import SystemScale.Agent.Mavlink
import SystemScale.Relay.Session
import SystemScale.Contract.CommandDelivery
import SystemScale.Contract.CommandHandover
import SystemScale.Agent.CommandCodec
import SystemScale.Agent.CommandStream
import SystemScale.Lib.Json
import SystemScale.Lib.JsonLaws
import SystemScale.Cloud.Commands
import SystemScale.Agent.LocalApi
import SystemScale.Contract.CommandContent
import SystemScale.Lib.Sql
import SystemScale.Lib.SqlLaws
import SystemScale.Cloud.Query
import SystemScale.Contract.TenantIsolation
import SystemScale.Lib.SqlConjuncts
import SystemScale.Cloud.Ilp
import SystemScale.Relay.Telemetry
import SystemScale.Contract.RowIdentity
import SystemScale.Contract.LogMetadata
import SystemScale.Lib.Float
import SystemScale.Contract.PythonEnvelope
import SystemScale.Relay.EventFrames
import SystemScale.Cloud.CommandService
import SystemScale.Relay.Subscriptions
import SystemScale.Cloud.ApiKeys
import SystemScale.Cloud.Members
import SystemScale.Contract.CommandIsolation
import SystemScale.Contract.Privileges
import SystemScale.Contract.StreamSetup
import SystemScale.Relay.Forwarder
import SystemScale.Cloud.Ingest
import SystemScale.Contract.Framing
import SystemScale.Contract.FrameSizes
import SystemScale.Contract.CommandSubjects
import SystemScale.Cloud.AckDelivery
import SystemScale.Cloud.AckObservers
import SystemScale.Cloud.AckWaiters
import SystemScale.Agent.UnixCalls
import SystemScale.Agent.UnixConnection
import SystemScale.Agent.Restart
import SystemScale.Agent.TransportLoop
import SystemScale.Cloud.NatsRouter
import SystemScale.Cloud.Validator
import SystemScale.Relay.Capacity
import SystemScale.Agent.Sequencer
import SystemScale.Lib.Decimal
import SystemScale.Cloud.IlpLine
import SystemScale.Cloud.IlpWriter
import SystemScale.Sdk.Events
import SystemScale.Sdk.GoReceiver
import SystemScale.Contract.Dispatchers
import SystemScale.Contract.EventDelivery
import SystemScale.Cloud.Fleet
import SystemScale.Cloud.FleetTenants
import SystemScale.Cloud.FleetAnswers
import SystemScale.Sdk.GoOperator
import SystemScale.Contract.OperatorCommands
import SystemScale.Cloud.GrpcCodec
import SystemScale.Sdk.Subscribers
import SystemScale.Contract.TelemetryFrames
import SystemScale.Relay.SubscriptionScope
import SystemScale.Relay.RateLimit
import SystemScale.Sdk.StreamEmitter
import SystemScale.Sdk.ConnectionPool
import SystemScale.Sdk.CommandAcks
import SystemScale.Sdk.Assistance
import SystemScale.Contract.TokenExchange
import SystemScale.Sdk.TokenExchange
import SystemScale.Lib.Rounds
import SystemScale.Lib.WellFormed
import SystemScale.Relay.FastRead
import SystemScale.Contract.StreamTypes
import SystemScale.Cloud.IngestReading
import SystemScale.Cloud.DecoderSafety
import SystemScale.Agent.CommandReading
import SystemScale.Agent.UnixReading
import SystemScale.Contract.RawFrames
import SystemScale.Cloud.PeekReading
import SystemScale.Agent.MavlinkReading
import SystemScale.Relay.GatewaySafety
import SystemScale.Agent.MavlinkCommands
import SystemScale.Agent.MavlinkWaiters
import SystemScale.Contract.StoredEnvelopes
import SystemScale.Lib.Notify
import SystemScale.Agent.Wakeups
import SystemScale.Agent.Backoff
import SystemScale.Contract.FilterPlace
import SystemScale.Contract.QueryParams
import SystemScale.Lib.SqlText
import SystemScale.Cloud.TimeExpr
import SystemScale.Cloud.QueryRows
import SystemScale.Cloud.RequestReading
import SystemScale.Relay.EventReading
import SystemScale.Contract.EventRouting
import SystemScale.Cloud.AckJson
import SystemScale.Lib.JsonPlaces
import SystemScale.Sdk.AckWait
import SystemScale.Contract.AckAnswers
import SystemScale.Lib.PgArray
import SystemScale.Cloud.KeyScopes
import SystemScale.Lib.WebSocket
import SystemScale.Sdk.WsConn
import SystemScale.Sdk.FlattenKeys
import SystemScale.Sdk.EmitterStop
import SystemScale.Sdk.PoolUpkeep
import SystemScale.Lib.Replace
import SystemScale.Cloud.Questdb
import SystemScale.Contract.FieldKeys
import SystemScale.Dashboard.CircularBuffer
import SystemScale.Dashboard.WsManager
import SystemScale.Dashboard.Subscribers
import SystemScale.Lib.Escapes
import SystemScale.Cloud.StringQuoting
import SystemScale.Lib.VarintLoops
import SystemScale.Lib.Zigzag
import SystemScale.Agent.MavlinkPayloads
import SystemScale.Contract.Varints
import SystemScale.Lib.Purge
import SystemScale.Cloud.FleetReads
import SystemScale.Cloud.FleetPrivacy
import SystemScale.Cloud.FleetHistory
import SystemScale.Lib.SqlSelect
import SystemScale.Cloud.TelemetryQuery
import SystemScale.Cloud.KeyHistory
import SystemScale.Lib.Handover
import SystemScale.Agent.AckPath
import SystemScale.Contract.AckHandover
import SystemScale.Dashboard.LiveFeed
import SystemScale.Lib.LapBuffer
import SystemScale.Relay.VideoRing
import SystemScale.Cloud.IngestCounts
import SystemScale.Contract.TelemetryPath
import SystemScale.Contract.TelemetryDelivery
