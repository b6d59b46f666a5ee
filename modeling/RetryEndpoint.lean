import RetryEndpoint.Ingress.ReceiveLoop
import RetryEndpoint.NackServer.HandOff
import RetryEndpoint.NackServer.Tiers
import RetryEndpoint.RateLimit.Sequential
import RetryEndpoint.Retransmit.Dedup
import RetryEndpoint.Service
import RetryEndpoint.Groups
import RetryEndpoint.Cache.Agreement
import RetryEndpoint.Metrics.Readiness
import RetryEndpoint.Metrics.Accounting
import RetryEndpoint.NackServer.Panics
import RetryEndpoint.Deployment
import RetryEndpoint.Cache.MemoryRuns
import RetryEndpoint.NackServer.Protocol
import RetryEndpoint.RateLimit.Independence
import RetryEndpoint.Flags
import RetryEndpoint.GroupID
import RetryEndpoint.NackAddr
import RetryEndpoint.NackServer.Balance
import RetryEndpoint.RateLimit.Buckets
import RetryEndpoint.NackServer.Limits
import RetryEndpoint.Cache.Linearizable
import RetryEndpoint.NackServer.Shutdown
import RetryEndpoint.Lifecycle.Teardown
import RetryEndpoint.Cache.Collector
import RetryEndpoint.Beacon.Sender
import RetryEndpoint.Ingress.Socket
import RetryEndpoint.Retransmit.Sockets
import RetryEndpoint.SharedFrames
import RetryEndpoint.Network
import RetryEndpoint.NackServer.Pipeline
