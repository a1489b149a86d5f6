import NexalinkTunnel.AddressLookup.LookupStream
import NexalinkTunnel.AddressLookup.Memory
import NexalinkTunnel.Base.CustomAddr
import NexalinkTunnel.Dns.PkarrSignatures
import NexalinkTunnel.Dns.ResolveHost
import NexalinkTunnel.Dns.Resolver
import NexalinkTunnel.Dns.StaggerCall
import NexalinkTunnel.Dns.TimestampCalls
import NexalinkTunnel.DnsServer.Actor
import NexalinkTunnel.DnsServer.ConcurrentCalls
import NexalinkTunnel.DnsServer.PkarrRelay
import NexalinkTunnel.NetReport.BestRecent
import NexalinkTunnel.NetReport.Mapping
import NexalinkTunnel.Protocol.Shutdown
import NexalinkTunnel.Relay.KeyCacheRuns
import NexalinkTunnel.Relay.PingTracker
import NexalinkTunnel.Relay.Protos.Agreement
import NexalinkTunnel.Relay.Server.BucketArithmetic
import NexalinkTunnel.Relay.Server.Departure
import NexalinkTunnel.Relay.Server.Forwarding
import NexalinkTunnel.Relay.Server.Health
import NexalinkTunnel.Relay.Server.Registration
import NexalinkTunnel.Socket.NetworkChange
import NexalinkTunnel.Socket.NoqFourTuple
import NexalinkTunnel.Socket.PollRecv
import NexalinkTunnel.Socket.Relay.Home
import NexalinkTunnel.Socket.Relay.RecvProgress
import NexalinkTunnel.Socket.Relay.Routes
import NexalinkTunnel.Socket.RemoteMap.OpenPaths
import NexalinkTunnel.Socket.RemoteMap.PathWatcher
import NexalinkTunnel.Socket.RemoteMap.Pruning
import NexalinkTunnel.Socket.RemoteMap.RedundantPaths
import NexalinkTunnel.Socket.RemoteMap.Resolve
import NexalinkTunnel.Socket.RemoteMap.Selection
import NexalinkTunnel.Socket.RemoteMap.Tasks
import NexalinkTunnel.Socket.RemoteMap.Tracking
import NexalinkTunnel.Socket.Sending
import NexalinkTunnel.Tls.Identity
import NexalinkTunnel.Tunnel.Admission
import NexalinkTunnel.Tunnel.SessionLimits
import NexalinkTunnel.Tunnel.Untrusted
