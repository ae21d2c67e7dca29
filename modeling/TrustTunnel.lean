import TrustTunnel.Session.Quiet
import TrustTunnel.Session.Endpoint
import TrustTunnel.Session.Retries
import TrustTunnel.Session.Waiting
import TrustTunnel.Traffic.Tables
import TrustTunnel.Dns.Containment
import TrustTunnel.Traffic.Fake.Runs
import TrustTunnel.Upstream.Custody
import TrustTunnel.Upstream.Sessions
import TrustTunnel.Upstream.Udp.Demultiplexing
import TrustTunnel.Upstream.Udp.Failures
import TrustTunnel.Upstream.Udp.Tables
import TrustTunnel.Upstream.Http2.ByteStream
import TrustTunnel.Core.KillSwitch
import TrustTunnel.Buffer.ShortTransfers
import TrustTunnel.Dns.Framing
import TrustTunnel.Dns.UpstreamLifecycle
import TrustTunnel.Dns.ListenerLifecycle
import TrustTunnel.Upstream.Http3.FlowControl
import TrustTunnel.Upstream.Http3.Terminal
import TrustTunnel.Upstream.Http2.Terminal
import TrustTunnel.Filter.Exclusions
import TrustTunnel.Icmp.Answers
import TrustTunnel.Connector.OwnErrors
import TrustTunnel.Connector.LiveSessions
import TrustTunnel.Resolver.Accounting
import TrustTunnel.Net.TcpSocket
import TrustTunnel.Socks5.Failures
import TrustTunnel.Traffic.Resolved
import TrustTunnel.Ping.Reports
import TrustTunnel.Traffic.Migrations
import TrustTunnel.Resolver.Servers
import TrustTunnel.Traffic.Delivery
import TrustTunnel.Tls.Exchange
import TrustTunnel.Upstream.Udp.Packets
import TrustTunnel.Icmp.Multiplexer
import TrustTunnel.Core.Monitor
import TrustTunnel.Tun.Listener
import TrustTunnel.Net.DeferredWrites
import TrustTunnel.Net.Routes
import TrustTunnel.Net.Varint
import TrustTunnel.Tun.ClientData
import TrustTunnel.Tun.EchoRequests
import TrustTunnel.Core.Ports
import TrustTunnel.FsmValidation
