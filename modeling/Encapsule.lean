import Encapsule.Foundation.Mealy
import Encapsule.Foundation.Interaction
import Encapsule.Common.Schema
import Encapsule.Injectee.Winnet
import Encapsule.Injectee.Socks5
import Encapsule.Injectee.Handshake
import Encapsule.Foundation.LeaseBook
import Encapsule.Injectee.FakeIp
import Encapsule.Injectee.FakeIpQuarantine
import Encapsule.Injectee.FakeMap
import Encapsule.Injectee.FakeMapSound
import Encapsule.Injectee.UdpState
import Encapsule.Foundation.LossyFifo
import Encapsule.Injectee.UdpTraffic
import Encapsule.Foundation.Lifecycle
import Encapsule.Injectee.UdpAssociation
import Encapsule.Injectee.UdpLifecycle
import Encapsule.Injector.Injector
import Encapsule.Injector.Server
import Encapsule.Injector.Session
import Encapsule.Foundation.Framing
import Encapsule.Common.AsyncIo
import Encapsule.Injector.ConfigPush
import Encapsule.Injectee.Client
import Encapsule.Injectee.Hook
import Encapsule.Injectee.Routing
import Encapsule.Injectee.Tunnel
import Encapsule.Injectee.ByteOrder
import Encapsule.Common.BlockingQueue
import Encapsule.Injector.Report
import Encapsule.Injector.Teardown
import Encapsule.Foundation.Journal
import Encapsule.Injector.Broadcast
import Encapsule.Injector.Kept
import Encapsule.Injector.Uninject
import Encapsule.Injector.Bootstrap
import Encapsule.Injectee.ReportClient
import Encapsule.Injectee.OneWriter
import Encapsule.Injectee.FakeIpStep
import Encapsule.Injectee.FakeIpInvariant
import Encapsule.Injectee.FakeIpPins
import Encapsule.Foundation.Recency
import Encapsule.Injectee.FakeIpLru
import Encapsule.Injectee.FakeIpRing
import Encapsule.Foundation.Text
import Encapsule.Common.ProxyUrl
import Encapsule.Common.Redaction
import Encapsule.Injector.ProxyPanel
import Encapsule.Injectee.Loopback
import Encapsule.Injectee.FakeIpExclusion
import Encapsule.Foundation.Memory
import Encapsule.Injectee.FakeMapReads
import Encapsule.Injectee.FakeNames
import Encapsule.Injectee.RequestBuilders
import Encapsule.Injectee.UdpHeader
import Encapsule.Injectee.ReplyStream
import Encapsule.Foundation.LongestSuffix
import Encapsule.Foundation.RetiredRing
import Encapsule.Injectee.UdpStep
import Encapsule.Injectee.UdpQueues
import Encapsule.Injectee.UdpAdmission
import Encapsule.Injectee.UdpRing
import Encapsule.Injectee.UdpRefusal
import Encapsule.Injectee.UdpReaper
import Encapsule.Foundation.Since
import Encapsule.Injector.KeptHistory
import Encapsule.Injector.TokenStore
import Encapsule.Injector.Verdicts
import Encapsule.Injectee.Reconnect
import Encapsule.Injectee.TimedClient
import Encapsule.Injectee.AskType
import Encapsule.Injectee.RoundTrip
import Encapsule.Common.SecretWords
import Encapsule.Injectee.AddressLength
import Encapsule.Foundation.Worlds
import Encapsule.Injectee.BlockingMode
import Encapsule.Foundation.Wildcards
import Encapsule.Common.WildcardMatch
import Encapsule.Injector.NumberParsers
import Encapsule.Foundation.Loop
import Encapsule.Foundation.Occurrences
import Encapsule.Common.ReplaceAll
import Encapsule.Foundation.Threads
import Encapsule.Foundation.Mutex
import Encapsule.Injector.ControlPlane
import Encapsule.Injector.Authentication
import Encapsule.Injector.Registration
import Encapsule.Injector.Frames
import Encapsule.Injector.ConfigMutex
import Encapsule.Injectee.ProxiedConnect
import Encapsule.Foundation.Duplex
import Encapsule.Injectee.Socks5TestServer
import Encapsule.Foundation.Reliance
import Encapsule.Injectee.Residency
import Encapsule.Injector.InjectorCli
import Encapsule.Foundation.NamedObjects
import Encapsule.Injector.Handoff
