import SysZerotier.Library.OnesComplement
import SysZerotier.Library.Links
import SysZerotier.Library.Bank
import SysZerotier.Library.Cut
import SysZerotier.Library.Guard
import SysZerotier.Library.Ring
import SysZerotier.Library.Runs
import SysZerotier.Library.Ledger
import SysZerotier.Library.ByteSet
import SysZerotier.Library.Recency
import SysZerotier.Library.Cursor
import SysZerotier.Net.Fifo
import SysZerotier.Net.Soundness
import SysZerotier.Net.Completeness
import SysZerotier.Net.RoundTrip
import SysZerotier.Net.Safety
import SysZerotier.Port.Separation
import SysZerotier.Mitm.Agreement
import SysZerotier.Mitm.Diversion
import SysZerotier.Mitm.MMsgPasses
import SysZerotier.Mitm.Connected
import SysZerotier.Port.Sleep
import SysZerotier.Port.Startup
import SysZerotier.Config.Template
import SysZerotier.Net.Truncated
import SysZerotier.Port.StateObjects
import SysZerotier.Port.Addresses
import SysZerotier.Port.NatFreshness
import SysZerotier.Mitm.Retirement
import SysZerotier.Mitm.Reaping
import SysZerotier.Port.Recovery
import SysZerotier.Net.Demux
import SysZerotier.Net.ArpCache
import SysZerotier.Net.Ephemeral
import SysZerotier.Mitm.Readiness
import SysZerotier.Mitm.PollBuffers
import SysZerotier.Mitm.MMsgBuffers
import SysZerotier.Port.Outbound
import SysZerotier.Port.Membership
import SysZerotier.Port.DeadSocket
import SysZerotier.Mitm.DummySession
import SysZerotier.Config.Layout
import SysZerotier.Config.Values
import SysZerotier.Config.Selected
import SysZerotier.Port.NatAllocator
import SysZerotier.Port.BootTrace
import SysZerotier.Mitm.ProxyConfig
import SysZerotier.Mitm.Profiles
import SysZerotier.Mitm.BrowseCaptures
import SysZerotier.Net.InternetChecksum
import SysZerotier.Library.Medium
import SysZerotier.Library.LineLog
import SysZerotier.Library.Reader
import SysZerotier.Library.Rows
import SysZerotier.Library.Pacing
import SysZerotier.Library.LowWater
import SysZerotier.Library.Dialogue
import SysZerotier.Net.Neighbours
import SysZerotier.Net.Segment
import SysZerotier.Net.FirstContact
import SysZerotier.Net.Announcement
import SysZerotier.Net.Authenticity
import SysZerotier.Net.Reference
import SysZerotier.Port.Subscriptions
import SysZerotier.Port.Printing
import SysZerotier.Port.Status
import SysZerotier.Port.Peers
import SysZerotier.Port.Announcing
import SysZerotier.Port.Clock
import SysZerotier.Port.MemoryWatch
import SysZerotier.Port.Heartbeat
import SysZerotier.Port.NatSockets
import SysZerotier.Mitm.Logs
import SysZerotier.Mitm.FlowSamples
import SysZerotier.Mitm.NifmRequest
import SysZerotier.Overlay.StatusPage
import SysZerotier.Overlay.NetworkEditor
import SysZerotier.Tools.Dti2
import SysZerotier.Mitm.Games
import SysZerotier.Net.Outgoing
