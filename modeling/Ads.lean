import Ads.Control.Outcome
import Ads.Transition.Run
import Ads.Bytes.LittleEndian
import Ads.Bytes.Reader
import Ads.Bytes.Scatter
import Ads.Bytes.Entries
import Ads.Errors
import Ads.NetId
import Ads.Client.Header
import Ads.Notif.Core
import Ads.Notif.Correctness
import Ads.Client.Reader
import Ads.Client.Framing
import Ads.Client.Demux
import Ads.Client.Communicate
import Ads.Client.World
import Ads.Client.Steps
import Ads.Client.Invariant
import Ads.Client.Lifecycle
import Ads.Client.Routing
import Ads.Client.Cleanup
import Ads.Client.Session
import Ads.Client.SessionInvariant
import Ads.Client.LateReplies
import Ads.Client.Silence
import Ads.Client.Requests
import Ads.Client.Device
import Ads.Bytes.Window
import Ads.Client.Fixup
import Ads.Client.Multi
import Ads.Client.SumUp
import Ads.Client.SumUpServer
import Ads.Client.SumUpCorrectness
import Ads.Text.Utf8
import Ads.Text.Utf16
import Ads.Text.Padded
import Ads.Strings
import Ads.Text.Split
import Ads.Text.Decimal
import Ads.Address
import Ads.Bytes.Record
import Ads.Symbol.Types
import Ads.Symbol.Decode
import Ads.Symbol.Wire
import Ads.Symbol.RoundTrip
import Ads.Control.Stateful
import Ads.Client.ResultBufs
import Ads.Client.Leftovers
import Ads.Client.Outgoing
import Ads.Client.Reads
import Ads.Client.Duration
import Ads.Client.Notifications
import Ads.Client.CutReplies
import Ads.Bytes.Tagged
import Ads.Bytes.Cursor
import Ads.Udp.Message
import Ads.Udp.Parsing
import Ads.Udp.Getters
import Ads.Udp.Queries
import Ads.Udp.Replies
import Ads.Udp.RoundTrip
import Ads.TaskInfo.Core
import Ads.TaskInfo.Correctness
import Ads.Transition.Mirror
import Ads.Client.Tracking
import Ads.TaskInfo.Sample
import Ads.Symbol.Enums
import Ads.Symbol.Sections
import Ads.Symbol.Layout
import Ads.Symbol.Nested
import Ads.Symbol.Tables
import Ads.Symbol.Alike
import Ads.Symbol.ByName
import Ads.Client.ShortReplies
import Ads.Client.LongItems
import Ads.Client.Refusals
import Ads.Client.BatchedAdds
import Ads.Client.Lengths
import Ads.Client.Service
import Ads.Client.Linear
import Ads.Client.WireServer
import Ads.Control.Loop
import Ads.Client.Exchange
import Ads.Client.Directory
import Ads.Transition.Transducer
import Ads.Client.Files
import Ads.Client.State
import Ads.Client.AdsDevice
import Ads.Symbol.Upload
import Ads.Symbol.Handles
import Ads.Client.Connection
import Ads.Udp.Systems
import Ads.Udp.Routers
import Ads.Client.Feed
import Ads.Client.Shared
