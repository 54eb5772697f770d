import LibNciCore.Lib.LinkedQueue
import LibNciCore.Lib.Framing
import LibNciCore.Lib.Cut
import LibNciCore.Lib.Reassembly
import LibNciCore.Lib.Reads
import LibNciCore.Lib.Region
import LibNciCore.Lib.Memory
import LibNciCore.Lib.History
import LibNciCore.Lib.Counting
import LibNciCore.Lib.Tlv
import LibNciCore.Sar.Types
import LibNciCore.Sar.Write
import LibNciCore.Sar.Read
import LibNciCore.Sar.Interface
import LibNciCore.Sar.Passive
import LibNciCore.Sar.Run
import LibNciCore.Sar.Queues
import LibNciCore.Sar.Lists
import LibNciCore.Sar.Effects
import LibNciCore.Sar.Steps
import LibNciCore.Sar.Trace
import LibNciCore.Sar.Credits
import LibNciCore.Sar.Lines
import LibNciCore.Sar.Segments
import LibNciCore.Sar.LastPointers
import LibNciCore.Sar.Fifo
import LibNciCore.Sar.Awake
import LibNciCore.Sar.Chunking
import LibNciCore.Sar.Reassembly
import LibNciCore.Sar.Reset
import LibNciCore.Sar.RoundTrip
import LibNciCore.Sar.Moves
import LibNciCore.Sar.Clearing
import LibNciCore.Sar.Kept
import LibNciCore.Sar.Orderly
import LibNciCore.Sar.AppMoves
import LibNciCore.Sar.Packets
import LibNciCore.Sar.Ledger
import LibNciCore.Sar.LifeCycle
import LibNciCore.Sar.Callbacks
import LibNciCore.Sar.Free
import LibNciCore.Sar.References
import LibNciCore.Sar.Hal
import LibNciCore.Sar.Delivery
import LibNciCore.Util.Types
import LibNciCore.Util.Parse
import LibNciCore.Util.Bounds
import LibNciCore.Util.Copy
import LibNciCore.Util.CopyParam
import LibNciCore.Util.CopyArray
import LibNciCore.Util.Config
import LibNciCore.Util.Notification
import LibNciCore.Util.Lookup
import LibNciCore.Util.Nfcid1
import LibNciCore.Sm.Types
import LibNciCore.Sm.Machine
import LibNciCore.Sm.Configure
import LibNciCore.Sm.Responses
import LibNciCore.Sm.Notifications
import LibNciCore.Sm.Run
import LibNciCore.Sm.Control
import LibNciCore.Sm.Requests
import LibNciCore.Sm.Race
import LibNciCore.Sm.Invariant
import LibNciCore.Sm.Coherence
import LibNciCore.Sm.Calm
import LibNciCore.Sm.Sticky
import LibNciCore.Sm.Freshness
import LibNciCore.Sm.Outcome
import LibNciCore.Sm.Moves
import LibNciCore.Sm.Conduct
import LibNciCore.Sm.Belonging
import LibNciCore.Sm.Published
import LibNciCore.Sm.Farewell
import LibNciCore.Sm.Steps
import LibNciCore.Sm.Handshake
import LibNciCore.Sm.Initialization
import LibNciCore.Sm.Selection
import LibNciCore.Sm.Routing
import LibNciCore.Sm.Listening
import LibNciCore.Sm.Converge
import LibNciCore.Sm.Commands
import LibNciCore.Sm.Object
import LibNciCore.Sm.Parameters
import LibNciCore.Sm.HistoricalBytes
import LibNciCore.Sm.Upkeep
import LibNciCore.Sm.Timers
import LibNciCore.Sm.Watchdog
import LibNciCore.Sm.Recovery
import LibNciCore.Core.Command
import LibNciCore.Core.Run
import LibNciCore.Core.Moves
import LibNciCore.Core.Answers
import LibNciCore.Core.Waning
import LibNciCore.Core.Params
import LibNciCore.Core.System
import LibNciCore.Core.Failing
import LibNciCore.Core.Grants
import LibNciCore.Core.InitRsp
import LibNciCore.Core.Settings
import LibNciCore.Core.Changes
import LibNciCore.Core.Orderly
import LibNciCore.Core.Restart
import LibNciCore.Core.Superseded
