import KoreWebsocket.Lib.Checked
import KoreWebsocket.Lib.Machine
import KoreWebsocket.Lib.WaitQueue
import KoreWebsocket.Lib.Bytes
import KoreWebsocket.Lib.Items
import KoreWebsocket.Lib.Json
import KoreWebsocket.Lib.Table
import KoreWebsocket.Lib.Writer
import KoreWebsocket.Utils.Byte
import KoreWebsocket.Rtcp.Packet
import KoreWebsocket.Rtcp.Bounds
import KoreWebsocket.Rtcp.Compound
import KoreWebsocket.Rtcp.RoundTrip
import KoreWebsocket.Rtp.Rtx
import KoreWebsocket.Rtp.Stream
import KoreWebsocket.Stun.Authentication
import KoreWebsocket.Ice.States
import KoreWebsocket.Rtc.Atomicity
import KoreWebsocket.Rtc.Demultiplex
import KoreWebsocket.Rtc.Mesh
import KoreWebsocket.Rtc.LinkedRooms
import KoreWebsocket.Rtc.Ports
import KoreWebsocket.Rtc.Aborts
import KoreWebsocket.Tcp.Framing
import KoreWebsocket.Tcp.Server
import KoreWebsocket.Channel.Letters
import KoreWebsocket.Channel.Completion
import KoreWebsocket.Channel.Replies
import KoreWebsocket.Worker.Requests
import KoreWebsocket.Worker.Registry
import KoreWebsocket.Rooms.Agreement
import KoreWebsocket.Rooms.World
import KoreWebsocket.Rooms.RandomIds
import KoreWebsocket.Rooms.Refinement
import KoreWebsocket.Rooms.Connections
import KoreWebsocket.Rooms.Notifications
import KoreWebsocket.Pgsql.Query
import KoreWebsocket.Pgsql.Delivery
import KoreWebsocket.Pgsql.Pool
import KoreWebsocket.Pgsql.Accounting
import KoreWebsocket.Pgsql.Ownership
import KoreWebsocket.Pgsql.WaitQueue
import KoreWebsocket.Pgsql.Results
import KoreWebsocket.Pgsql.Simulation
import KoreWebsocket.Pgsql.QueryParams
import KoreWebsocket.Rtp.NackGenerator
import KoreWebsocket.Rtp.StreamRecv
import KoreWebsocket.Rtcp.Nack
import KoreWebsocket.Rtp.SendBuffer
import KoreWebsocket.Rtp.Retransmission
import KoreWebsocket.Rtp.ResendTimes
import KoreWebsocket.Rtp.RtxBuffer
import KoreWebsocket.Rtcp.Bye
import KoreWebsocket.Rtcp.Sdes
import KoreWebsocket.Rtcp.Bitrates
import KoreWebsocket.Rtcp.FeedbackItems
import KoreWebsocket.Rtc.PayloadTypes
import KoreWebsocket.Rtc.WellFormed
import KoreWebsocket.Rtp.RateCalculator
import KoreWebsocket.Rtp.Extensions
import KoreWebsocket.Stun.Bounds
import KoreWebsocket.Rtc.Answers
import KoreWebsocket.Stun.Progress
import KoreWebsocket.Websocket.Frame
import KoreWebsocket.Rtc.AudioLevels
import KoreWebsocket.Rtc.SenderParameters
import KoreWebsocket.Rtc.RtpStreams
import KoreWebsocket.Emitter.Emitter
import KoreWebsocket.Emitter.Listeners
import KoreWebsocket.Emitter.Reentrancy
import KoreWebsocket.Uv.Callback
import KoreWebsocket.Uv.Invariant
import KoreWebsocket.Uv.Delivery
import KoreWebsocket.Lib.Frames
import KoreWebsocket.Messages.Peer
import KoreWebsocket.Messages.Delivery
import KoreWebsocket.Ice.Calls
import KoreWebsocket.Dtls.Transport
import KoreWebsocket.Dtls.Invariant
import KoreWebsocket.Dtls.Media
import KoreWebsocket.Dtls.Faults
import KoreWebsocket.Rtc.Edits
import KoreWebsocket.Rtc.Attached
import KoreWebsocket.Rtc.Feeds
import KoreWebsocket.Rtc.Forwarding
import KoreWebsocket.Rtc.Feedback
import KoreWebsocket.Rtc.InterArrival
import KoreWebsocket.Rtc.FullFrames
