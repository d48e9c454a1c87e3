import LiveForge.Cluster.Forward
import LiveForge.Cluster.RtmpClient
import LiveForge.Cluster.RtpRelay
import LiveForge.Cluster.RtspPush
import LiveForge.Dvr.Current
import LiveForge.Events.Ordering
import LiveForge.Events.Reservation
import LiveForge.Flv.RoundTrip
import LiveForge.Gb28181.Reorder
import LiveForge.HttpStream.Boundary
import LiveForge.HttpStream.DashTimeline
import LiveForge.HttpStream.Discontinuity
import LiveForge.HttpStream.PartTarget
import LiveForge.HttpStream.Requests
import LiveForge.HttpStream.Retirement
import LiveForge.Hub.Destroy
import LiveForge.Ps.Ingest
import LiveForge.Record.Sync
import LiveForge.Ring.Returning
import LiveForge.Rtp.AacUnits
import LiveForge.Rtp.FrameStart
import LiveForge.Rtp.H265Hop
import LiveForge.Rtp.Integrity
import LiveForge.Rtp.Reassembly
import LiveForge.Rtp.Vp9Hop
import LiveForge.Rtsp.Subscriber
import LiveForge.Stream.GopTables
import LiveForge.Stream.MuxerManager
import LiveForge.Stream.SlowConsumer
import LiveForge.Stream.Vacancy
import LiveForge.Transcode.Boundary
import LiveForge.Transcode.Joining
import LiveForge.Transcode.SourceWait
import LiveForge.Ts.Cuts
import LiveForge.Ts.Total
import LiveForge.WebRTC.Clock
import LiveForge.WebRTC.WhepFeed
import LiveForge.Record.Buffers
import LiveForge.Dvr.Segments
