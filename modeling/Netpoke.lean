import Netpoke.Library.Text
import Netpoke.Library.AssocMap
import Netpoke.Library.Except
import Netpoke.Library.Checked
import Netpoke.Library.Mailbox
import Netpoke.Auth.Config
import Netpoke.Server.AuthCache
import Netpoke.Server.SurveySession
import Netpoke.Iperf3.Admission
import Netpoke.Iperf3.UdpStreams
import Netpoke.Iperf3.Limits
import Netpoke.Library.FairRwLock
import Netpoke.Library.ParentClosure
import Netpoke.Server.Cleanup
import Netpoke.Server.Http
import Netpoke.Server.Database
import Netpoke.Server.AnalystApi
import Netpoke.Library.LexicalPath
import Netpoke.Library.CivilDate
import Netpoke.Server.Upload
import Netpoke.Library.OverwriteRing
import Netpoke.Server.Diagnostics
import Netpoke.Server.Router
import Netpoke.Server.KeylogStore
import Netpoke.Library.BlockWrite
import Netpoke.Server.UploadIntegrity
import Netpoke.Server.IcmpCorrelation
import Netpoke.Library.OnesComplement
import Netpoke.Server.UdpChecksum
import Netpoke.Server.Signaling
import Netpoke.Library.IndexedQueue
import Netpoke.Server.Measurements
import Netpoke.Server.PacketCapture
import Netpoke.Server.DataChannels
import Netpoke.Auth.Providers
import Netpoke.Server.TrackerRuns
import Netpoke.Server.CaptureSessions
import Netpoke.Server.MtuTraceroute
import Netpoke.Library.FloatArith
import Netpoke.Server.ProbeMetrics
import Netpoke.Server.ProbeStreams
import Netpoke.Server.ProbeStreamStats
import Netpoke.Library.ByteOrder
import Netpoke.Library.ExceptState
import Netpoke.Iperf3.Control
import Netpoke.Server.PcapFormat
import Netpoke.Library.SpawnedQueue
import Netpoke.Server.IceQueue
import Netpoke.Auth.OAuthFlow
import Netpoke.Server.KeylogFile
import Netpoke.Iperf3.Server
import Netpoke.Server.Iperf3Access
