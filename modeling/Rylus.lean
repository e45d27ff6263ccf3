import Rylus.LabelledExecution
import Rylus.SlidingWindow
import Rylus.RateLimiter
import Rylus.LockoutDuration
import Rylus.SessionStore
import Rylus.ServeContext
import Rylus.ServeRequests
import Rylus.ServeStaleLogin
import Rylus.ServeLockout
import Rylus.Protocol
import Rylus.SocketTasks
import Rylus.ServeSockets
import Rylus.DropOldest
import Rylus.VideoQueue
import Rylus.QueueHistory
import Rylus.WriterWakeups
import Rylus.StreamOrder
import Rylus.SenderCalls
import Rylus.VideoDelivery
import Rylus.QualityController
import Rylus.VideoThreads
import Rylus.QpAgreement
import Rylus.KeyframeRequests
import Rylus.FragmentedMp4
import Rylus.WebCodecsPipe
import Rylus.MessageHandler
import Rylus.PipeBringUp
import Rylus.DecoderCodec
import Rylus.CapturableSelect
import Rylus.ClientHandler
import Rylus.FrameSizes
import Rylus.CapturableChoice
import Rylus.EventDevice
import Rylus.UInputDevice
import Rylus.TouchSlots
import Rylus.TouchHistory
import Rylus.PenState
import Rylus.Json
import Rylus.WireFormat
import Rylus.BrowserEvents
import Rylus.WireNumerals
import Rylus.EncoderAgreement
import Rylus.InputTextSize
import Rylus.EnigoDevice
import Rylus.MouseButtons
import Rylus.ReleaseFailures
import Rylus.KeyRelease
import Rylus.PipeWireRecorder
import Rylus.PipeWireFrames
import Rylus.ClientSession
import Rylus.SessionLoad
import Rylus.SessionSteps
import Rylus.SessionProgress
import Rylus.SessionShutdown
import Rylus.EncoderFlags
import Rylus.SettingsUpdates
import Rylus.AccessCodeInForce
import Rylus.SplitText
import Rylus.SocketGate
import Rylus.X11Geometry
import Rylus.HeartbeatRtt
import Rylus.Painter
import Rylus.PredictedInk
import Rylus.TlsSetup
import Rylus.TlsRecovery
import Rylus.WindowsInput
import Rylus.WindowsContacts
import Rylus.ArrayWrites
import Rylus.CursorOverlay
import Rylus.CursorPlacement
import Rylus.AttemptBound
import Rylus.LockoutCountdown
import Rylus.RecorderFailures
import Rylus.ExactDouble
import Rylus.FramePacing
import Rylus.OutputSize
import Rylus.QualityBounds
import Rylus.StridedRows
import Rylus.FrameReads
import Rylus.PipeWireRows
import Rylus.ResourceLedger
import Rylus.SharedMemory
import Rylus.SharedFrames
import Rylus.AxisRanges
import Rylus.UnicodeInput
import Rylus.CursorChannels
import Rylus.KeyFrames
import Rylus.ByteSlices
import Rylus.BoxTrees
import Rylus.BufferWalks
import Rylus.BoxWalks
import Rylus.BufferRecycling
import Rylus.FrameOrder
import Rylus.PortalSessions
import Rylus.PortalNegotiation
import Rylus.Reconnecting
import Rylus.ReconnectAttempts
import Rylus.SocketGreeting
import Rylus.MediaSourceFeed
import Rylus.ServerLifecycle
import Rylus.ServerReturns
