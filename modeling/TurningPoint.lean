import TurningPoint.Messages.Defs
import TurningPoint.Messages.Grammar
import TurningPoint.Lib.Coding
import TurningPoint.Ringbuffer.Defs
import TurningPoint.Ringbuffer.Laws
import TurningPoint.Sfp.Context
import TurningPoint.Sfp.Transmit
import TurningPoint.Sfp.Receive
import TurningPoint.Sfp.Crc
import TurningPoint.Sfp.TransmitLaws
import TurningPoint.Sfp.History
import TurningPoint.Sfp.FrameCalls
import TurningPoint.Sfp.FrameLaws
import TurningPoint.Sfp.Peer
import TurningPoint.Sfp.PeerLaws
import TurningPoint.Sfp.Line
import TurningPoint.Sfp.PerfectLine
import TurningPoint.Lib.Run
import TurningPoint.Lib.Window
import TurningPoint.Sfp.GoBackN
import TurningPoint.Sfp.LossyLine
import TurningPoint.Rpc.Host
import TurningPoint.Rpc.Publish
import TurningPoint.Rpc.Receive
import TurningPoint.Messages.Serialize
import TurningPoint.Rpc.Preserve
import TurningPoint.Rpc.Session
import TurningPoint.Rpc.Subscriptions
import TurningPoint.Lcd.Defs
import TurningPoint.Lcd.Storage
import TurningPoint.Rpc.Cassette
import TurningPoint.Rpc.Motors
import TurningPoint.Rpc.MotorChanges
import TurningPoint.Sfp.Preserve
import TurningPoint.Server.Defs
import TurningPoint.Server.Preserve
import TurningPoint.Rpc.NullAccess
import TurningPoint.Server.Runs
import TurningPoint.Server.Writes
import TurningPoint.Server.NullAccess
import TurningPoint.Server.Steady
import TurningPoint.Server.Chunks
import TurningPoint.Server.Freshness
import TurningPoint.Server.InSession
import TurningPoint.Server.Restart
import TurningPoint.Messages.Canonical
import TurningPoint.Sfp.Acceptance
import TurningPoint.Sfp.FrameSpec
import TurningPoint.Rpc.Reading
import TurningPoint.Rpc.Transport
import TurningPoint.Sfp.Burst
import TurningPoint.Sfp.Wire
import TurningPoint.Sfp.Resend
import TurningPoint.Server.Serial
import TurningPoint.Sfp.Handshake
import TurningPoint.Server.Survival
import TurningPoint.Server.Heartbeat
import TurningPoint.Rpc.Listing
import TurningPoint.Rpc.MotorWrites
import TurningPoint.Rpc.Unsubscribe
import TurningPoint.Rpc.Round
import TurningPoint.Rpc.Values
import TurningPoint.Ringbuffer.Deque
import TurningPoint.Autonomous.Timer
import TurningPoint.Autonomous.Defs
import TurningPoint.Autonomous.Stop
import TurningPoint.Server.Start
import TurningPoint.Lib.Traced
import TurningPoint.Sfp.Accesses
import TurningPoint.Sfp.Bounds
import TurningPoint.Flash.Defs
import TurningPoint.Flash.Store
import TurningPoint.Flash.PowerLoss
import TurningPoint.Sfp.Window
import TurningPoint.Sfp.Recovery
import TurningPoint.Sfp.Quiescence
import TurningPoint.Motor.Defs
import TurningPoint.Motor.Bridge
import TurningPoint.Motor.Slew
import TurningPoint.Motor.Reach
import TurningPoint.Spi.Defs
import TurningPoint.Spi.Link
import TurningPoint.Lib.Queue
import TurningPoint.Serial.Defs
import TurningPoint.Serial.Queue
import TurningPoint.Serial.Driver
import TurningPoint.Serial.Prompt
import TurningPoint.Autonomous.Threads
import TurningPoint.Autonomous.Exclusion
import TurningPoint.Autonomous.Straight
import TurningPoint.Autonomous.Modes
import TurningPoint.Lib.Chain
import TurningPoint.Tasks.Defs
import TurningPoint.Tasks.Listeners
import TurningPoint.Tasks.Proper
import TurningPoint.Kernel.Defs
import TurningPoint.Kernel.Sched
import TurningPoint.Kernel.Sleep
