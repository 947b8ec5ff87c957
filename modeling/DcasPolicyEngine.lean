import DcasPolicyEngine.Machine.Run
import DcasPolicyEngine.Machine.Simulation
import DcasPolicyEngine.Machine.Stuttering
import DcasPolicyEngine.Machine.TwoRuns
import DcasPolicyEngine.Machine.RisingEdges
import DcasPolicyEngine.Machine.Clocks
import DcasPolicyEngine.Numeric.WithNaN
import DcasPolicyEngine.Numeric.Rounding
import DcasPolicyEngine.Numeric.BinaryFormat
import DcasPolicyEngine.Numeric.WrapCounter
import DcasPolicyEngine.Numeric.Spacing
import DcasPolicyEngine.Register.LastWriter
import DcasPolicyEngine.Register.InOrder
import DcasPolicyEngine.Json.Text
import DcasPolicyEngine.Json.RoundTrip
import DcasPolicyEngine.Escalation.Monitor
import DcasPolicyEngine.Escalation.Sampling
import DcasPolicyEngine.Types
import DcasPolicyEngine.StepB.Engine
import DcasPolicyEngine.StepB.Exits
import DcasPolicyEngine.StepB.Timers
import DcasPolicyEngine.StepB.Bands
import DcasPolicyEngine.StepB.Invariants
import DcasPolicyEngine.StepB.Recovery
import DcasPolicyEngine.StepB.Monitor
import DcasPolicyEngine.StepB.Register
import DcasPolicyEngine.StepB.Sampling
import DcasPolicyEngine.StepC.Engine
import DcasPolicyEngine.StepC.Policy
import DcasPolicyEngine.StepC.Monotone
import DcasPolicyEngine.Runtime.PolicyRuntime
import DcasPolicyEngine.Runtime.Invariants
import DcasPolicyEngine.Runtime.Latch
import DcasPolicyEngine.Runtime.LatchedReason
import DcasPolicyEngine.Runtime.CriticalReason
import DcasPolicyEngine.Runtime.FixedBand
import DcasPolicyEngine.Runtime.ReasonInterference
import DcasPolicyEngine.Runtime.Lockout
import DcasPolicyEngine.Runtime.Activations
import DcasPolicyEngine.Runtime.LkasFeedback
import DcasPolicyEngine.Runtime.Provenance
import DcasPolicyEngine.Runtime.CameraBlocked
import DcasPolicyEngine.Runtime.InattentiveRun
import DcasPolicyEngine.Runtime.InattentionClock
import DcasPolicyEngine.Runtime.Deadlines
import DcasPolicyEngine.Runtime.SpeedMonotone
import DcasPolicyEngine.Runtime.AttentionMonotone
import DcasPolicyEngine.Runtime.Recovery
import DcasPolicyEngine.Runner.Loop
import DcasPolicyEngine.Runner.Lines
import DcasPolicyEngine.CommandLine.Scan
import DcasPolicyEngine.Bridge.CommandLine
import DcasPolicyEngine.Runner.CommandLine
import DcasPolicyEngine.Bridge.Loop
import DcasPolicyEngine.Bridge.Outputs
import DcasPolicyEngine.Bridge.Modes
import DcasPolicyEngine.Bridge.Iterations
import DcasPolicyEngine.Bridge.StatusText
import DcasPolicyEngine.Bridge.HeldPerception
import DcasPolicyEngine.Bridge.SilentFeeder
import DcasPolicyEngine.Bridge.ActuatorIsolation
import DcasPolicyEngine.Bridge.CameraClock
import DcasPolicyEngine.Bridge.TickClock
import DcasPolicyEngine.Bridge.Limiter
import DcasPolicyEngine.Bridge.UnnamedReason
import DcasPolicyEngine.Bridge.ValidCommand
import DcasPolicyEngine.Feeder.PerceptionFeeder
import DcasPolicyEngine.Feeder.SequenceNumbers
import DcasPolicyEngine.Feeder.Channel
import DcasPolicyEngine.Feeder.MessageOrder
import DcasPolicyEngine.Feeder.MissedUpdates
import DcasPolicyEngine.Viewer.Broadcast
import DcasPolicyEngine.Viewer.Limits
import DcasPolicyEngine.Viewer.Page
import DcasPolicyEngine.Viewer.WebSocket
import DcasPolicyEngine.Viewer.FrameSends
import DcasPolicyEngine.Viewer.FrameOrder
import DcasPolicyEngine.Viewer.PageFeeds
import DcasPolicyEngine.Viewer.Pictures
import DcasPolicyEngine.Viewer.PageLabels
import DcasPolicyEngine.Viewer.Display
