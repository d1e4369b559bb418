import Scout.Bridge.AtRest
import Scout.Bridge.ClientTimeouts
import Scout.Bridge.Deadman
import Scout.Bridge.Echo
import Scout.Bridge.Framing
import Scout.Bridge.Handover
import Scout.Bridge.Json
import Scout.Bridge.JsonText
import Scout.Bridge.MotionState
import Scout.Bridge.Ownership
import Scout.Bridge.PublishLoop
import Scout.Bridge.Published
import Scout.Bridge.ResponseLength
import Scout.Bridge.Serve
import Scout.Bridge.ServeLaws
import Scout.Bridge.Shutdown
import Scout.Bridge.Steps
import Scout.Bridge.Threads
import Scout.Camera.Accounting
import Scout.Camera.Client
import Scout.Camera.Growth
import Scout.Camera.Link
import Scout.Camera.Protocol
import Scout.Camera.Reading
import Scout.Camera.Release
import Scout.Camera.Republish
import Scout.Camera.Serve
import Scout.Camera.Slots
import Scout.Camera.Steps
import Scout.Camera.Threads
import Scout.Camera.Transfer
import Scout.Codec.Battery
import Scout.Codec.BatteryLayout
import Scout.Codec.CursorSafety
import Scout.Codec.Decoder
import Scout.Codec.Fields
import Scout.Codec.Frame
import Scout.Codec.FrameLayout
import Scout.Codec.SensorLayout
import Scout.Codec.Sensors
import Scout.Codec.Truncation
import Scout.Command.Connection
import Scout.Command.Custody
import Scout.Command.Effects
import Scout.Command.Lifetimes
import Scout.Command.Loops
import Scout.Command.MotionCommands
import Scout.Command.Refinement
import Scout.Command.Session
import Scout.Command.Surroundings
import Scout.Machine.Contract
import Scout.Machine.Dialogue
import Scout.Machine.Latest
import Scout.Machine.Run
import Scout.Machine.Schedule
import Scout.Machine.Twins
import Scout.Matlab.Client
import Scout.Matlab.Frames
import Scout.Matlab.Lines
import Scout.Matlab.Replies
import Scout.Matlab.Synchrony
import Scout.Monitor.Loop
import Scout.Monitor.Report
import Scout.Motion.Bounds
import Scout.Motion.Halting
import Scout.Motion.Loop
import Scout.Motion.Mapping
import Scout.Motion.SendVelocity
import Scout.Motion.Velocity
import Scout.Number.Binary64
import Scout.Number.Binary64Order
import Scout.Number.Duration
import Scout.Number.Rounding
import Scout.Number.Scalar
import Scout.Password.Entered
import Scout.Password.Input
import Scout.Password.Line
import Scout.Password.Prompt
import Scout.Python.Client
import Scout.Python.Lifetime
import Scout.Python.Release
import Scout.Python.Synchrony
import Scout.Robot.Detection
import Scout.Robot.Known
import Scout.Robot.Lookup
import Scout.Robot.SystemCommand
import Scout.Robot.Whole
import Scout.Stream.Delivery
import Scout.Stream.Endian
import Scout.Stream.Lines
import Scout.Stream.Markup
import Scout.Stream.Numerals
import Scout.Stream.Request
import Scout.Stream.Shell
import Scout.Stream.StableSort
import Scout.Stream.Text
import Scout.Stream.TextParts
import Scout.Stream.Tokens
import Scout.Teleop.Control
import Scout.Teleop.Periods
import Scout.Teleop.Picture
import Scout.Teleop.PictureSession
import Scout.Teleop.Session
import Scout.Teleop.SpeedScale
import Scout.Teleop.Trace
import Scout.Transport.BoundedMessage
import Scout.Transport.Limits
import Scout.Wifi.Address
import Scout.Wifi.AddressRoundTrip
import Scout.Wifi.AddressText
import Scout.Wifi.Candidates
import Scout.Wifi.Credentials
import Scout.Wifi.Deadline
import Scout.Wifi.Delivery
import Scout.Wifi.Endpoint
import Scout.Wifi.EndpointGrammar
import Scout.Wifi.Exchange
import Scout.Wifi.Firmware
import Scout.Wifi.Handshake
import Scout.Wifi.HandshakeReply
import Scout.Wifi.HeaderFields
import Scout.Wifi.Lookup
import Scout.Wifi.LookupReply
import Scout.Wifi.Network
import Scout.Wifi.Provision
import Scout.Wifi.Replies
import Scout.Wifi.RequestText
import Scout.Wifi.Secrecy
import Scout.Wifi.Setup
import Scout.Wifi.Spelling
import Scout.Wifi.Troubles
import Scout.Machine.Progress
import Scout.Wifi.Answering
import Scout.Matlab.Endings
