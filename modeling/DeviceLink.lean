import DeviceLink.Device.Record
import DeviceLink.Main
import DeviceLink.Scenario.Devices
import DeviceLink.Scenario.Ports
import DeviceLink.Scenario.Tool
import DeviceLink.Proofs.Queue.Interleaving
import DeviceLink.Proofs.Queue.Serial
import DeviceLink.Proofs.Queue.Callers
import DeviceLink.Proofs.Queue.Sequential
import DeviceLink.Proofs.Queue.Once
import DeviceLink.Proofs.Queue.Shutdown
import DeviceLink.Proofs.Claims.Registry
import DeviceLink.Proofs.Claims.Acquire
import DeviceLink.Proofs.Claims.Sharing
import DeviceLink.Proofs.Queue.Claim
import DeviceLink.Proofs.Queue.Ending
import DeviceLink.Proofs.Queue.ClaimReturn
import DeviceLink.Proofs.Line.Operations
import DeviceLink.Proofs.Line.Polling
import DeviceLink.Proofs.Line.Delivery
import DeviceLink.Proofs.Line.Echo
import DeviceLink.Proofs.Line.Failures
import DeviceLink.Proofs.Line.Pattern
import DeviceLink.Proofs.Line.EchoOrigin
import DeviceLink.Proofs.Line.Delays
import DeviceLink.Proofs.Line.Resynchronisation
import DeviceLink.Proofs.Line.FalseStarts
import DeviceLink.Proofs.Reply.LengthField
import DeviceLink.Proofs.Reply.Framed
import DeviceLink.Proofs.Report.Framing
import DeviceLink.Proofs.Report.Requests
import DeviceLink.Proofs.Report.Attribution
import DeviceLink.Proofs.Report.Outcome
import DeviceLink.Proofs.Reply.FailStop
import DeviceLink.Proofs.Reply.Handshake
import DeviceLink.Proofs.Reply.Delays
import DeviceLink.Proofs.Reply.Announcements
import DeviceLink.Proofs.Reply.Overlap
import DeviceLink.Proofs.Queue.IdleSession
import DeviceLink.Proofs.Queue.HandshakeConnection
import DeviceLink.Proofs.Queue.Draining
import DeviceLink.Proofs.Queue.Survival
import DeviceLink.Proofs.Watch.Thread
import DeviceLink.Proofs.Watch.Session
import DeviceLink.Proofs.Text.HexInput
import DeviceLink.Proofs.Text.ByteGrammar
import DeviceLink.Proofs.Text.WordGrammar
import DeviceLink.Proofs.Tool.Output
import DeviceLink.Proofs.Tool.PortSelection
import DeviceLink.Proofs.Tool.PortUse
import DeviceLink.Proofs.Tool.Sending
import DeviceLink.Proofs.Files.Tree
import DeviceLink.Proofs.Toml.Scanning
import DeviceLink.Proofs.Toml.Numbers
import DeviceLink.Proofs.Config.PortsFile
import DeviceLink.Proofs.Config.Remember
import DeviceLink.Proofs.Config.Layering
import DeviceLink.Proofs.Tool.TimeLimits
