import RadioFrontEnd.LogFilter
import RadioFrontEnd.Main
import RadioFrontEnd.Proofs.Fifo.Monitor
import RadioFrontEnd.Proofs.FrameHeader
import RadioFrontEnd.Proofs.Simulator
import RadioFrontEnd.Proofs.Fifo.Reset
import RadioFrontEnd.Proofs.Fifo.Independence
import RadioFrontEnd.Proofs.Memory
import RadioFrontEnd.Proofs.Transport
import RadioFrontEnd.Proofs.Mirror
import RadioFrontEnd.Proofs.StandIn
import RadioFrontEnd.Proofs.Fifo.Latch
import RadioFrontEnd.Proofs.Access
import RadioFrontEnd.Proofs.Window
import RadioFrontEnd.Proofs.SingleNode
import RadioFrontEnd.Proofs.Yaml.Scalar
import RadioFrontEnd.Proofs.Yaml.Tokens
import RadioFrontEnd.Proofs.Yaml.Record
import RadioFrontEnd.Proofs.Yaml.Nodes
import RadioFrontEnd.Proofs.Yaml.Decoder
import RadioFrontEnd.Proofs.Config.RoundTrip
import RadioFrontEnd.Proofs.Session
import RadioFrontEnd.Proofs.Config.Completion
import RadioFrontEnd.Proofs.Operation
import RadioFrontEnd.Proofs.Failure
import RadioFrontEnd.Proofs.Closing
import RadioFrontEnd.Proofs.Routing
import RadioFrontEnd.Proofs.FrameHeader.Image
import RadioFrontEnd.Proofs.FrameHeader.Total
import RadioFrontEnd.Proofs.Config.Search
import RadioFrontEnd.Proofs.Fifo.FileReset
import RadioFrontEnd.Proofs.Config.Validation
import RadioFrontEnd.Proofs.Session.FromFile
import RadioFrontEnd.Proofs.Session.Monitor
import RadioFrontEnd.Proofs.Config.Numbers
import RadioFrontEnd.Proofs.Config.Overlay
import RadioFrontEnd.Proofs.Yaml.KeyLimit
import RadioFrontEnd.Proofs.Firmware
import RadioFrontEnd.Proofs.Transport.Answers
import RadioFrontEnd.Proofs.Session.Acceptance
import RadioFrontEnd.Proofs.ShortTransfer
import RadioFrontEnd.Proofs.Fifo.Depths
import RadioFrontEnd.Proofs.Fifo.Configuration
import RadioFrontEnd.Proofs.Host
import RadioFrontEnd.Proofs.Probe.Word
import RadioFrontEnd.Proofs.Probe.Dump
import RadioFrontEnd.Proofs.Fifo.Status
import RadioFrontEnd.Proofs.Simulator.History
import RadioFrontEnd.Proofs.Lifting
import RadioFrontEnd.Proofs.Opening
import RadioFrontEnd.Proofs.Host.Fallback
