import StoryServer.Bridge.Engine
import StoryServer.Bridge.Responder
import StoryServer.Ink.Shelf
import StoryServer.Main
import StoryServer.Playbook
import StoryServer.Web.Service
import StoryServer.Proofs.Frame
import StoryServer.Proofs.Ink.Frame
import StoryServer.Proofs.Tool.Frame
import StoryServer.Proofs.Session.Ledger
import StoryServer.Proofs.Session.Registry
import StoryServer.Proofs.Session.Ownership
import StoryServer.Proofs.Debug.Step
import StoryServer.Proofs.Debug.Event
import StoryServer.Proofs.Debug.History
import StoryServer.Proofs.Debug.Account
import StoryServer.Proofs.Ink.Raising
import StoryServer.Proofs.Ink.Telling
import StoryServer.Proofs.Debug.Simulation
import StoryServer.Proofs.Debug.Drive
import StoryServer.Proofs.Debug.Continuation
import StoryServer.Proofs.Agreement
import StoryServer.Proofs.Session.Likeness
import StoryServer.Proofs.Tool.Start
import StoryServer.Proofs.Tool.Likeness
import StoryServer.Proofs.Tool.Share
import StoryServer.Proofs.Tool.Naming
import StoryServer.Proofs.Session.Separation
import StoryServer.Proofs.Tool.Blindness
import StoryServer.Proofs.Session.Unseen
import StoryServer.Proofs.Tool.Outset
import StoryServer.Proofs.Debug.Origin
import StoryServer.Proofs.Debug.Lineage
import StoryServer.Proofs.Debug.Remains
import StoryServer.Proofs.Number.Nearest
import StoryServer.Proofs.Number.Shortest
import StoryServer.Proofs.Number.Numeral
import StoryServer.Proofs.Json.Token
import StoryServer.Proofs.Json.RoundTrip
import StoryServer.Proofs.Ink.Saved
import StoryServer.Proofs.Session.Restore
import StoryServer.Proofs.Session.Compiled
import StoryServer.Proofs.Json.Line
import StoryServer.Proofs.Json.Refusal
import StoryServer.Proofs.Rpc.Response
import StoryServer.Proofs.Rpc.Payload
import StoryServer.Proofs.Bridge.World
import StoryServer.Proofs.Bridge.Wire
import StoryServer.Proofs.Bridge.Queue
import StoryServer.Proofs.Bridge.Pairing
import StoryServer.Proofs.Rpc.Frame
import StoryServer.Proofs.Bridge.Running
import StoryServer.Proofs.Bridge.Serving
import StoryServer.Proofs.Session.Custody
import StoryServer.Proofs.Tool.Custody
import StoryServer.Proofs.Command.Shutdown
import StoryServer.Proofs.Web.Traffic
import StoryServer.Proofs.Web.Delivery
import StoryServer.Proofs.Rpc.Lines
import StoryServer.Proofs.Web.Framing
import StoryServer.Proofs.Json.Standard
import StoryServer.Proofs.Web.Standard
import StoryServer.Proofs.Debug.Report
import StoryServer.Proofs.Tool.Refusal
import StoryServer.Proofs.Tool.Schema
import StoryServer.Proofs.Chat.Completion
import StoryServer.Proofs.Debug.Sameness
import StoryServer.Proofs.Chat.Fenced
import StoryServer.Proofs.Session.Restoring
import StoryServer.Proofs.Bridge.Reply
import StoryServer.Proofs.Ink.Path
import StoryServer.Proofs.Ink.Walk
import StoryServer.Proofs.Ink.Rounds
import StoryServer.Proofs.Ink.Settled
import StoryServer.Proofs.Ink.Operation
import StoryServer.Proofs.Ink.Ahead
import StoryServer.Proofs.Ink.Within
import StoryServer.Proofs.Session.Shelves
import StoryServer.Proofs.Session.Stops
import StoryServer.Proofs.Web.Shortcut
import StoryServer.Proofs.Bridge.LineByLine
import StoryServer.Proofs.Bridge.Foretelling
import StoryServer.Proofs.Chat.Extracted
import StoryServer.Proofs.Pattern.Literal
import StoryServer.Proofs.Command.Occurrence
import StoryServer.Proofs.Command.Transport
