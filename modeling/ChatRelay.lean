import ChatRelay.Client.Chat
import ChatRelay.FileTree
import ChatRelay.Frame.Stream
import ChatRelay.Mailbox.WaitingRoom
import ChatRelay.Main
import ChatRelay.Relay.Room
import ChatRelay.Server.Visit
import ChatRelay.Proofs.Queue.Changes
import ChatRelay.Proofs.Session.Endpoint
import ChatRelay.Proofs.Session.Quiet
import ChatRelay.Proofs.Session.Wire
import ChatRelay.Proofs.Session.Handling
import ChatRelay.Proofs.Frame.Drain
import ChatRelay.Proofs.Frame.Lines
import ChatRelay.Proofs.Frame.Prefixed
import ChatRelay.Proofs.EventLoop.Quiet
import ChatRelay.Proofs.Session.Script
import ChatRelay.Proofs.EventLoop.FanOut
import ChatRelay.Proofs.EventLoop.Actions
import ChatRelay.Proofs.EventLoop.Strokes
import ChatRelay.Proofs.EventLoop.Members
import ChatRelay.Proofs.EventLoop.Interest
import ChatRelay.Proofs.Relay.Counterpart
import ChatRelay.Proofs.Relay.Isolation
import ChatRelay.Proofs.Queue.Regular
import ChatRelay.Proofs.Mailbox.Crowd
import ChatRelay.Proofs.Mailbox.Schedule
import ChatRelay.Proofs.Mailbox.Ledger
import ChatRelay.Proofs.Mailbox.Wakeup
import ChatRelay.Proofs.Mailbox.Order
import ChatRelay.Proofs.Server.GivenUp
import ChatRelay.Proofs.Frame.Reading
import ChatRelay.Proofs.Server.Listening
import ChatRelay.Proofs.Client.Moves
import ChatRelay.Proofs.Client.Runs
import ChatRelay.Proofs.Client.Outward
import ChatRelay.Proofs.Client.Sending
import ChatRelay.Proofs.Client.Inward
import ChatRelay.Proofs.Client.Showing
import ChatRelay.Proofs.EventLoop.Inbound
import ChatRelay.Proofs.EventLoop.Stopping
import ChatRelay.Proofs.Frame.Carried
import ChatRelay.Proofs.Server.Largest
import ChatRelay.Proofs.Queue.Log
import ChatRelay.Proofs.Queue.Pause
import ChatRelay.Proofs.Relay.Offers
import ChatRelay.Proofs.Session.Reception
import ChatRelay.Proofs.Session.Draining
import ChatRelay.Proofs.Frame.RoundTrip
import ChatRelay.Proofs.Frame.Relaying
import ChatRelay.Proofs.Server.Relayed
import ChatRelay.Proofs.Frame.Ending
import ChatRelay.Proofs.Session.Backlog
import ChatRelay.Proofs.Config.Partial
import ChatRelay.Proofs.Config.ReadBack
import ChatRelay.Proofs.EventLoop.Tokens
