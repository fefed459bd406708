import CompletionStream.Document.JsonReader
import CompletionStream.Document.JsonText
import CompletionStream.Schema.Reader
import CompletionStream.Chat.Options
import CompletionStream.Chat.Response
import CompletionStream.Wire.Encode
import CompletionStream.Wire.Decode
import CompletionStream.Wire.Failure
import CompletionStream.Chat.Gate
import CompletionStream.Log.Record
import CompletionStream.Stream.Accumulator
import CompletionStream.Stream.Listener
import CompletionStream.Stream.Session
import CompletionStream.Stream.Client
import CompletionStream.Log.Line
import CompletionStream.Stream.Remote
import CompletionStream.Stream.EventLoop
import CompletionStream.Settings.Load
import CompletionStream.Console.Run
import CompletionStream.Main
import CompletionStream.Proofs.Accumulator.CallTable
import CompletionStream.Proofs.Accumulator.Cost
import CompletionStream.Proofs.Accumulator.Finalize
import CompletionStream.Proofs.Session.Ending
import CompletionStream.Proofs.Session.Intake
import CompletionStream.Proofs.Session.AnyOrder
import CompletionStream.Proofs.Session.Pulled
import CompletionStream.Proofs.Session.Quiet
import CompletionStream.Proofs.Gateway.Modes
import CompletionStream.Proofs.Chat.Gate
import CompletionStream.Proofs.Client.Preparing
import CompletionStream.Proofs.Client.Admitted
import CompletionStream.Proofs.Session.Escapes
import CompletionStream.Proofs.Client.AllOrNothing
import CompletionStream.Proofs.Wire.Documented
import CompletionStream.Proofs.Wire.Fragments
import CompletionStream.Proofs.Client.Defaults
import CompletionStream.Proofs.Gateway.Sending
import CompletionStream.Stream.Switchboard
import CompletionStream.Proofs.Counting.Recall
import CompletionStream.Proofs.Session.Script
import CompletionStream.Proofs.Session.Scripted
import CompletionStream.Proofs.Session.Bag
import CompletionStream.Proofs.Session.Twins
import CompletionStream.Proofs.Client.Script
import CompletionStream.Proofs.Client.Audience
import CompletionStream.Proofs.Client.Protocol
import CompletionStream.Proofs.Client.Apart
import CompletionStream.Proofs.Gateway.Resending
import CompletionStream.Proofs.Gateway.Failures
import CompletionStream.Proofs.Push.Contract
import CompletionStream.Proofs.Document.Mappings
import CompletionStream.Proofs.Settings.Given
import CompletionStream.Proofs.Settings.Independence
import CompletionStream.Proofs.Settings.Keys
import CompletionStream.Proofs.Log.Secrets
import CompletionStream.Proofs.Client.Closing
import CompletionStream.Proofs.Gateway.Calm
import CompletionStream.Proofs.Console.Status
import CompletionStream.Proofs.Accumulator.Identity
import CompletionStream.Proofs.Accumulator.Preference
import CompletionStream.Proofs.Document.Updates
import CompletionStream.Proofs.Log.Entries
import CompletionStream.Proofs.Wire.Turn
import CompletionStream.Proofs.Wire.Messages
import CompletionStream.Proofs.Settings.Paths
import CompletionStream.Proofs.Accumulator.Totals
import CompletionStream.Proofs.Chat.Rebuilding
import CompletionStream.Proofs.Counting.Lookups
import CompletionStream.Proofs.Counting.Unsent
import CompletionStream.Proofs.Log.SettingUp
