import ReplSend.Action
import ReplSend.Block
import ReplSend.Buffer
import ReplSend.Capture
import ReplSend.CommandLine.Arguments
import ReplSend.CommandLine.Command
import ReplSend.CommandLine.Report
import ReplSend.Console.Markup
import ReplSend.Console.Page
import ReplSend.Echo
import ReplSend.Event
import ReplSend.Failure
import ReplSend.Fragment
import ReplSend.Host
import ReplSend.Line
import ReplSend.Loader
import ReplSend.Locate.Cell
import ReplSend.Locate.Definition
import ReplSend.Locate.Fault
import ReplSend.Locate.Group
import ReplSend.Locate.Statement
import ReplSend.Logging
import ReplSend.Main
import ReplSend.Manager
import ReplSend.Message
import ReplSend.Path
import ReplSend.Pattern.Basic
import ReplSend.Pattern.Class
import ReplSend.Pattern.Parse
import ReplSend.Pattern.Width
import ReplSend.Prompt
import ReplSend.Reader
import ReplSend.Request
import ReplSend.Sending
import ReplSend.Session.Basic
import ReplSend.Settings.Basic
import ReplSend.Settings.Coerce
import ReplSend.Settings.Dotenv
import ReplSend.Settings.Load
import ReplSend.Settings.Value
import ReplSend.Severity
import ReplSend.Source
import ReplSend.Table
import ReplSend.Text.Basic
import ReplSend.Text.Blank
import ReplSend.Text.Case
import ReplSend.Text.Cells
import ReplSend.Text.Codec
import ReplSend.Text.Decimal
import ReplSend.Text.Digit
import ReplSend.Text.Encoding
import ReplSend.Text.Identifier
import ReplSend.Text.Numeral
import ReplSend.Text.Printable
import ReplSend.Text.Quoted
import ReplSend.Text.Ranges
import ReplSend.Text.Word
import ReplSend.Transcript
import ReplSend.World
import ReplSend.Proofs.Source
import ReplSend.Proofs.Locate.Statement
import ReplSend.Proofs.Locate.Nesting
import ReplSend.Proofs.Locate.Stepping
import ReplSend.Proofs.Act
import ReplSend.Proofs.Request
import ReplSend.Proofs.Echoing
import ReplSend.Proofs.Text.Encoding
import ReplSend.Proofs.Text.Cookie
import ReplSend.Proofs.Arriving
import ReplSend.Proofs.Quiet
import ReplSend.Proofs.Sending
import ReplSend.Proofs.Course
import ReplSend.Proofs.Lasting
import ReplSend.Proofs.Capturing
import ReplSend.Proofs.Owning
import ReplSend.Proofs.Prompt
import ReplSend.Proofs.Readiness
import ReplSend.Proofs.Waiting
import ReplSend.Proofs.Busy
import ReplSend.Proofs.Locate.Stacking
import ReplSend.Proofs.Locate.Unit
import ReplSend.Proofs.Shifting
import ReplSend.Proofs.Dedenting
import ReplSend.Proofs.Transmitting
import ReplSend.Proofs.Pattern.Extension
import ReplSend.Proofs.Pattern.Turn
import ReplSend.Proofs.Loading
import ReplSend.Proofs.Loader
import ReplSend.Proofs.Detecting
import ReplSend.Proofs.Failing
import ReplSend.Proofs.Privacy
import ReplSend.Proofs.Text.Decoding
import ReplSend.Proofs.Reading
import ReplSend.Proofs.Watching
import ReplSend.Proofs.Locate.Enclosing
import ReplSend.Proofs.Locate.Decorator
import ReplSend.Proofs.Locate.Fault
import ReplSend.Proofs.Locate.Group
import ReplSend.Proofs.Locating
import ReplSend.Proofs.Feeding
import ReplSend.Proofs.Lexing
import ReplSend.Proofs.Locate.Cell
import ReplSend.Proofs.Literals
import ReplSend.Proofs.Withdrawing
import ReplSend.Proofs.Accepting
import ReplSend.Proofs.Targets
import ReplSend.Proofs.Advancing
import ReplSend.Proofs.Quoting
import ReplSend.Proofs.Polling
import ReplSend.Proofs.Locate.Region
import ReplSend.Proofs.Restarting
import ReplSend.Proofs.Truncating
