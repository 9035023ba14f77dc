import StructScan.Main
import StructScan.Proofs.Text.Classes
import StructScan.Proofs.Token.Listing
import StructScan.Proofs.TokenStream.Remaining
import StructScan.Proofs.Grammar.Language
import StructScan.Proofs.Grammar.Listed
import StructScan.Proofs.Grammar.Following
import StructScan.Proofs.Grammar.Shift
import StructScan.Proofs.Scan.Accounting
import StructScan.Proofs.Scan.CleanReport
import StructScan.Proofs.Scan.Resynchronisation
import StructScan.Proofs.Token.Faces
import StructScan.Proofs.Grammar.Faces
import StructScan.Proofs.Scan.Extension
import StructScan.Proofs.Scan.Respacing
import StructScan.Proofs.Scan.RoundTrip
import StructScan.Proofs.Grammar.Framing
import StructScan.Proofs.Grammar.Calls
import StructScan.Proofs.Encoding.RoundTrip
import StructScan.Proofs.File.Written
import StructScan.Proofs.Grammar.Lookahead
import StructScan.Proofs.Scan.Steps
import StructScan.Proofs.Scan.LifeCycle
import StructScan.Proofs.Scan.Laziness
import StructScan.Proofs.Scan.Validity
import StructScan.Proofs.Scan.WarningLines
import StructScan.Proofs.DumpCode.PrintCalls
import StructScan.Proofs.Grammar.Quieting
import StructScan.Proofs.Scan.Observation
import StructScan.Proofs.Json.Reading
import StructScan.Proofs.Console.Escaping
import StructScan.Proofs.Command.Delivery
import StructScan.Proofs.Command.Endings
import StructScan.Proofs.Command.Frame
import StructScan.Proofs.Command.Strictness
import StructScan.Proofs.Command.Encodings
import StructScan.Proofs.File.Names
import StructScan.Proofs.Command.Answers
import StructScan.Proofs.Grammar.Acceptance
import StructScan.Proofs.DumpCode.Determination
import StructScan.Proofs.File.Atomicity
import StructScan.Proofs.Grammar.Failure
import StructScan.Proofs.Settings.Overlay
import StructScan.Proofs.Command.Configuration
import StructScan.Proofs.Console.Verbatim
import StructScan.Proofs.Report.Display
import StructScan.Proofs.Settings.Nearest
import StructScan.Proofs.Scan.PushBack
import StructScan.Proofs.Scan.Progress
