import Courier.Command.Encode
import Courier.Main
import Courier.Proofs.Processing.Course
import Courier.Proofs.Processing.Interleaving
import Courier.Proofs.Processing.Interruption
import Courier.Proofs.Processing.Rhythm
import Courier.Proofs.Journal.Ledger
import Courier.Proofs.Journal.Docket
import Courier.Proofs.Service.Moves
import Courier.Proofs.Service.Interleaving
import Courier.Proofs.Json.Text
import Courier.Proofs.Json.Number
import Courier.Proofs.Json.Value
import Courier.Proofs.Command.Document
import Courier.Proofs.Command.Decoding
import Courier.Proofs.Command.RoundTrip
import Courier.Proofs.Service.Stream
import Courier.Proofs.Service.StreamErrors
import Courier.Proofs.Service.Endings
import Courier.Proofs.Service.Poison
import Courier.Proofs.Service.Refusals
import Courier.Proofs.Service.Watch
import Courier.Proofs.Service.Prompt
import Courier.Proofs.Service.Timely
import Courier.Proofs.Service.Foresight
import Courier.Proofs.Service.Late
import Courier.Proofs.Service.Drain
import Courier.Proofs.Processing.Spans
import Courier.Proofs.Trace.Propagation
import Courier.Proofs.Amqp.Table
import Courier.Proofs.Amqp.Answers
import Courier.Proofs.Command.Truncation
import Courier.Proofs.Processing.Naming
import Courier.Proofs.Config.Masking
import Courier.Proofs.Retry.Coupling
import Courier.Proofs.Command.Lists
import Courier.Proofs.Config.Loading
import Courier.Proofs.Service.Answer
import Courier.Proofs.Service.Batch
import Courier.Proofs.Service.Script
import Courier.Proofs.Config.Merge
import Courier.Proofs.Headers.Insertion
