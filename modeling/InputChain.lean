import InputChain.AsyncCursor.Portion
import InputChain.AsyncCursor.Reads
import InputChain.Builder
import InputChain.CommandLine.Flags
import InputChain.CommandLine.Heads
import InputChain.Config.Json.Document
import InputChain.Config.Toml.Document
import InputChain.Config.Toml.Scalar
import InputChain.Config.Toml.Table
import InputChain.Config.Yaml.Block
import InputChain.Config.Yaml.Document
import InputChain.Config.Yaml.Fold
import InputChain.Config.Yaml.Layout
import InputChain.Config.Yaml.Plain
import InputChain.Config.Yaml.Quoted
import InputChain.Cursor.Bytes
import InputChain.Cursor.Description
import InputChain.Cursor.Lines
import InputChain.Cursor.Seamless
import InputChain.Fault.Diagnostic
import InputChain.Fault.Policy
import InputChain.Inlet.Polled
import InputChain.Main
import InputChain.Text.Blank
import InputChain.Proofs.Operations
import InputChain.Proofs.Settled
import InputChain.Proofs.AsyncAgreement
import InputChain.Proofs.HeldFailure
import InputChain.Proofs.NothingLost
import InputChain.Proofs.Ending.ReadOut
import InputChain.Proofs.Accord
import InputChain.Proofs.Skipping
import InputChain.Proofs.StreamEnd
import InputChain.Proofs.Chunking
import InputChain.Proofs.Drawing
import InputChain.Proofs.Decoding
import InputChain.Proofs.LineSplitting
import InputChain.Proofs.OneOpen
import InputChain.Proofs.EmptySources
import InputChain.Proofs.Origin
import InputChain.Proofs.Answers
import InputChain.Proofs.Attribution
import InputChain.Proofs.Deeds
import InputChain.Proofs.SharedInput
import InputChain.Proofs.TextLines
import InputChain.Proofs.CollectedLines
import InputChain.Proofs.Requests
import InputChain.Proofs.CutLines
import InputChain.Proofs.BytesLeft
import InputChain.Proofs.FullReads
import InputChain.Proofs.BufferedView
import InputChain.Proofs.Pieces
import InputChain.Proofs.SeamlessPieces
import InputChain.Proofs.Fronts
import InputChain.Proofs.Printout
import InputChain.Proofs.FirstLines
import InputChain.Proofs.Headers
import InputChain.Proofs.UsableInputs
import InputChain.Proofs.KeptInputs
import InputChain.Proofs.ValueTokens
import InputChain.Proofs.LineCount
import InputChain.Proofs.NamedInputs
import InputChain.Proofs.ListCopies
import InputChain.Proofs.Rounds
import InputChain.Proofs.ReadUnits
