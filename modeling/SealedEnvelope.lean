import SealedEnvelope.Codec
import SealedEnvelope.CommandLine.Run
import SealedEnvelope.Main
import SealedEnvelope.Message
import SealedEnvelope.Span
import SealedEnvelope.Proofs.Aes.Rounds
import SealedEnvelope.Proofs.Codec
import SealedEnvelope.Proofs.Codec.RoundTrip
import SealedEnvelope.Proofs.Codec.Subkeys
import SealedEnvelope.Proofs.Codec.Tampering
import SealedEnvelope.Proofs.Digest.Horner
import SealedEnvelope.Proofs.Digest.Polynomial
import SealedEnvelope.Proofs.Digest.Powers
import SealedEnvelope.Proofs.Digest.Universal
import SealedEnvelope.Proofs.Field.Irreducible
import SealedEnvelope.Proofs.Field.Laws
import SealedEnvelope.Proofs.Field.Product
import SealedEnvelope.Proofs.GaloisCounter.Agreement
import SealedEnvelope.Proofs.GaloisCounter.Mode
import SealedEnvelope.Proofs.GaloisCounter.Refinement
import SealedEnvelope.Proofs.Keystream
import SealedEnvelope.Proofs.Counter
import SealedEnvelope.Proofs.Keystream.Requests
import SealedEnvelope.Proofs.Codec.Inputs
import SealedEnvelope.Proofs.Codec.Freshness
import SealedEnvelope.Proofs.Digest.Lengths
import SealedEnvelope.Proofs.Codec.Lengths
import SealedEnvelope.Proofs.Codec.Nonces
import SealedEnvelope.Proofs.Text.Utf8
import SealedEnvelope.Proofs.Text.Base64
import SealedEnvelope.Proofs.Text.Blank
import SealedEnvelope.Proofs.Message
import SealedEnvelope.Proofs.Message.Outcomes
import SealedEnvelope.Proofs.Json.Strings
import SealedEnvelope.Proofs.Json.Words
import SealedEnvelope.Proofs.Body
import SealedEnvelope.Proofs.Json.Grammar
import SealedEnvelope.Proofs.Message.Bodies
import SealedEnvelope.Proofs.Json.Scalars
import SealedEnvelope.Proofs.Json.Nesting
import SealedEnvelope.Proofs.Body.Members
import SealedEnvelope.Proofs.Body.Shapes
import SealedEnvelope.Proofs.Message.Shapes
import SealedEnvelope.Proofs.Text.Hex
import SealedEnvelope.Proofs.CommandLine.Keys
import SealedEnvelope.Proofs.CommandLine.Outcomes
import SealedEnvelope.Proofs.CommandLine.Results
import SealedEnvelope.Proofs.CommandLine.Arguments
import SealedEnvelope.Proofs.CommandLine.RoundTrip
import SealedEnvelope.Proofs.CommandLine.Reading
import SealedEnvelope.Proofs.CommandLine.Verbose
import SealedEnvelope.Proofs.Codec.Reports
import SealedEnvelope.Proofs.CommandLine.Reports
import SealedEnvelope.Proofs.Json.Verdicts
import SealedEnvelope.Proofs.Json.Surrogates
import SealedEnvelope.Proofs.Json.Passing
import SealedEnvelope.Proofs.Body.Meaning
import SealedEnvelope.Proofs.Message.Members
import SealedEnvelope.Proofs.Envelope.Writing
import SealedEnvelope.Proofs.Keystream.Bookkeeping
import SealedEnvelope.Proofs.Json.Integers
import SealedEnvelope.Proofs.Json.Objects
import SealedEnvelope.Proofs.Json.Denotation
import SealedEnvelope.Proofs.Json.Descent
import SealedEnvelope.Proofs.Json.Indentation
import SealedEnvelope.Proofs.CommandLine.Layout
import SealedEnvelope.Procedure
import SealedEnvelope.Sealing
import SealedEnvelope.Proofs.Procedure
import SealedEnvelope.Proofs.Event.Filter
import SealedEnvelope.Proofs.CommandLine.Printing
