import DocFilter.Main
import DocFilter.Proofs.Filter.Encoding
import DocFilter.Proofs.Filter.Preservation
import DocFilter.Proofs.Query.Contents
import DocFilter.Proofs.Query.Encoding
import DocFilter.Proofs.Query.InvalidLiteral
import DocFilter.Proofs.Query.Position
import DocFilter.Proofs.Query.Rendering
import DocFilter.Proofs.Query.Strict
import DocFilter.Proofs.Token.Precedence
import DocFilter.Proofs.Token.Requests
import DocFilter.Proofs.Token.Rounds
import DocFilter.Proofs.Filter.NoDefect
import DocFilter.Proofs.Time.Reading
import DocFilter.Proofs.Time.Calendar
import DocFilter.Proofs.Cli.Files
import DocFilter.Proofs.Filter.Instants
import DocFilter.Proofs.Cli.Run
import DocFilter.Proofs.Query.Subtree
import DocFilter.Proofs.Filter.Objects
import DocFilter.Proofs.Filter.Arity
import DocFilter.Proofs.Log.Mirror
import DocFilter.Proofs.Cli.Layout
import DocFilter.Proofs.Token.Decoding
