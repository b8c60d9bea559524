import Reroute.Scenario
import Reroute.Proofs.Parsing.Lexeme
import Reroute.Proofs.Grammar.Lexical
import Reroute.Proofs.Parsing.Separation
import Reroute.Proofs.Grammar.Expression
import Reroute.Proofs.Grammar.Closing
import Reroute.Proofs.Grammar.Path
import Reroute.Proofs.Grammar.Rule
import Reroute.Proofs.Parsing.Place
import Reroute.Proofs.Parsing.Construction
import Reroute.Proofs.Grammar.Construction
import Reroute.Proofs.Parsing.Position
import Reroute.Proofs.Regex.Matching
import Reroute.Proofs.Regex.Program
import Reroute.Proofs.Regex.Search
import Reroute.Proofs.Regex.Numbering
import Reroute.Proofs.Regex.Lookahead
import Reroute.Proofs.Regex.Token
import Reroute.Proofs.Regex.Fragment
import Reroute.Proofs.Regex.Source
import Reroute.Proofs.Regex.Part
import Reroute.Proofs.Matching.PathTree
import Reroute.Proofs.Matching.Placeholder
import Reroute.Proofs.Matching.Segments
import Reroute.Proofs.Matching.Extract
import Reroute.Proofs.Matching.Duality
import Reroute.Proofs.Matching.Recovery
import Reroute.Proofs.Matching.PathParts
import Reroute.Proofs.Matching.Anchors
import Reroute.Proofs.Matching.GroupNames
import Reroute.Proofs.Evaluation.Ensures
import Reroute.Proofs.Evaluation.Scope
import Reroute.Proofs.Evaluation.Shape
import Reroute.Proofs.Evaluation.Soundness
import Reroute.Proofs.Evaluation.Noninterference
import Reroute.Proofs.Grammar.Padding
import Reroute.Proofs.Parsing.Execution
import Reroute.Proofs.Grammar.Termination
import Reroute.Proofs.Grammar.Shape
import Reroute.Proofs.Regex.Balance
import Reroute.Proofs.Regex.Containment
import Reroute.Proofs.Regex.Retention
import Reroute.Proofs.Matching.Confinement
import Reroute.Proofs.Url.Percent
import Reroute.Proofs.Url.Trail
import Reroute.Proofs.Url.Domain
import Reroute.Proofs.Url.Host
import Reroute.Proofs.Url.Authority
import Reroute.Proofs.Url.Roundtrip
import Reroute.Proofs.Url.Change
import Reroute.Proofs.Evaluation.Origin
import Reroute.Proofs.Url.Ideograph
import Reroute.Proofs.Url.Punycode
import Reroute.Proofs.Url.Folding
import Reroute.Proofs.Url.Address
import Reroute.Proofs.Resolution
import Reroute.Proofs.Parsing.Translation
import Reroute.Proofs.Parsing.Diagnosis
import Reroute.Proofs.Grammar.Diagnosis
import Reroute.Proofs.Matching.Writers
import Reroute.Proofs.Evaluation.Locality
import Reroute.Proofs.Evaluation.Atomicity
import Reroute.Proofs.Evaluation.Commutation
import Reroute.Proofs.Url.Form
import Reroute.Proofs.Parameters
import Reroute.Proofs.Evaluation.Phases
import Reroute.Proofs.Aliasing
import Reroute.Proofs.Contributions
import Reroute.Proofs.Grammar.Remainder
import Reroute.Proofs.Scenario
import Reroute.Proofs.Parsing.Repetition
import Reroute.Proofs.Parsing.Delimiters
import Reroute.Proofs.Parsing.Number
import Reroute.Proofs.Parsing.FixedText
import Reroute.Proofs.LeadingSlash
