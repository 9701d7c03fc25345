import StyleLift.Client.Session
import StyleLift.Main
import StyleLift.Server.Api
import StyleLift.Proofs.Run.Outcome
import StyleLift.Proofs.Text.Order
import StyleLift.Proofs.Extract.Confirmation
import StyleLift.Proofs.Css.Marks
import StyleLift.Proofs.Css.Nesting
import StyleLift.Proofs.Css.Lexing
import StyleLift.Proofs.Css.Written
import StyleLift.Proofs.Css.WrittenTokens
import StyleLift.Proofs.Css.WrittenRules
import StyleLift.Proofs.Css.Locality
import StyleLift.Proofs.Css.Steps
import StyleLift.Proofs.Css.Runs
import StyleLift.Proofs.Css.Bodies
import StyleLift.Proofs.Css.Legible
import StyleLift.Proofs.Verify.Placeholders
import StyleLift.Proofs.Verify.Carrying
import StyleLift.Proofs.Css.Selectors
import StyleLift.Proofs.Verify.Spelling
import StyleLift.Proofs.Verify.Soundness
import StyleLift.Proofs.Extract.Preparation
import StyleLift.Proofs.Extract.Degradation
import StyleLift.Proofs.Extract.Totality
import StyleLift.Proofs.Verify.Completeness
import StyleLift.Proofs.Text.Joining
import StyleLift.Proofs.Text.Encoding
import StyleLift.Proofs.Number.Rounding
import StyleLift.Proofs.Number.Shortest
import StyleLift.Proofs.Json.Strings
import StyleLift.Proofs.Json.Numbers
import StyleLift.Proofs.Json.Roundtrip
import StyleLift.Proofs.Json.Bytes
import StyleLift.Proofs.Http.Paths
import StyleLift.Proofs.Server.Answers
import StyleLift.Proofs.Extract.Results
import StyleLift.Proofs.Client.Transparency
import StyleLift.Proofs.Tool.Checking
import StyleLift.Proofs.Tool.Calls
import StyleLift.Proofs.Tool.Stumbling
import StyleLift.Proofs.Tool.History
import StyleLift.Proofs.Tool.Parameters
import StyleLift.Proofs.Tool.Attribution
import StyleLift.Proofs.Component.Sources
import StyleLift.Proofs.Server.Totality
import StyleLift.Proofs.Verify.Failures
import StyleLift.Proofs.Files.Places
import StyleLift.Proofs.Verify.Configuration
import StyleLift.Proofs.Utility.Sides
import StyleLift.Proofs.Verify.Emission
import StyleLift.Proofs.Utility.SameClasses
import StyleLift.Proofs.Utility.SettingSides
import StyleLift.Proofs.CommandLine.Agreement
import StyleLift.Proofs.Utility.Candidates
import StyleLift.Proofs.Extract.Merging
import StyleLift.Proofs.Verify.Distribution
import StyleLift.Proofs.Utility.PixelGrammar
import StyleLift.Proofs.Css.Recovery
import StyleLift.Proofs.Css.Compounds
import StyleLift.Proofs.Markup.Pieces
import StyleLift.Proofs.Verify.Invocations
import StyleLift.Proofs.Component.Embedding
import StyleLift.Proofs.Component.Kebab
import StyleLift.Proofs.Tool.Captures
import StyleLift.Proofs.Client.Replies
