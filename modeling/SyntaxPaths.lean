import SyntaxPaths.ParseTree.Json
import SyntaxPaths.ParseTree.Preorder
import SyntaxPaths.Proofs.Corpus
import SyntaxPaths.Proofs.Coverage.BinaryLinks
import SyntaxPaths.Proofs.Coverage.Labels
import SyntaxPaths.Proofs.Coverage.Subsets
import SyntaxPaths.Proofs.Extraction.Recording
import SyntaxPaths.Proofs.Feature.LeafTokens
import SyntaxPaths.Proofs.Path.Statement
import SyntaxPaths.Proofs.Quota.Shares
import SyntaxPaths.Proofs.Rendering.Lossless
import SyntaxPaths.Proofs.Settings.Layers
import SyntaxPaths.Proofs.Settings.RoundTrip
import SyntaxPaths.Proofs.SyntaxTree.Rejection
import SyntaxPaths.Proofs.SyntaxTree.Values
import SyntaxPaths.Proofs.SyntaxTree.Views
import SyntaxPaths.Proofs.Path.Split
import SyntaxPaths.Proofs.Text.Settled
import SyntaxPaths.Proofs.Coverage.Refusal
import SyntaxPaths.Proofs.Text.Words
