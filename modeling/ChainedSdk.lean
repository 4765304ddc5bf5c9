import ChainedSdk.Code.Reader
import ChainedSdk.Json.Printer
import ChainedSdk.Main
import ChainedSdk.Proofs.Annotations
import ChainedSdk.Proofs.ArgumentOrder
import ChainedSdk.Proofs.Bindings
import ChainedSdk.Proofs.ChainedResults
import ChainedSdk.Proofs.Failures
import ChainedSdk.Proofs.Filtering
import ChainedSdk.Proofs.FragmentSearch
import ChainedSdk.Proofs.HeaderLines
import ChainedSdk.Proofs.History
import ChainedSdk.Proofs.Independence
import ChainedSdk.Proofs.Loading
import ChainedSdk.Proofs.ModuleDocstring
import ChainedSdk.Proofs.Nesting
import ChainedSdk.Proofs.OwnDeclarations
import ChainedSdk.Proofs.Parsing
import ChainedSdk.Proofs.Placement
import ChainedSdk.Proofs.Registration
import ChainedSdk.Proofs.ScalarAnswers
import ChainedSdk.Proofs.ScalarImports
import ChainedSdk.Proofs.ScopeNames
import ChainedSdk.Proofs.TripleQuotes
import ChainedSdk.Proofs.UsableNames
import ChainedSdk.Proofs.Writing
import ChainedSdk.Response
