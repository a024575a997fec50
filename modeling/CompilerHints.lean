import CompilerHints.Main
import CompilerHints.Processing.Outcome
import CompilerHints.Proofs.Artifact
import CompilerHints.Proofs.Collector
import CompilerHints.Proofs.Incremental.Confined
import CompilerHints.Proofs.Incremental.Retry
import CompilerHints.Proofs.Incremental.Stored
import CompilerHints.Proofs.Incremental.Units
import CompilerHints.Proofs.Interchange.References
import CompilerHints.Proofs.PrefixCode
import CompilerHints.Proofs.Processing.Cleaned
import CompilerHints.Proofs.Processing.Faithful
import CompilerHints.Proofs.Processing.LifeCycle
import CompilerHints.Proofs.Processing.OneLineEach
import CompilerHints.Proofs.Processing.Rearranged
import CompilerHints.Proofs.Processing.Steps
import CompilerHints.Proofs.Signature
import CompilerHints.Proofs.Additions
import CompilerHints.Proofs.Lines
import CompilerHints.Proofs.Processing.Cuts
import CompilerHints.Proofs.Merging.SameLines
import CompilerHints.Proofs.Merging.Again
import CompilerHints.Proofs.Interchange.ReadsAgain
import CompilerHints.Proofs.Processing.Accounts
import CompilerHints.Proofs.AllOrNothing
import CompilerHints.Proofs.Merging.Failures
import CompilerHints.Proofs.Decoding
import CompilerHints.Proofs.Spelling
import CompilerHints.Proofs.Configuration.OutputRoot
import CompilerHints.Proofs.Configuration.Overlay
import CompilerHints.Proofs.Incremental.OptionNames
import CompilerHints.Proofs.Incremental.Rerun
import CompilerHints.Proofs.Incremental.Rebuild
import CompilerHints.Proofs.Incremental.Kinds
import CompilerHints.Proofs.SinkHistory
import CompilerHints.Proofs.ElementLines
import CompilerHints.Proofs.CommandLine.Process
