import BranchCoverage.Main
import BranchCoverage.NumberProgram
import BranchCoverage.Proofs.Flow.Bisimulation
import BranchCoverage.Proofs.Stack.Agreement
import BranchCoverage.Proofs.Instrument.Atomicity
import BranchCoverage.Proofs.Remote.Words
import BranchCoverage.Proofs.Remote.Framing
import BranchCoverage.Proofs.Remote.Refinement
import BranchCoverage.Proofs.Remote.Accounts
import BranchCoverage.Proofs.Remote.Conduct
import BranchCoverage.Proofs.Image.Codec
import BranchCoverage.Proofs.Image.RoundTrip
import BranchCoverage.Proofs.Insertion.Removal
import BranchCoverage.Proofs.Instrument.Rewriting
import BranchCoverage.Proofs.Instrument.Draws
import BranchCoverage.Proofs.Instrument.Frame
import BranchCoverage.Proofs.Instrument.Sequence
import BranchCoverage.Proofs.Instrument.Closed
import BranchCoverage.Proofs.Trace.Recording
import BranchCoverage.Proofs.Remote.Merging
import BranchCoverage.Proofs.Files.Glob
import BranchCoverage.Proofs.CommandLine.CoreLibrary
import BranchCoverage.Proofs.Instrument.Reported
import BranchCoverage.Proofs.Files.Tree
import BranchCoverage.Proofs.Insertion.Regions
import BranchCoverage.Proofs.Instrument.Members
import BranchCoverage.Proofs.Selection.Methods
import BranchCoverage.Proofs.ForkServer.Failure
import BranchCoverage.Proofs.Trace.ClosedForm
import BranchCoverage.Proofs.Stack.Depth
import BranchCoverage.Proofs.Agent.Language
import BranchCoverage.Proofs.Trace.Interleaving
import BranchCoverage.Proofs.Identifier.Issued
import BranchCoverage.Proofs.Image.Truncation
import BranchCoverage.Proofs.Remote.Limits
import BranchCoverage.Proofs.Insertion.Repetition
import BranchCoverage.Proofs.Remote.Summary
import BranchCoverage.Proofs.Selection.Rows
import BranchCoverage.Proofs.NumberHarness
