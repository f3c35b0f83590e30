import ByteMachine.CommandLine.Invocation
import ByteMachine.Main
import ByteMachine.Operation
import ByteMachine.Proofs.Grammar.Lines
import ByteMachine.Proofs.Grammar.Decimals
import ByteMachine.Proofs.Grammar.Hexadecimals
import ByteMachine.Proofs.Grammar.Literals
import ByteMachine.Proofs.Grammar.Encoding
import ByteMachine.Proofs.Grammar.Stripping
import ByteMachine.Proofs.Grammar.Parsing
import ByteMachine.Proofs.Grammar.Widths
import ByteMachine.Proofs.Grammar.Skipping
import ByteMachine.Proofs.Grammar.Layouts
import ByteMachine.Proofs.Grammar.Concatenation
import ByteMachine.Proofs.Grammar.Edits
import ByteMachine.Proofs.Execution.Rules
import ByteMachine.Proofs.Execution.Events
import ByteMachine.Proofs.Execution.Output
import ByteMachine.Proofs.Execution.Prints
import ByteMachine.Proofs.Execution.Provenance
import ByteMachine.Proofs.Execution.StepBound
import ByteMachine.Proofs.Execution.Course
import ByteMachine.Proofs.Execution.Faults
import ByteMachine.Proofs.Execution.Resumption
import ByteMachine.Proofs.Execution.Counter
import ByteMachine.Proofs.Execution.Jumps
import ByteMachine.Proofs.Execution.Addresses
import ByteMachine.Proofs.Execution.Footprint
import ByteMachine.Proofs.Execution.Retries
import ByteMachine.Proofs.Execution.Traces
import ByteMachine.Proofs.Execution.Observation
import ByteMachine.Proofs.Execution.Transcript
import ByteMachine.Proofs.Execution.Findings
import ByteMachine.Proofs.Execution.Rows
import ByteMachine.Proofs.Refinement.Listing
import ByteMachine.Proofs.Refinement.Lockstep
import ByteMachine.Proofs.Refinement.Assembly
import ByteMachine.Proofs.Operations.Failures
import ByteMachine.Proofs.Operations.History
import ByteMachine.Proofs.Operations.Comparisons
import ByteMachine.Proofs.Operations.EndOfMemory
import ByteMachine.Proofs.Operations.Outcomes
import ByteMachine.Proofs.Operations.Padding
import ByteMachine.Proofs.Operations.Writes
import ByteMachine.Proofs.CommandLine.Stages
import ByteMachine.Proofs.CommandLine.Capacity
import ByteMachine.Proofs.CommandLine.Sources
import ByteMachine.Proofs.CommandLine.Reports
import ByteMachine.Proofs.CommandLine.Switches
import ByteMachine.Proofs.CommandLine.Environment
import ByteMachine.Proofs.CommandLine.EndToEnd
import ByteMachine.Proofs.CommandLine.Channels
