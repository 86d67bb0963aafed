import Thicket.Text.Basic
import Thicket.Text.Place
import Thicket.Text.Utf8
import Thicket.Text.Quoted
import Thicket.Fault
import Thicket.Symbol
import Thicket.Node.Dump
import Thicket.Node.Graph
import Thicket.Pattern.Match
import Thicket.Pattern.Reader
import Thicket.Matcher.Literal
import Thicket.Matcher.Regular
import Thicket.Source.Characters
import Thicket.Source.Lines
import Thicket.Source.Playback
import Thicket.Source.Either
import Thicket.Tokenizer.Run
import Thicket.Folding.Run
import Thicket.Proofs.Text.Places
import Thicket.Proofs.Source.Counting
import Thicket.Proofs.Tokenizer.Pieces
import Thicket.Proofs.Tokenizer.Rounds
import Thicket.Proofs.Tokenizer.History
import Thicket.Proofs.Tokenizer.Conservation
import Thicket.Proofs.Tokenizer.Recovery
import Thicket.Proofs.Tokenizer.Settled
import Thicket.Proofs.Tokenizer.Cutting
import Thicket.Proofs.Tokenizer.Refill
import Thicket.Proofs.Literal.Occurrence
import Thicket.Proofs.Literal.Cutting
import Thicket.Proofs.Literal.Refill
import Thicket.Proofs.Pattern.Stages
import Thicket.Proofs.Pattern.Backtracking
import Thicket.Proofs.Pattern.Lockstep
import Thicket.Proofs.Pattern.Course
import Thicket.Proofs.Pattern.Inheritance
import Thicket.Proofs.Pattern.Pursuit
import Thicket.Proofs.Pattern.Plain
import Thicket.Proofs.Pattern.Exactness
import Thicket.Proofs.Pattern.Waiting
import Thicket.Proofs.Pattern.Escaped
import Thicket.Proofs.Pattern.Refill
import Thicket.Proofs.Node.Subtrees
import Thicket.Proofs.Folding.Derivation
import Thicket.Proofs.Folding.Growth
import Thicket.Proofs.Folding.Session
import Thicket.Proofs.Grammar.Registration
import Thicket.Proofs.Node.Dump
import Thicket.Proofs.Node.Graph
import Thicket.Proofs.Source.Agreement
import Thicket.Proofs.Source.Cursor
import Thicket.Proofs.Tokenizer.Agreement
import Thicket.Proofs.Matcher.Lawful
import Thicket.Proofs.Tokenizer.Splitting
import Thicket.Proofs.Folding.Greedy
import Thicket.Proofs.Folding.Extension
import Thicket.Proofs.Folding.Trace
import Thicket.Proofs.Folding.Renaming
import Thicket.Proofs.Folding.Termination
import Thicket.Proofs.Folding.Priority
import Thicket.Proofs.Folding.Outcome
import Thicket.Proofs.Folding.Normal
import Thicket.Proofs.Tokenizer.Exhaustion
import Thicket.Proofs.Tokenizer.Standstill
import Thicket.Proofs.Literal.Capacity
import Thicket.Proofs.Text.Bytes
import Thicket.Proofs.Literal.Search
import Thicket.Proofs.Folding.Batches
import Thicket.Proofs.Node.Blank
import Thicket.Proofs.Folding.Texts
import Thicket.Proofs.Tokenizer.Turns
import Thicket.Proofs.Tokenizer.Ending
import Thicket.Proofs.Node.Addresses
import Thicket.Proofs.Node.Frontier
import Thicket.Proofs.Tokenizer.Requests
