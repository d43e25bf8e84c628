import ClausalSearch.Main
import ClausalSearch.Proofs.Assignment
import ClausalSearch.Proofs.Evaluation
import ClausalSearch.Proofs.Choice
import ClausalSearch.Proofs.Exploration
import ClausalSearch.Proofs.Restoration
import ClausalSearch.Proofs.Interning
import ClausalSearch.Proofs.Satisfiability
import ClausalSearch.Proofs.CanonicalTrail
import ClausalSearch.Proofs.Reading
import ClausalSearch.Proofs.Safety
import ClausalSearch.Proofs.Calls
import ClausalSearch.Proofs.Trace
import ClausalSearch.Proofs.Statistics
import ClausalSearch.Proofs.Tokens
import ClausalSearch.Proofs.Names
import ClausalSearch.Proofs.PrintedModel
import ClausalSearch.Proofs.BatchLines
import ClausalSearch.Proofs.BatchAgreement
import ClausalSearch.Proofs.Gathering
import ClausalSearch.Proofs.NamedGrammar
import ClausalSearch.Proofs.Numerals
import ClausalSearch.Proofs.DimacsGrammar
import ClausalSearch.Proofs.RoundTrip
import ClausalSearch.Proofs.ExactInterning
import ClausalSearch.Proofs.EqualRuns
import ClausalSearch.Proofs.Redundancy
import ClausalSearch.Proofs.Renaming
import ClausalSearch.Proofs.Files
import ClausalSearch.Proofs.CommandLine
import ClausalSearch.Proofs.Extensions
import ClausalSearch.Proofs.Finders
import ClausalSearch.Proofs.Progress
import ClausalSearch.Proofs.Termination
import ClausalSearch.Proofs.Sessions
import ClausalSearch.Proofs.LineEnds
