import Scriptlet.CommandLine
import Scriptlet.Main
import Scriptlet.Proofs.CommandLine.Literal
import Scriptlet.Proofs.CommandLine.Options
import Scriptlet.Proofs.Console.Agreement
import Scriptlet.Proofs.Console.Blocks
import Scriptlet.Proofs.Console.Braces
import Scriptlet.Proofs.Console.Indentation
import Scriptlet.Proofs.Console.Sessions
import Scriptlet.Proofs.Console.Switches
import Scriptlet.Proofs.Evaluation.Echo
import Scriptlet.Proofs.Evaluation.Faults
import Scriptlet.Proofs.Evaluation.Inversion
import Scriptlet.Proofs.Evaluation.LineBreaks
import Scriptlet.Proofs.Evaluation.Machine
import Scriptlet.Proofs.Evaluation.Output
import Scriptlet.Proofs.Evaluation.Payloads
import Scriptlet.Proofs.Evaluation.Relabelling
import Scriptlet.Proofs.Evaluation.Shaping
import Scriptlet.Proofs.Evaluation.Shielding
import Scriptlet.Proofs.Evaluation.Unvisited
import Scriptlet.Proofs.Integer.Division
import Scriptlet.Proofs.Parsing.Completeness
import Scriptlet.Proofs.Parsing.Joining
import Scriptlet.Proofs.Parsing.Layout
import Scriptlet.Proofs.Parsing.Words
import Scriptlet.Proofs.Tree.Outline
