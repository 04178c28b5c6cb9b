import Monkey.Grammar
import Monkey.Program
import Monkey.Session.Steps
import Monkey.Proofs.Boundary
import Monkey.Proofs.Concatenation
import Monkey.Proofs.Spacing
import Monkey.Proofs.Lines
import Monkey.Proofs.Effects
import Monkey.Proofs.Session
import Monkey.Proofs.Classes
import Monkey.Proofs.Legality
import Monkey.Proofs.Readings
import Monkey.Proofs.Delivery
import Monkey.Proofs.Fragments
import Monkey.Proofs.Faults
import Monkey.Proofs.Listing
import Monkey.Proofs.Coverage
import Monkey.Proofs.FileRun
import Monkey.Proofs.Events
import Monkey.Proofs.Places
import Monkey.Proofs.Lookahead
import Monkey.Proofs.EqualsSigns
import Monkey.Proofs.Substitution
import Monkey.Proofs.Independence
import Monkey.Proofs.Limit
import Monkey.Proofs.Causes
import Monkey.Proofs.Progress
import Monkey.Proofs.Windows
