import Storyboard.Chart.Reading
import Storyboard.Board.Reading
import Storyboard.Session
import Storyboard.Command.Arguments
import Storyboard.Main
import Storyboard.Proofs.Reload
import Storyboard.Proofs.TriggerRun
import Storyboard.Proofs.StateTimes
import Storyboard.Proofs.NoteLaw
import Storyboard.Proofs.LoadedObjects
import Storyboard.Proofs.Accounting
import Storyboard.Proofs.Isolation
import Storyboard.Proofs.GeneratedIds
import Storyboard.Proofs.StateOrder
import Storyboard.Proofs.Inheritance
import Storyboard.Proofs.Spreading
import Storyboard.Proofs.Rehearsals
import Storyboard.Proofs.Layering
import Storyboard.Proofs.Nesting
import Storyboard.Proofs.Trimming
import Storyboard.Proofs.Inlining
import Storyboard.Proofs.SelectedNotes
import Storyboard.Proofs.NotedIds
import Storyboard.Proofs.ForfeitedNumbers
import Storyboard.Proofs.HiddenTimes
import Storyboard.Proofs.NumericOrder
import Storyboard.Proofs.ChartIndex
import Storyboard.Proofs.WrittenTriggers
import Storyboard.Performance
import Storyboard.Proofs.CompiledLoads
import Storyboard.Proofs.Performances
