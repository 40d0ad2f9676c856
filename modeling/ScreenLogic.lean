import ScreenLogic.Action.Wire
import ScreenLogic.Executor.Script
import ScreenLogic.Executor.Session
import ScreenLogic.Logic.Eval
import ScreenLogic.Logic.Wire
import ScreenLogic.Model.Handles
import ScreenLogic.Template
import ScreenLogic.Validation.Wire
import ScreenLogic.Value.Judgement
import ScreenLogic.Value.Reader
import ScreenLogic.Visibility.Wire
import ScreenLogic.Proofs.Fields
import ScreenLogic.Proofs.Decode
import ScreenLogic.Proofs.Model.Write
import ScreenLogic.Proofs.Executor.Ledger
import ScreenLogic.Proofs.Executor.Gate
import ScreenLogic.Proofs.Executor.Loading
import ScreenLogic.Proofs.Executor.Story
import ScreenLogic.Proofs.Executor.Confirmation
import ScreenLogic.Proofs.Executor.Turns
import ScreenLogic.Proofs.Validation.Lint
import ScreenLogic.Proofs.Logic.Operand
import ScreenLogic.Proofs.Executor.Chain
import ScreenLogic.Proofs.Executor.Outline
import ScreenLogic.Proofs.Executor.Execution
import ScreenLogic.Proofs.Executor.Registration
import ScreenLogic.Proofs.Executor.Depth
import ScreenLogic.Proofs.Executor.Meaning
import ScreenLogic.Proofs.Model.Independence
import ScreenLogic.Proofs.Executor.Writes
import ScreenLogic.Proofs.Logic.Reading
import ScreenLogic.Proofs.Logic.RoundTrip
import ScreenLogic.Proofs.Logic.Acceptance
import ScreenLogic.Proofs.References
import ScreenLogic.Proofs.Validation.Run
import ScreenLogic.Proofs.Visibility.NormalForm
import ScreenLogic.Proofs.Executor.Deeds
import ScreenLogic.Proofs.Executor.Snapshot
import ScreenLogic.Proofs.Executor.Lockstep
import ScreenLogic.Proofs.Executor.ErrorText
import ScreenLogic.Proofs.Visibility.Facts
import ScreenLogic.Proofs.Number.Rounding
import ScreenLogic.Proofs.Number.Integers
import ScreenLogic.Proofs.Decode.Settling
import ScreenLogic.Proofs.Decode.Record
import ScreenLogic.Proofs.Action.RoundTrip
import ScreenLogic.Proofs.Validation.RoundTrip
import ScreenLogic.Proofs.Visibility.RoundTrip
import ScreenLogic.Proofs.Settling
import ScreenLogic.Proofs.Value.Congruence
import ScreenLogic.Proofs.Logic.Comparison
import ScreenLogic.Proofs.Model.Frame
import ScreenLogic.Proofs.Model.Composition
import ScreenLogic.Proofs.Model.Growth
import ScreenLogic.Proofs.Validation.Numeric
import ScreenLogic.Proofs.Template
import ScreenLogic.Proofs.Validation.Email
import ScreenLogic.Proofs.Validation.Length
import ScreenLogic.Proofs.Model.Handles
import ScreenLogic.Proofs.Pattern.Size
