import Fidget.Hardware.DiagnosticPreview.Parking
import Fidget.Hardware.DiagnosticSource.Parking
import Fidget.Hardware.ScpBulkApply.Parking
import Fidget.Hardware.ScpSingleRepair.Parking

/-!
# The transactions that select a bank

Four transactions write to the selector, each with a flag of its own for that. A selection whose
answer is lost is noted in none of them, other than in the capture, which notes it beforehand: the
selector is then not parked, and a preview or a change of the source even resumes the acquisition
with it.

## Main results

- `replay_writes`: the listed writes account for all that a transaction does to the module.
- `enablesParked_writes_iff`: nothing is enabled on another bank unless the acquisition is resumed
  after a lost selection.
- `parksAfterSelecting_writes_iff`: a selection is parked unless its answer is lost.
- `selectorTransaction_keepsParked_iff`: both, for all four transactions.
- `selectorTransaction_keepsParked_counterexample`: a preview that resumes on the third bank.
-/

namespace Fidget

/-- A transaction with what it is given and how its calls go. -/
inductive SelectorTransaction where
  | preview (fault : PreviewSite → Option Fault) (save : JournalSaver)
      (cancellationRequested : Bool) (session : DiagnosticAcquisitionPreparationResult)
      (request : PreviewTransactionRequest) (recoveryJournalPath : String)
  | sourceChange (fault : SourceSite → Option Fault) (save : SourceJournalSaver)
      (cancellationRequested : SourceCancellation → Bool)
      (session : DiagnosticAcquisitionPreparationResult) (request : DiagnosticSourceChangeRequest)
      (recoveryJournalPath : String)
  | repair (fault : SingleRepair.Site → Option Fault)
      (cancellationRequested : SingleRepair.Gate → Bool) (request : ScpSingleRepairRequest)
      (ownershipGate : Option (SingleRepair.Gate → ScpCaptureGateResult))
  | application (fault : BulkApplySite → Option Fault)
      (cancellationRequested : BulkApplyGate → Bool) (request : ScpProfileApplicationRequest)
      (ownershipGate : Option (BulkApplyGate → ScpCaptureGateResult))

namespace SelectorTransaction

/-- The module that the transaction leaves behind. -/
def after (bench : Bench) : SelectorTransaction → Bench
  | preview fault save cancellationRequested session request recoveryJournalPath =>
    (executePreviewTransaction fault save cancellationRequested bench session request
      recoveryJournalPath).2.2
  | sourceChange fault save cancellationRequested session request recoveryJournalPath =>
    (changeDiagnosticWaveformSource fault save cancellationRequested recoveryJournalPath bench
      session request).bench
  | repair fault cancellationRequested request ownershipGate =>
    (repairFw2051ScpProfileValue fault cancellationRequested bench request ownershipGate).bench
  | application fault cancellationRequested request ownershipGate =>
    (applyFw2051ScpProfile fault cancellationRequested bench request ownershipGate).2

/-- The writes that the transaction sends. -/
def writes (bench : Bench) : SelectorTransaction → List SentWrite
  | preview fault save cancellationRequested session request recoveryJournalPath =>
    previewTransactionWrites fault save cancellationRequested recoveryJournalPath request bench
      session
  | sourceChange fault save cancellationRequested session request recoveryJournalPath =>
    sourceChangeWrites fault save cancellationRequested recoveryJournalPath request bench session
  | repair fault cancellationRequested request ownershipGate =>
    (repairFw2051ScpProfileValue fault cancellationRequested bench request ownershipGate).sent
  | application fault cancellationRequested request ownershipGate =>
    applyFw2051ScpProfileWrites fault cancellationRequested bench request ownershipGate

/-- Every gate lets the transaction pass, and nobody wants it cancelled. -/
def Allowed : SelectorTransaction → Prop
  | preview _ _ cancellationRequested _ _ _ => cancellationRequested = false
  | sourceChange _ _ cancellationRequested _ _ _ => ∀ site, cancellationRequested site = false
  | repair _ cancellationRequested _ ownershipGate =>
    (∀ site, cancellationRequested site = false) ∧
      ∀ gate ∈ ownershipGate, ∀ site, (gate site).status = .allowed
  | application _ cancellationRequested _ ownershipGate =>
    (∀ site, cancellationRequested site = false) ∧
      ∀ gate ∈ ownershipGate, ∀ site, (gate site).status = .allowed

/-- The transaction gets to its selection, and the answer to this is lost. -/
def LosesSelection (bench : Bench) : SelectorTransaction → Prop
  | preview fault _ _ session request recoveryJournalPath =>
    PreviewAdmitted fault bench session request recoveryJournalPath ∧
      PauseUndisturbed (fault ∘ .pause) ∧ fault .select ≠ none
  | sourceChange fault _ _ session request recoveryJournalPath =>
    SourceChangeAdmitted fault recoveryJournalPath request bench session ∧
      PauseUndisturbed (fault ∘ .pause) ∧ fault .select ≠ none
  | repair fault _ request ownershipGate =>
    ownershipGate ≠ none ∧ RepairSelects fault bench request ∧ fault .select ≠ none
  | application fault _ request ownershipGate =>
    ∃ gate, ownershipGate = some gate ∧ PreflightPasses fault gate bench request ∧
      StopUndisturbed fault gate ∧ fault (.select 0) ≠ none

/-- The lost selection has taken effect, on another bank than zero, and the acquisition is resumed
after it. -/
def ResumesElsewhere : SelectorTransaction → Prop
  | preview fault _ _ _ request _ =>
    Fidget.ResumesElsewhere (fault .select) request.selectedQuad request.resumeAfterTransaction
      (fault ∘ .resume)
  | sourceChange fault _ _ _ request _ =>
    Fidget.ResumesElsewhere (fault .select) request.selectedQuad true (fault ∘ .resume)
  | repair .. => False
  | application .. => False

/-- The listed writes account for all that the transaction does to the module. -/
theorem replay_writes (transaction : SelectorTransaction) (bench : Bench) :
    CallTrace.replay SentWrite.effect (transaction.writes bench) bench = transaction.after bench := by
  cases transaction with
  | preview => exact replay_previewTransactionWrites ..
  | sourceChange => exact replay_sourceChangeWrites ..
  | repair fault cancellationRequested request ownershipGate =>
      exact (repairFw2051ScpProfileValue_sent fault cancellationRequested bench request
        ownershipGate).1
  | application fault cancellationRequested request ownershipGate =>
      exact (applyFw2051ScpProfileWrites_sent fault cancellationRequested bench request
        ownershipGate).1

variable {bench : Bench}

/-- Nothing is enabled on another bank unless the acquisition is resumed after a lost selection. -/
theorem enablesParked_writes_iff (transaction : SelectorTransaction) (hparked : bench.selector = 0) :
    EnablesParked (transaction.writes bench) bench ↔
      ¬(transaction.LosesSelection bench ∧ transaction.ResumesElsewhere) := by
  have hlost : ∀ {select : Option Fault} {quad : UInt16} {resumes : Bool}
      {resume : ResumeSite → Option Fault},
      Fidget.ResumesElsewhere select quad resumes resume → select ≠ none := by
    intro select quad resumes resume h
    obtain ⟨failed, hselect, -⟩ := h.lost
    rw [hselect]
    exact Option.some_ne_none failed
  cases transaction with
  | preview fault save cancellationRequested session request recoveryJournalPath =>
      refine (previewTransactionWrites_park fault save cancellationRequested recoveryJournalPath
        request bench session hparked).2.trans (not_congr ?_)
      exact ⟨fun h => ⟨⟨h.1, h.2.1, hlost h.2.2⟩, h.2.2⟩, fun h => ⟨h.1.1, h.1.2.1, h.2⟩⟩
  | sourceChange fault save cancellationRequested session request recoveryJournalPath =>
      refine (sourceChangeWrites_park fault save cancellationRequested recoveryJournalPath
        request bench session hparked).2.trans (not_congr ?_)
      exact ⟨fun h => ⟨⟨h.1, h.2.1, hlost h.2.2⟩, h.2.2⟩, fun h => ⟨h.1.1, h.1.2.1, h.2⟩⟩
  -- these two enable nothing at all
  | repair fault cancellationRequested request ownershipGate =>
      refine iff_of_true ?_ And.right
      exact enablesParked_of_none (repairFw2051ScpProfileValue_sent fault cancellationRequested
        bench request ownershipGate).2 bench
  | application fault cancellationRequested request ownershipGate =>
      refine iff_of_true ?_ And.right
      exact enablesParked_of_none (applyFw2051ScpProfileWrites_sent fault cancellationRequested
        bench request ownershipGate).2 bench

/-- A transaction that is allowed everything parks its selections unless the first one is lost. -/
theorem parksAfterSelecting_writes_iff (transaction : SelectorTransaction)
    (hparked : bench.selector = 0) (hallowed : transaction.Allowed) :
    ParksAfterSelecting (transaction.writes bench) ↔ ¬transaction.LosesSelection bench := by
  cases transaction with
  | preview fault save cancellationRequested session request recoveryJournalPath =>
      exact (previewTransactionWrites_park fault save cancellationRequested recoveryJournalPath
        request bench session hparked).1
  | sourceChange fault save cancellationRequested session request recoveryJournalPath =>
      exact (sourceChangeWrites_park fault save cancellationRequested recoveryJournalPath
        request bench session hparked).1
  | repair fault cancellationRequested request ownershipGate =>
      cases ownershipGate with
      -- without a gate the request is refused, and nothing is sent
      | none =>
          refine iff_of_true ?_ fun h => h.1 rfl
          have hsent : (repairFw2051ScpProfileValue fault cancellationRequested bench request
              none).sent = [] := by
            unfold repairFw2051ScpProfileValue
            dsimp only
            split
            · rfl
            · cases findFw2051ScpSetting request.registerOffset <;> rfl
          exact (congrArg ParksAfterSelecting hsent).mpr trivial
      | some gate =>
          refine (repairFw2051ScpProfileValue_park cancellationRequested
            (hallowed.2 gate rfl)).trans (not_congr ?_)
          exact (and_iff_right (Option.some_ne_none gate)).symm
  | application fault cancellationRequested request ownershipGate =>
      cases ownershipGate with
      | none =>
          refine iff_of_true ?_ fun ⟨gate, hgate, _⟩ => Option.some_ne_none gate hgate.symm
          have hsent : applyFw2051ScpProfileWrites fault cancellationRequested bench request
              none = [] := by
            unfold applyFw2051ScpProfileWrites applyFw2051ScpProfileRun
            dsimp only
            split <;> rfl
          exact (congrArg ParksAfterSelecting hsent).mpr trivial
      | some gate =>
          refine (applyFw2051ScpProfileWrites_park cancellationRequested
            (hallowed.2 gate rfl)).trans (not_congr ?_)
          exact ⟨fun h => ⟨gate, rfl, h⟩, fun ⟨_, hgate, h⟩ => Option.some.inj hgate ▸ h⟩

end SelectorTransaction

/-- A transaction that may do everything keeps the selector in order, on the way and in the end,
exactly when the answer to its first selection is not lost. -/
theorem selectorTransaction_keepsParked_iff (transaction : SelectorTransaction) (bench : Bench)
    (hparked : bench.selector = 0) :
    CallTrace.replay SentWrite.effect (transaction.writes bench) bench = transaction.after bench ∧
    ((EnablesParked (transaction.writes bench) bench ∧
        (transaction.Allowed → ParksAfterSelecting (transaction.writes bench))) ↔
      ¬(transaction.LosesSelection bench ∧
        (transaction.Allowed ∨ transaction.ResumesElsewhere))) := by
  refine ⟨transaction.replay_writes bench, ?_⟩
  rw [transaction.enablesParked_writes_iff hparked, not_and_or, not_and_or, not_or]
  by_cases hallowed : transaction.Allowed
  · rw [transaction.parksAfterSelecting_writes_iff hparked hallowed]
    tauto
  · tauto

/-! ### A selection that is lost -/

/-- A gain of the third bank is to be previewed. -/
def previewOfThirdBank (fault : PreviewSite → Option Fault) : SelectorTransaction :=
  .preview fault (fun _ record _ => saveValidRecord record) false runningSession
    { selectedQuad := 3, registerOffset := 0x611A, requestedValue := 1200 } "recovery.journal"

/-- With every call answered the selector is in order all the way. -/
theorem selectorTransaction_keepsParked_iff_example :
    let transaction := previewOfThirdBank fun _ => none
    previewModule.selector = 0 ∧ EnablesParked (transaction.writes previewModule) previewModule ∧
      (transaction.Allowed → ParksAfterSelecting (transaction.writes previewModule)) := by
  have hkept := (selectorTransaction_keepsParked_iff (previewOfThirdBank fun _ => none)
    previewModule rfl).2
  refine ⟨rfl, hkept.mpr ?_⟩
  rintro ⟨⟨-, -, hlost⟩, -⟩
  exact hlost rfl

/-- The third bank is selected, but the answer does not arrive. -/
def lostSelectionFault : PreviewSite → Option Fault
  | .select => some ⟨"The response timed out.", true⟩
  | _ => none

/-- The acquisition is resumed on the third bank, and the selector is not parked. -/
theorem selectorTransaction_keepsParked_counterexample :
    let transaction := previewOfThirdBank lostSelectionFault
    previewModule.selector = 0 ∧ transaction.Allowed ∧
      ¬EnablesParked (transaction.writes previewModule) previewModule ∧
      ¬ParksAfterSelecting (transaction.writes previewModule) := by
  intro transaction
  have hlost : transaction.LosesSelection previewModule := by
    refine ⟨⟨⟨_, rfl⟩, ?_⟩, ⟨rfl, rfl, rfl⟩, nofun⟩
    decide +kernel
  have hresumes : transaction.ResumesElsewhere :=
    ⟨⟨_, rfl, rfl⟩, by decide, rfl, ⟨rfl, rfl⟩⟩
  refine ⟨rfl, rfl, fun henables => ?_, fun hparks => ?_⟩
  · exact (transaction.enablesParked_writes_iff rfl).mp henables ⟨hlost, hresumes⟩
  · exact (transaction.parksAfterSelecting_writes_iff rfl rfl).mp hparks hlost

end Fidget
