import Fidget.Hardware.ScpCapture.Rules
import Fidget.Hardware.SentWrites

/-!
# The calls of a capture, one after another

A capture reports its selector writes, but not what its gate and its checkpoints answered in between.
Here its calls are logged as they are made. The log shows that nothing is sent once an answer has
forbidden it, and its writes account for all that the capture does to a module.

A capture takes its calls as parameters. Here they are given as calls that in addition note
themselves in a log, so the log belongs to the very capture it is taken from. What a log shows is
then an invariant of single calls, and `ScpCapture.Rules` carries it through the capture.

## Main results

- `captureThrough_logged`: logging leaves the capture as it is.
- `sendsBeforeRefusals_captureFw2051ScpConfigurationEvents`: nothing is sent after a refusal.
- `replay_captureFw2051ScpConfigurationWrites`: the writes of the log lead to the module that the
  capture leaves behind.
-/

namespace Fidget

/-! ### Calls that are logged -/

/-- A call that a capture has made, with what decides how it goes on. -/
inductive CaptureEvent where
  | read (site : CaptureSite)
  | write (site : CaptureSite) (registerOffset value : UInt16)
  | gate (site : CaptureGate) (status : ScpCaptureGateStatus)
  | checkpoint (checkpoint : ScpCaptureCheckpoint) (passed : Bool)
  deriving DecidableEq, Repr

namespace CaptureEvent

/-- An answer that forbids every further write. -/
def Refuses : CaptureEvent → Prop
  | .gate _ status => status ≠ .allowed
  | .checkpoint _ passed => passed = false
  | _ => False

def Sends : CaptureEvent → Prop
  | .write _ _ _ => True
  | _ => False

/-- The write of an event, with how its call went. -/
def sentWrite? (fault : CaptureSite → Option Fault) : CaptureEvent → Option SentWrite
  | .write site registerOffset value => some (.vme registerOffset value (site = .park) (fault site))
  | _ => none

end CaptureEvent

section Logged

variable {σ : Type} (calls : CaptureCalls σ)

/-- The same calls, each of them logged. -/
def CaptureCalls.logged : CaptureCalls (σ × List CaptureEvent) where
  readVmeD16 := fun site registerOffset (s, events) =>
    let (answer, s) := calls.readVmeD16 site registerOffset s
    (answer, s, events ++ [.read site])
  writeVmeD16 := fun site registerOffset value (s, events) =>
    let (error, s) := calls.writeVmeD16 site registerOffset value s
    (error, s, events ++ [.write site registerOffset value])
  ownershipGate := fun site (s, events) =>
    let (answer, s) := calls.ownershipGate site s
    (answer, s, events ++ [.gate site answer.status])
  checkpoint := fun checkpoint (s, events) =>
    let (passed, s) := calls.checkpoint checkpoint s
    (passed, s, events ++ [.checkpoint checkpoint passed])
  gateBeforeFirstSelector := calls.gateBeforeFirstSelector

/-! ### Nothing is sent after a refusal

The gate, a checkpoint or a cancellation may refuse. The capture may still read after that, but
writes no more. -/

/-- No write comes after an answer that forbids it. -/
def SendsBeforeRefusals (events : List CaptureEvent) : Prop :=
  events.Pairwise fun earlier later => earlier.Refuses → ¬later.Sends

variable {calls}

/-- Without a refusal so far, one more event is in order. -/
theorem sendsBeforeRefusals_append {events : List CaptureEvent}
    (h : ∀ event ∈ events, ¬event.Refuses) (event : CaptureEvent) :
    SendsBeforeRefusals (events ++ [event]) := by
  apply List.pairwise_append.mpr
  refine ⟨?_, List.pairwise_singleton _ _, ?_⟩
  · exact List.pairwise_of_forall_mem_list fun earlier hearlier _ _ hrefuses =>
      absurd hrefuses (h earlier hearlier)
  · exact fun earlier hearlier _ _ hrefuses => absurd hrefuses (h earlier hearlier)

theorem unrefused_append {events : List CaptureEvent} (h : ∀ event ∈ events, ¬event.Refuses)
    {event : CaptureEvent} (hevent : ¬event.Refuses) :
    ∀ event' ∈ events ++ [event], ¬event'.Refuses := by
  intro event' hmem
  rcases List.mem_append.mp hmem with hbefore | hlast
  · exact h event' hbefore
  · rw [List.mem_singleton.mp hlast]
    exact hevent

/-- As long as nothing is refused, the log may grow. -/
theorem keeps_logged : calls.logged.Keeps (fun s => SendsBeforeRefusals s.2)
    (fun s => ∀ event ∈ s.2, ¬event.Refuses) where
  always := fun s h => List.pairwise_of_forall_mem_list fun earlier hearlier _ _ hrefuses =>
    absurd hrefuses (h earlier hearlier)
  read := fun _ _ _ h => unrefused_append h id
  write := fun _ _ _ h => unrefused_append h id
  gate := by
    intro site s h
    refine ⟨sendsBeforeRefusals_append h _, fun hallowed => unrefused_append h ?_⟩
    exact not_not.mpr hallowed
  checkpoint := by
    intro checkpoint s h
    refine ⟨sendsBeforeRefusals_append h _, fun hpassed => unrefused_append h ?_⟩
    exact fun hrefused => Bool.false_ne_true (hrefused.symm.trans hpassed)

/-! ### Logging changes nothing

Function by function: a capture with logged calls does what the capture does, and the log is
something besides. -/

/-- A capture whose calls are logged, without the log. -/
def CaptureProgress.unlogged (progress : CaptureProgress (σ × List CaptureEvent)) :
    CaptureProgress σ where
  outside := progress.outside.1
  operation := progress.operation
  failure := progress.failure
  selectionAttempted := progress.selectionAttempted
  ownershipCertain := progress.ownershipCertain

namespace CaptureProgress

variable (progress : CaptureProgress (σ × List CaptureEvent))

theorem unlogged_pass (checkpoint : ScpCaptureCheckpoint) (failure : String) :
    (progress.pass calls.logged checkpoint failure).unlogged =
      progress.unlogged.pass calls checkpoint failure := by
  unfold pass
  dsimp only [CaptureCalls.logged, unlogged]
  split <;> rfl

theorem unlogged_captureGlobal (read : GlobalRead) :
    (captureGlobal calls.logged progress read).unlogged =
      captureGlobal calls progress.unlogged read := by
  unfold captureGlobal
  by_cases hfailed : progress.failure ≠ ""
  · rw [if_pos hfailed, if_pos (show progress.unlogged.failure ≠ "" from hfailed)]
  · rw [if_neg hfailed, if_neg (show ¬progress.unlogged.failure ≠ "" from hfailed)]
    dsimp only [CaptureCalls.logged, unlogged]
    cases (calls.readVmeD16 (.globalRead read.registerOffset) read.registerOffset
        progress.outside.1).1 with
    | error error => rfl
    | ok value =>
        dsimp only
        exact unlogged_pass _ _ _

theorem unlogged_checkIdentity :
    (checkIdentity progress).unlogged = checkIdentity progress.unlogged := by
  unfold checkIdentity
  rw [apply_ite unlogged, apply_ite unlogged, apply_ite unlogged]
  rfl

theorem unlogged_writeSelector (site : CaptureSite) (value : UInt16) (parkingWrite : Bool) :
    writeSelector calls progress.unlogged site value parkingWrite =
      ((writeSelector calls.logged progress site value parkingWrite).1,
        (writeSelector calls.logged progress site value parkingWrite).2.unlogged) := rfl

theorem unlogged_captureRegister (quadIndex : UInt16) (quad : Fw2051ScpQuadConfiguration)
    (definition : Fw2051ScpSettingDefinition) :
    captureRegister calls quadIndex (progress.unlogged, quad) definition =
      ((captureRegister calls.logged quadIndex (progress, quad) definition).1.unlogged,
        (captureRegister calls.logged quadIndex (progress, quad) definition).2) := by
  by_cases hfailed : progress.failure ≠ ""
  · have hunlogged : progress.unlogged.failure ≠ "" := hfailed
    rw [captureRegister, captureRegister, if_pos hfailed, if_pos hunlogged]
  · have hunlogged : ¬progress.unlogged.failure ≠ "" := hfailed
    obtain ⟨answer, outside, hread⟩ : ∃ answer outside, calls.readVmeD16
        (.bankedRead quadIndex definition.registerOffset) definition.registerOffset
          progress.unlogged.outside = (answer, outside) := ⟨_, _, rfl⟩
    have hlogged : calls.logged.readVmeD16 (.bankedRead quadIndex definition.registerOffset)
        definition.registerOffset progress.outside = (answer, outside,
          progress.outside.2 ++ [.read (.bankedRead quadIndex definition.registerOffset)]) := by
      show ((calls.readVmeD16 _ _ progress.unlogged.outside).1,
        (calls.readVmeD16 _ _ progress.unlogged.outside).2, _) = _
      rw [hread]
    simp only [captureRegister, if_neg hfailed, if_neg hunlogged, hread, hlogged]
    cases answer with
    | error error => rfl
    | ok value =>
        dsimp only
        cases setFw2051ScpQuadRegisterValue quad definition.registerOffset value with
        | none => rfl
        | some quad =>
            dsimp only
            rw [unlogged_pass]
            rfl

theorem unlogged_foldl_captureRegister (quadIndex : UInt16) (quad : Fw2051ScpQuadConfiguration)
    (definitions : List Fw2051ScpSettingDefinition) :
    definitions.foldl (captureRegister calls quadIndex) (progress.unlogged, quad) =
      ((definitions.foldl (captureRegister calls.logged quadIndex)
          (progress, quad)).1.unlogged,
        (definitions.foldl (captureRegister calls.logged quadIndex) (progress, quad)).2) := by
  induction definitions generalizing progress quad with
  | nil => rfl
  | cons definition definitions ih =>
      rw [List.foldl_cons, List.foldl_cons, unlogged_captureRegister]
      exact ih _ _

theorem unlogged_captureSelectedQuad (quadIndex : UInt16) :
    (captureSelectedQuad calls.logged progress quadIndex).unlogged =
      captureSelectedQuad calls progress.unlogged quadIndex := by
  have hwritten := @unlogged_writeSelector σ calls
    { progress with selectionAttempted := true } (.select quadIndex) quadIndex false
  unfold captureSelectedQuad
  rw [show ({ progress.unlogged with selectionAttempted := true } : CaptureProgress σ) =
    unlogged { progress with selectionAttempted := true } from rfl, hwritten]
  generalize writeSelector calls.logged _ _ _ _ = answer
  obtain ⟨error, written⟩ := answer
  cases error with
  | some error => rfl
  | none =>
      dsimp only
      rw [← unlogged_pass, unlogged_foldl_captureRegister]
      generalize fw2051ScpSettingRegistry.foldl _ (pass _ _ _ written, _) = captured
      rw [apply_ite unlogged]
      rfl

theorem unlogged_captureQuad (quadIndex : UInt16) :
    (captureQuad calls.logged progress quadIndex).unlogged =
      captureQuad calls progress.unlogged quadIndex := by
  unfold captureQuad
  rw [apply_ite unlogged, apply_ite unlogged, unlogged_captureSelectedQuad]
  dsimp only
  rw [apply_ite unlogged, unlogged_captureSelectedQuad]
  rfl

theorem unlogged_captureQuads (quadIndexes : List UInt16) :
    (quadIndexes.foldl (captureQuad calls.logged) progress).unlogged =
      quadIndexes.foldl (captureQuad calls) progress.unlogged := by
  induction quadIndexes generalizing progress with
  | nil => rfl
  | cons quadIndex quadIndexes ih =>
      rw [List.foldl_cons, List.foldl_cons, ih, unlogged_captureQuad]

theorem unlogged_captureParkingWrite :
    (captureParkingWrite calls.logged progress).unlogged =
      captureParkingWrite calls progress.unlogged := by
  have hwritten := @unlogged_writeSelector σ calls progress .park 0 true
  unfold captureParkingWrite
  rw [hwritten]
  generalize writeSelector calls.logged _ _ _ _ = answer
  obtain ⟨error, written⟩ := answer
  cases error with
  | some error => rfl
  | none =>
      dsimp only
      exact unlogged_pass _ _ _

theorem unlogged_captureParking :
    (captureParking calls.logged progress).unlogged =
      captureParking calls progress.unlogged := by
  unfold captureParking
  rw [apply_ite unlogged]
  dsimp only
  rw [apply_ite unlogged, unlogged_captureParkingWrite]
  rfl

theorem unlogged_captureRegisters :
    (captureRegisters calls.logged progress).unlogged =
      captureRegisters calls progress.unlogged := by
  have hglobals (reads : List GlobalRead) (progress : CaptureProgress (σ × List CaptureEvent)) :
      (reads.foldl (captureGlobal calls.logged) progress).unlogged =
        reads.foldl (captureGlobal calls) progress.unlogged := by
    induction reads generalizing progress with
    | nil => rfl
    | cons read reads ih =>
        rw [List.foldl_cons, List.foldl_cons, ih, unlogged_captureGlobal]
  unfold captureRegisters
  rw [unlogged_captureParking, unlogged_captureQuads, unlogged_checkIdentity, hglobals]

end CaptureProgress

/-- Logging leaves the capture as it is. -/
theorem captureThrough_logged (baseAddress : UInt32) (outside : σ) (events : List CaptureEvent) :
    let logged := captureThrough calls.logged baseAddress (outside, events)
    (logged.1, logged.2.1) = captureThrough calls baseAddress outside := by
  unfold captureThrough
  by_cases haligned : baseAddress &&& 0xFFFF ≠ 0
  · rw [if_pos haligned, if_pos haligned]
  · rw [if_neg haligned, if_neg haligned]
    obtain ⟨answer, outside', hgate⟩ : ∃ answer outside',
        calls.ownershipGate .snapshot outside = (answer, outside') := ⟨_, _, rfl⟩
    have hlogged : calls.logged.ownershipGate .snapshot (outside, events) =
        (answer, outside', events ++ [.gate .snapshot answer.status]) := by
      show ((calls.ownershipGate _ outside).1, (calls.ownershipGate _ outside).2,
        events ++ [.gate .snapshot (calls.ownershipGate _ outside).1.status]) = _
      rw [hgate]
    rw [hgate, hlogged]
    dsimp only
    by_cases hallowed : answer.status ≠ .allowed
    · rw [if_pos hallowed, if_pos hallowed]
    · rw [if_neg hallowed, if_neg hallowed]
      have hrun := @CaptureProgress.unlogged_captureRegisters σ calls {
        outside := (outside', events ++ [.gate .snapshot answer.status])
        operation := {
          configuration := { state := .reading, baseAddress }
          lastGateStatus := answer.status } }
      generalize captureRegisters calls.logged _ = run at hrun ⊢
      have hstart : captureRegisters calls {
          outside := outside'
          operation := {
            configuration := { state := .reading, baseAddress }
            lastGateStatus := answer.status } } = run.unlogged := hrun.symm
      rw [hstart]
      rfl

/-! ### The writes of a log

The only register that is written to is the selector. -/

def sentWrites (fault : CaptureSite → Option Fault) (events : List CaptureEvent) :
    List SentWrite :=
  events.filterMap (CaptureEvent.sentWrite? fault)

theorem sentWrites_append (fault : CaptureSite → Option Fault) (events : List CaptureEvent)
    (event : CaptureEvent) :
    sentWrites fault (events ++ [event]) =
      sentWrites fault events ++ (event.sentWrite? fault).toList := by
  unfold sentWrites
  rw [List.filterMap_append]
  cases hsent : event.sentWrite? fault with
  | none => rw [List.filterMap_cons_none hsent]; rfl
  | some write => rw [List.filterMap_cons_some hsent]; rfl

theorem sentWrites_aside (fault : CaptureSite → Option Fault) {events : List CaptureEvent}
    {event : CaptureEvent} (h : event.sentWrite? fault = none) :
    sentWrites fault (events ++ [event]) = sentWrites fault events := by
  rw [sentWrites_append, h]
  exact List.append_nil _

/-- Every write goes to the selector. -/
def WritesSelector (events : List CaptureEvent) : Prop :=
  ∀ site registerOffset value, .write site registerOffset value ∈ events →
    registerOffset = fw2051ScpSelectorRegister

theorem WritesSelector.append {events : List CaptureEvent} (h : WritesSelector events)
    {event : CaptureEvent} (hevent : WritesSelector [event]) : WritesSelector (events ++ [event]) := by
  intro site registerOffset value hmem
  rcases List.mem_append.mp hmem with hbefore | hlast
  · exact h site registerOffset value hbefore
  · exact hevent site registerOffset value hlast

/-- Only a write can go elsewhere. -/
theorem writesSelector_singleton {event : CaptureEvent} (h : ¬event.Sends) :
    WritesSelector [event] := by
  intro site registerOffset value hmem
  rw [← List.mem_singleton.mp hmem] at h
  exact absurd trivial h

theorem keeps_writesSelector : calls.logged.Keeps (fun s => WritesSelector s.2)
    (fun s => WritesSelector s.2) where
  always := fun _ h => h
  read := fun _ _ _ h => h.append (writesSelector_singleton id)
  write := by
    intro site value s h
    refine h.append fun site' registerOffset value' hmem => ?_
    cases List.mem_singleton.mp hmem
    rfl
  gate := fun _ _ h => ⟨h.append (writesSelector_singleton id),
    fun _ => h.append (writesSelector_singleton id)⟩
  checkpoint := fun _ _ h => ⟨h.append (writesSelector_singleton id),
    fun _ => h.append (writesSelector_singleton id)⟩

end Logged

/-! ### On a module alone

With the calls of a module, replaying the writes of the log gives the module at the end. -/

section Bench

variable (fault : CaptureSite → Option Fault) (gate : CaptureGate → ScpCaptureGateResult)
  (runtime : ScpCaptureRuntime)

/-- The calls to a module, logged. -/
abbrev loggedOnBench : CaptureCalls (Bench × List CaptureEvent) :=
  (CaptureCalls.onBench fault gate runtime).logged

variable {fault gate runtime} in
/-- The writes of the log lead from the module at the start to the module as it is. -/
theorem keeps_replay (start : Bench) : (loggedOnBench fault gate runtime).Keeps
    (fun s => CallTrace.replay SentWrite.effect (sentWrites fault s.2) start = s.1)
    (fun s => CallTrace.replay SentWrite.effect (sentWrites fault s.2) start = s.1) := by
  have haside {bench : Bench} {events : List CaptureEvent} {event : CaptureEvent}
      (hsent : event.sentWrite? fault = none)
      (h : CallTrace.replay SentWrite.effect (sentWrites fault events) start = bench) :
      CallTrace.replay SentWrite.effect (sentWrites fault (events ++ [event])) start = bench := by
    rw [sentWrites_aside fault hsent]
    exact h
  exact {
    always := fun _ h => h
    read := fun _ _ _ h => haside rfl h
    write := by
      intro site value s h
      show CallTrace.replay SentWrite.effect (sentWrites fault
        (s.2 ++ [.write site fw2051ScpSelectorRegister value])) start = _
      rw [sentWrites_append, CallTrace.replay_append, h]
      rfl
    gate := fun _ _ h => ⟨haside rfl h, fun _ => haside rfl h⟩
    checkpoint := fun _ _ h => ⟨haside rfl h, fun _ => haside rfl h⟩ }

end Bench

/-! ### The capture as a whole -/

/-- The calls that `captureFw2051ScpConfiguration` makes. Without a gate it makes none. -/
def captureFw2051ScpConfigurationEvents (fault : CaptureSite → Option Fault) (bench : Bench)
    (baseAddress : UInt32) (ownershipGate : Option (CaptureGate → ScpCaptureGateResult))
    (runtime : ScpCaptureRuntime := {}) : List CaptureEvent :=
  match ownershipGate with
  | none => []
  | some gate =>
    (captureThrough (loggedOnBench fault gate runtime) baseAddress (bench, [])).2.2

/-- The writes that `captureFw2051ScpConfiguration` sends. -/
def captureFw2051ScpConfigurationWrites (fault : CaptureSite → Option Fault) (bench : Bench)
    (baseAddress : UInt32) (ownershipGate : Option (CaptureGate → ScpCaptureGateResult))
    (runtime : ScpCaptureRuntime := {}) : List SentWrite :=
  sentWrites fault
    (captureFw2051ScpConfigurationEvents fault bench baseAddress ownershipGate runtime)

section Capture

variable (fault : CaptureSite → Option Fault) (bench : Bench) (baseAddress : UInt32)
  (ownershipGate : Option (CaptureGate → ScpCaptureGateResult)) (runtime : ScpCaptureRuntime)

/-- The log is one of the very capture that is made. -/
theorem captureThrough_loggedOnBench (gate : CaptureGate → ScpCaptureGateResult) :
    let logged := captureThrough (loggedOnBench fault gate runtime) baseAddress (bench, [])
    (logged.1, logged.2.1) =
      captureFw2051ScpConfiguration fault bench baseAddress (some gate) runtime :=
  captureThrough_logged baseAddress bench []

/-- What the calls keep from an empty log on holds of the whole log. -/
theorem captureFw2051ScpConfigurationEvents_keeps {I F : Bench × List CaptureEvent → Prop}
    (hcalls : ∀ gate, (loggedOnBench fault gate runtime).Keeps I F) (hstart : F (bench, [])) :
    I ((captureFw2051ScpConfiguration fault bench baseAddress ownershipGate runtime).2,
      captureFw2051ScpConfigurationEvents fault bench baseAddress ownershipGate runtime) := by
  cases ownershipGate with
  | none => exact (hcalls fun _ => { status := .allowed }).always _ hstart
  | some gate =>
      have hkept := (captureThrough_keeps (hcalls gate) baseAddress hstart).1
      have hlogged := captureThrough_loggedOnBench fault bench baseAddress runtime gate
      rw [← hlogged]
      exact hkept

theorem sendsBeforeRefusals_captureFw2051ScpConfigurationEvents :
    SendsBeforeRefusals
      (captureFw2051ScpConfigurationEvents fault bench baseAddress ownershipGate runtime) :=
  captureFw2051ScpConfigurationEvents_keeps fault bench baseAddress ownershipGate runtime
    (fun _ => keeps_logged) fun _ hmem => absurd hmem List.not_mem_nil

theorem writesSelector_captureFw2051ScpConfigurationEvents : WritesSelector
    (captureFw2051ScpConfigurationEvents fault bench baseAddress ownershipGate runtime) :=
  captureFw2051ScpConfigurationEvents_keeps fault bench baseAddress ownershipGate runtime
    (fun _ => keeps_writesSelector) fun _ _ _ hmem => absurd hmem List.not_mem_nil

/-- The writes account for all that a capture does to the module, and enable nothing. -/
theorem replay_captureFw2051ScpConfigurationWrites :
    let writes := captureFw2051ScpConfigurationWrites fault bench baseAddress ownershipGate runtime
    CallTrace.replay SentWrite.effect writes bench =
        (captureFw2051ScpConfiguration fault bench baseAddress ownershipGate runtime).2 ∧
      ∀ write ∈ writes, ¬write.Enables := by
  refine ⟨captureFw2051ScpConfigurationEvents_keeps fault bench baseAddress ownershipGate runtime
    (fun _ => keeps_replay bench) rfl, fun write hwrite => ?_⟩
  obtain ⟨event, hevent, hsent⟩ := List.mem_filterMap.mp hwrite
  cases event with
  | write site registerOffset value =>
      cases writesSelector_captureFw2051ScpConfigurationEvents fault bench baseAddress ownershipGate
        runtime site registerOffset value hevent
      cases hsent
      exact not_enables_selector
  | read site => cases hsent
  | gate site status => cases hsent
  | checkpoint checkpoint passed => cases hsent

end Capture

end Fidget
