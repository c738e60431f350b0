import Fidget.Core.RecoveryJournalV5.Verified
import Fidget.Lib.WriteAhead

/-!
# Deviations written ahead

A tuning session appends a deviation to its version 5 journal before every register write. Whatever
the session is cut at, the last deviation of a register says what the register can hold, and
`ClassifyTunerRecoveryV5LiveValue` decides from it what to do.

The general side of this is in `Lib.WriteAhead`: a log that notes every change before it is made,
with the value it starts from, explains what is found after a cut. Here the deviations of a journal
are read as such a log, the validator is shown to check that it continues without a gap at every
place, and the classification is shown to decide by the last note.

## Main results

- `validateV5Data_recovers`: for every session that is cut at any point, the live value of a
  register and the last deviation that names it decide correctly whether it has to be restored.
-/

namespace Fidget.RecoveryJournalV5

open TokenText RecoveryJournal WriteAhead

/-! ### Classification of a live value

The source compares the live value with three values of the deviation: the original of the session,
the one before the write and the one that was requested. -/

/-- Which of the values of a deviation the live value is. -/
inductive TunerRecoveryLiveValueEvidence where
  | none
  | originalSession
  | previousVerifiedWorking
  | requestedNext
  deriving DecidableEq, Repr

/-- What recovery does about it. -/
inductive TunerRecoveryLiveValueAction where
  | blockAndRetain
  | noWriteAlreadyOriginal
  | restoreOriginal
  deriving DecidableEq, Repr

structure TunerRecoveryEvidenceDefinedValue where
  evidence : TunerRecoveryLiveValueEvidence := .none
  value : UInt16 := 0
  action : TunerRecoveryLiveValueAction := .blockAndRetain
  deriving DecidableEq, Repr

structure TunerRecoveryLiveValueDecision where
  evidence : TunerRecoveryLiveValueEvidence := .none
  action : TunerRecoveryLiveValueAction := .blockAndRetain
  deriving DecidableEq, Repr

def tunerRecoveryV5EvidenceDefinedValues (deviation : TunerRecoveryV5Deviation) :
    List TunerRecoveryEvidenceDefinedValue := [
  ⟨.originalSession, deviation.originalSessionValue, .noWriteAlreadyOriginal⟩,
  ⟨.previousVerifiedWorking, deviation.previousVerifiedWorkingValue, .restoreOriginal⟩,
  ⟨.requestedNext, deviation.requestedNextValue, .restoreOriginal⟩]

/-- The live value may be the original one, the one before the last write or the one of the last
write. -/
def classifyTunerRecoveryV5LiveValue (deviation : TunerRecoveryV5Deviation) (liveValue : UInt16) :
    TunerRecoveryLiveValueDecision :=
  match (tunerRecoveryV5EvidenceDefinedValues deviation).find? (liveValue = ·.value) with
  | some accepted => ⟨accepted.evidence, accepted.action⟩
  | none => {}

/-- A register that holds its original value is left alone. -/
theorem classify_of_eq {deviation : TunerRecoveryV5Deviation} {liveValue : UInt16}
    (h : liveValue = deviation.originalSessionValue) :
    (classifyTunerRecoveryV5LiveValue deviation liveValue).action = .noWriteAlreadyOriginal := by
  simp [classifyTunerRecoveryV5LiveValue, tunerRecoveryV5EvidenceDefinedValues, h]

/-- A register that holds another value of the session's is restored. -/
theorem classify_of_ne {deviation : TunerRecoveryV5Deviation} {liveValue : UInt16}
    (h : liveValue ≠ deviation.originalSessionValue)
    (hlive : liveValue = deviation.previousVerifiedWorkingValue ∨
      liveValue = deviation.requestedNextValue) :
    (classifyTunerRecoveryV5LiveValue deviation liveValue).action = .restoreOriginal := by
  unfold classifyTunerRecoveryV5LiveValue tunerRecoveryV5EvidenceDefinedValues
  by_cases hprevious : liveValue = deviation.previousVerifiedWorkingValue
  · simp [h, ← hprevious]
  · have hnext := hlive.resolve_left hprevious
    simp [h, hprevious, ← hnext]

/-! ### Where a deviation is

A deviation is about one of two global registers or about a register of a quad. The validator tells
them apart by a number, which is different for different places as long as scope and quad fit
together. -/

/-- Where a deviation is, whether or not there is such a register. -/
structure DeviationLocation where
  scope : TunerRecoveryDeviationScope
  quad : Option UInt16
  registerOffset : UInt16
  deriving DecidableEq, Repr

def deviationLocation (deviation : TunerRecoveryV5Deviation) : DeviationLocation :=
  ⟨deviation.scope, deviation.quad, deviation.registerOffset⟩

/-- How a deviation tells of its register, for the general development. -/
def deviationReading : Reading TunerRecoveryV5Deviation DeviationLocation UInt16 where
  key := deviationLocation
  previous := (·.previousVerifiedWorkingValue)
  next := (·.requestedNextValue)

/-- The value of a place in the snapshot. -/
def DeviationLocation.value (location : DeviationLocation)
    (snapshot : Fw2051ScpConfigurationSnapshot) : Option UInt16 :=
  snapshotValue snapshot
    { scope := location.scope, quad := location.quad, registerOffset := location.registerOffset }

theorem value_deviationLocation (snapshot : Fw2051ScpConfigurationSnapshot)
    (deviation : TunerRecoveryV5Deviation) :
    (deviationLocation deviation).value snapshot = snapshotValue snapshot deviation := rfl

/-- The number the validator finds a location under. -/
theorem deviationLocationKey_toNat (deviation : TunerRecoveryV5Deviation) :
    (deviationLocationKey deviation).toNat =
      (if deviation.scope = .quad then 2 ^ 32 else 0) +
        (deviation.quad.getD 0).toNat * 2 ^ 16 + deviation.registerOffset.toNat := by
  have hscope : (if deviation.scope = .quad then (1 : UInt64) <<< 32 else 0).toNat =
      (if deviation.scope = .quad then 1 else 0) <<< 32 := by
    split <;> rfl
  -- the three shifted parts overlap in no bit, so their disjunction is their sum
  have hor : ∀ {scope quad registerOffset : Nat}, quad < 2 ^ 16 → registerOffset < 2 ^ 16 →
      scope <<< 32 ||| quad <<< 16 ||| registerOffset =
        scope * 2 ^ 32 + quad * 2 ^ 16 + registerOffset := by
    intro scope quad registerOffset hquad hregister
    rw [Nat.or_assoc, ← Nat.shiftLeft_add_eq_or_of_lt hregister,
      ← Nat.shiftLeft_add_eq_or_of_lt (by rw [Nat.shiftLeft_eq]; omega)]
    simp only [Nat.shiftLeft_eq]
    omega
  have hr := deviation.registerOffset.toNat_lt
  unfold deviationLocationKey
  cases deviation.quad with
  | none =>
      simp only [UInt64.toNat_or, UInt16.toNat_toUInt64, hscope]
      have h := @hor (if deviation.scope = .quad then 1 else 0) 0 _ (Nat.two_pow_pos 16) hr
      rw [Nat.zero_shiftLeft] at h
      rw [show (0 : UInt64).toNat = 0 from rfl, h]
      split <;> rfl
  | some quad =>
      have hq := quad.toNat_lt
      have hshift : (quad.toUInt64 <<< 16).toNat = quad.toNat <<< 16 := by
        rw [UInt64.toNat_shiftLeft, UInt16.toNat_toUInt64]
        apply Nat.mod_eq_of_lt
        show quad.toNat <<< 16 < 2 ^ 64
        rw [Nat.shiftLeft_eq]
        omega
      simp only [UInt64.toNat_or, UInt16.toNat_toUInt64, hscope, hshift, Option.getD_some]
      rw [hor hq hr]
      split <;> rfl

/-- Two deviations whose scope and quad agree are at one location if their keys are equal. -/
theorem deviationLocation_of_key {d d' : TunerRecoveryV5Deviation} (hd : ShapedDeviation d)
    (hd' : ShapedDeviation d') (h : deviationLocationKey d = deviationLocationKey d') :
    deviationLocation d = deviationLocation d' := by
  have hkey := congrArg UInt64.toNat h
  rw [deviationLocationKey_toNat, deviationLocationKey_toNat] at hkey
  have hq := (d.quad.getD 0).toNat_lt
  have hq' := (d'.quad.getD 0).toNat_lt
  have hr := d.registerOffset.toNat_lt
  have hr' := d'.registerOffset.toNat_lt
  -- the scope is a bit of its own in the number, and the others are digits of it
  have hscope : d.scope = .quad ↔ d'.scope = .quad := by
    constructor <;> intro hs <;> by_contra hs' <;> simp only [hs, hs', if_true, if_false] at hkey <;>
      omega
  have hquad : (d.quad.getD 0).toNat = (d'.quad.getD 0).toNat := by
    simp only [hscope] at hkey
    omega
  have hregister : d.registerOffset.toNat = d'.registerOffset.toNat := by
    simp only [hscope] at hkey
    omega
  have hquad' : d.quad.getD 0 = d'.quad.getD 0 := UInt16.toNat_inj.mp hquad
  have hregister' : d.registerOffset = d'.registerOffset := UInt16.toNat_inj.mp hregister
  unfold ShapedDeviation at hd hd'
  unfold deviationLocation
  rw [hregister']
  cases hs : d.scope with
  -- a global deviation has no quad
  | global =>
      have hs' : d'.scope = .global := by
        cases hs' : d'.scope with
        | global => rfl
        | quad => rw [hscope.mpr hs'] at hs; cases hs
      rw [hs] at hd
      rw [hs'] at hd' ⊢
      simp only at hd hd'
      rw [hd, hd']
  -- one of a quad has one, and the two are the same
  | quad =>
      have hs' := hscope.mp hs
      rw [hs] at hd
      rw [hs'] at hd' ⊢
      simp only [Option.isSome_iff_exists] at hd hd'
      obtain ⟨quad, hquad⟩ := hd
      obtain ⟨quad', hquad'd⟩ := hd'
      rw [hquad, hquad'd] at hquad' ⊢
      rw [show quad = quad' from hquad']

/-! ### The chain of a location

The validator walks the deviations once and keeps the value last requested at every place.
Restricted to one place this is a chain. -/

/-- The deviations of a location start at the value of the snapshot and leave none out. -/
def ChainedFrom (snapshot : Fw2051ScpConfigurationSnapshot) (location : DeviationLocation)
    (deviations : List TunerRecoveryV5Deviation) : Prop :=
  notesAt deviationReading location deviations = [] ∨
    ∃ value, location.value snapshot = some value ∧
      Continues deviationReading value (notesAt deviationReading location deviations)

/-- The deviations that name a place, one by one. -/
theorem notesAt_cons {location : DeviationLocation} {d : TunerRecoveryV5Deviation}
    {deviations : List TunerRecoveryV5Deviation} :
    notesAt deviationReading location (d :: deviations) =
      if deviationLocation d = location then d :: notesAt deviationReading location deviations
      else notesAt deviationReading location deviations := by
  show List.filter _ (d :: deviations) = _
  rw [List.filter_cons]
  by_cases h : deviationLocation d = location
  · simp [deviationReading, notesAt, h]
  · simp [deviationReading, notesAt, h]

/-- Along an accepted walk the deviations at the location of `at` continue the value the walk holds
for it. -/
theorem continues_of_deviationsObstacle {snapshot : Fw2051ScpConfigurationSnapshot}
    {place : TunerRecoveryV5Deviation} {value : UInt16}
    (hplace : snapshotValue snapshot place = some value)
    {deviations : List TunerRecoveryV5Deviation} {index : Nat}
    {workingValues : List (UInt64 × UInt16)}
    (h : deviationsObstacle snapshot index workingValues deviations = none) :
    Continues deviationReading ((workingValues.lookup (deviationLocationKey place)).getD value)
      (notesAt deviationReading (deviationLocation place) deviations) := by
  induction deviations generalizing index workingValues with
  | nil => trivial
  | cons d deviations ih =>
      unfold deviationsObstacle at h
      split at h
      · cases h
      split at h
      · cases h
      next original hvalue =>
      split at h
      · cases h
      simp only at h
      split at h
      · cases h
      next hchain =>
      have hprevious : d.previousVerifiedWorkingValue =
          (workingValues.lookup (deviationLocationKey d)).getD original := by
        by_contra hne
        exact hchain (.inl hne)
      have hrest := ih h
      rw [notesAt_cons]
      by_cases hlocation : deviationLocation d = deviationLocation place
      · -- a deviation of this place: it starts from the value that the walk has there
        have hkey : deviationLocationKey d = deviationLocationKey place := by
          simp only [deviationLocation, DeviationLocation.mk.injEq] at hlocation
          obtain ⟨hscope, hquad, hregister⟩ := hlocation
          simp only [deviationLocationKey, hscope, hquad, hregister]
        have horiginal : original = value := by
          rw [← value_deviationLocation, hlocation, value_deviationLocation, hplace] at hvalue
          exact (Option.some.inj hvalue).symm
        rw [if_pos hlocation]
        refine ⟨by rw [← hkey, ← horiginal]; exact hprevious, ?_⟩
        rw [hkey, List.lookup_cons_self] at hrest
        exact hrest
      · -- one of another place, which the walk keeps under another number
        have hkey : deviationLocationKey place ≠ deviationLocationKey d := fun hkey =>
          hlocation (deviationLocation_of_key (shapedDeviation_of_snapshotValue hvalue)
            (shapedDeviation_of_snapshotValue hplace) hkey.symm)
        rw [if_neg hlocation]
        rw [List.lookup_cons, beq_false_of_ne hkey] at hrest
        exact hrest

/-- An accepted walk only meets locations the snapshot has a value for. -/
theorem value_of_deviationsObstacle {snapshot : Fw2051ScpConfigurationSnapshot}
    {deviations : List TunerRecoveryV5Deviation} {index : Nat}
    {workingValues : List (UInt64 × UInt16)}
    (h : deviationsObstacle snapshot index workingValues deviations = none)
    {d : TunerRecoveryV5Deviation} (hd : d ∈ deviations) :
    snapshotValue snapshot d = some d.originalSessionValue := by
  induction deviations generalizing index workingValues with
  | nil => cases hd
  | cons d' deviations ih =>
      unfold deviationsObstacle at h
      split at h
      · cases h
      split at h
      · cases h
      next original hvalue =>
      split at h
      · cases h
      next horiginal =>
      simp only at h
      split at h
      · cases h
      rcases List.mem_cons.mp hd with rfl | hd
      · rw [hvalue, not_ne_iff.mp horiginal]
      · exact ih h hd

/-- The validator walks the chains of all places at once. -/
theorem chainedFrom_of_deviationsObstacle {snapshot : Fw2051ScpConfigurationSnapshot}
    {deviations : List TunerRecoveryV5Deviation}
    (h : deviationsObstacle snapshot 0 [] deviations = none) (location : DeviationLocation) :
    ChainedFrom snapshot location deviations := by
  cases hnotes : notesAt deviationReading location deviations with
  | nil => exact .inl hnotes
  | cons d notes =>
      have hmem : d ∈ notesAt deviationReading location deviations := by
        rw [hnotes]
        exact List.mem_cons_self
      obtain ⟨hd, hlocation⟩ := List.mem_filter.mp hmem
      have hlocation : deviationLocation d = location := of_decide_eq_true hlocation
      have hvalue := value_of_deviationsObstacle h hd
      right
      refine ⟨d.originalSessionValue, ?_, ?_⟩
      · rw [← hlocation, value_deviationLocation, hvalue]
      · rw [← hlocation]
        exact continues_of_deviationsObstacle hvalue h

/-- What the validator checks where there is a snapshot. -/
theorem obstacle_of_validate {data : TunerRecoveryV5Data}
    {snapshot : Fw2051ScpConfigurationSnapshot} (hlive : data.liveRestoreSnapshot = some snapshot)
    (h : validateV5Data data = none) :
    validateSnapshot snapshot data.identity = none ∧
      deviationsObstacle snapshot 0 [] data.deviations = none := by
  unfold validateV5Data at h
  rw [hlive] at h
  simp only [Option.orElse_eq_none] at h
  obtain ⟨-, -, -, -, hsnapshot, -, hchain⟩ := h
  exact ⟨hsnapshot, hchain⟩

/-! ### Sessions

A session is a list of writes, each behind a deviation that was appended to the journal. It may be
cut before a deviation is on disk, or after that with the write made or not. -/

/-- A register a session changes: one of the two global ones, or a banked one. -/
inductive SessionRegister where
  | irqLevel
  | outputFormat
  | banked (quad registerOffset : UInt16) (hquad : quad.toNat < fw2051ScpQuadCount)
      (hregister : registerOffset ∈ scpRegisterOffsets)

def SessionRegister.location : SessionRegister → DeviationLocation
  | .irqLevel => ⟨.global, none, irqLevelRegister⟩
  | .outputFormat => ⟨.global, none, outputFormatRegister⟩
  | .banked quad registerOffset _ _ => ⟨.quad, some quad, registerOffset⟩

/-- The snapshot of a valid journal has a value for each register of the session. -/
theorem SessionRegister.value_isSome (register : SessionRegister)
    {snapshot : Fw2051ScpConfigurationSnapshot} {identity : TunerRecoveryV5IdentityEvidence}
    (h : validateSnapshot snapshot identity = none) :
    (register.location.value snapshot).isSome := by
  cases register with
  | irqLevel => rfl
  | outputFormat => rfl
  | banked quad registerOffset hquad hregister =>
      have hlength : snapshot.quads.length = fw2051ScpQuadCount :=
        (restorable_of_validateSnapshot h).length_eq
      show (snapshotValue snapshot
        { scope := .quad, quad := some quad, registerOffset := registerOffset }).isSome
      have hbound : quad.toNat < snapshot.quads.length := by rw [hlength]; exact hquad
      have hfound : (findFw2051ScpSetting registerOffset).isNone = false := by
        rw [Option.isNone_eq_false_iff]
        exact findFw2051ScpSetting_isSome.mpr hregister
      simp only [snapshotValue, List.getElem?_eq_getElem hbound, hfound, if_neg Bool.false_ne_true]
      exact quadRegisterValue_isSome.mpr hregister

structure RegisterWrite where
  register : SessionRegister
  value : UInt16
  transitionPhase : TuningSessionPhase
  /-- The write reaches its register. -/
  takesEffect : Bool

/-- The deviations of the journal and the module. -/
abbrev WriteAheadSession := Session TunerRecoveryV5Deviation DeviationLocation UInt16

section Sessions

variable (snapshot : Fw2051ScpConfigurationSnapshot)

/-- A session begins with the module as the snapshot has it. -/
def beginSession : WriteAheadSession := ⟨fun location => (location.value snapshot).getD 0, []⟩

/-- The deviation starts from the value then live. -/
def deviationOf (session : WriteAheadSession) (write : RegisterWrite) : TunerRecoveryV5Deviation where
  ordinal := session.notes.length.toUInt32
  scope := write.register.location.scope
  quad := write.register.location.quad
  registerOffset := write.register.location.registerOffset
  originalSessionValue := (write.register.location.value snapshot).getD 0
  previousVerifiedWorkingValue := session.live write.register.location
  requestedNextValue := write.value
  transitionPhase := write.transitionPhase

/-- The journal is rewritten with one more deviation. -/
def appendDeviation (session : WriteAheadSession) (write : RegisterWrite) : WriteAheadSession :=
  session.note (deviationOf snapshot session write)

/-- The deviation is appended before the write is made. -/
def performWrite (session : WriteAheadSession) (write : RegisterWrite) : WriteAheadSession :=
  (appendDeviation snapshot session write).write write.register.location write.value
    write.takesEffect

/-- What a session has left behind when it is cut: before a journal is rewritten, or after that and
before the write. -/
inductive CutSession : WriteAheadSession → Prop where
  | between (writes : List RegisterWrite) :
    CutSession (writes.foldl (performWrite snapshot) (beginSession snapshot))
  | unwritten (writes : List RegisterWrite) (next : RegisterWrite) :
    CutSession (appendDeviation snapshot
      (writes.foldl (performWrite snapshot) (beginSession snapshot)) next)

/-- What every session keeps: the last deviation of a register explains its live value, and each
deviation has the original from the snapshot. -/
structure Recoverable (session : WriteAheadSession) : Prop where
  explains : Explains deviationReading (beginSession snapshot).live session
  originals : ∀ d ∈ session.notes,
    d.originalSessionValue = ((deviationLocation d).value snapshot).getD 0

variable {snapshot} {session : WriteAheadSession}

/-- At the start the registers hold what the snapshot has. -/
theorem recoverable_begin : Recoverable snapshot (beginSession snapshot) where
  explains := explains_start
  originals := by
    intro d hd
    cases hd

theorem Recoverable.originals_append (h : Recoverable snapshot session) (write : RegisterWrite) :
    ∀ d ∈ session.notes ++ [deviationOf snapshot session write],
      d.originalSessionValue = ((deviationLocation d).value snapshot).getD 0 := by
  intro d hd
  rcases List.mem_append.mp hd with hd | hd
  · exact h.originals d hd
  · rw [List.mem_singleton.mp hd]
    rfl

/-- Noting a write does not make it. -/
theorem Recoverable.append (h : Recoverable snapshot session) (write : RegisterWrite) :
    Recoverable snapshot (appendDeviation snapshot session write) where
  explains := h.explains.note rfl
  originals := h.originals_append write

/-- A write that was noted may take effect or not. -/
theorem Recoverable.perform (h : Recoverable snapshot session) (write : RegisterWrite) :
    Recoverable snapshot (performWrite snapshot session write) where
  explains := h.explains.write (d := deviationOf snapshot session write) rfl write.takesEffect
  originals := by
    have hnotes : (performWrite snapshot session write).notes =
        session.notes ++ [deviationOf snapshot session write] := by
      unfold performWrite Session.write
      split <;> rfl
    rw [hnotes]
    exact h.originals_append write

/-- So the journal explains the registers after any number of writes. -/
theorem recoverable_foldl (writes : List RegisterWrite) (h : Recoverable snapshot session) :
    Recoverable snapshot (writes.foldl (performWrite snapshot) session) := by
  induction writes generalizing session with
  | nil => exact h
  | cons write writes ih => exact ih (h.perform write)

/-- Also when the session is cut between a note and its write. -/
theorem CutSession.recoverable (h : CutSession snapshot session) : Recoverable snapshot session := by
  cases h with
  | between writes => exact recoverable_foldl writes recoverable_begin
  | unwritten writes next => exact (recoverable_foldl writes recoverable_begin).append next

end Sessions

/-! ### What recovery decides

If the last deviation of a register explains its live value, the decision is one of the two that are
right: it is left alone if it holds its original, and restored otherwise. -/

/-- What recovery makes of a register with the given live value. -/
def Decides (snapshot : Fw2051ScpConfigurationSnapshot) (location : DeviationLocation)
    (deviation : TunerRecoveryV5Deviation) (liveValue : UInt16) : Prop :=
  let action := (classifyTunerRecoveryV5LiveValue deviation liveValue).action
  some deviation.originalSessionValue = location.value snapshot ∧
    action ≠ .blockAndRetain ∧
    (action = .noWriteAlreadyOriginal ↔ some liveValue = location.value snapshot) ∧
    (some liveValue ≠ location.value snapshot → action = .restoreOriginal)

/-- The live value is the previous one or the requested one, which decides. -/
theorem decides_of_explained {snapshot : Fw2051ScpConfigurationSnapshot}
    {location : DeviationLocation} {deviation : TunerRecoveryV5Deviation} {liveValue : UInt16}
    (horiginal : location.value snapshot = some deviation.originalSessionValue)
    (hlive : liveValue = deviation.previousVerifiedWorkingValue ∨
      liveValue = deviation.requestedNextValue) :
    Decides snapshot location deviation liveValue := by
  unfold Decides
  simp only [horiginal, Option.some.injEq, ne_eq, true_and]
  by_cases h : liveValue = deviation.originalSessionValue
  · rw [classify_of_eq h]
    exact ⟨by decide, by simp [h], fun hne => absurd h hne⟩
  · rw [classify_of_ne h hlive]
    exact ⟨by decide, by simp [h], fun _ => rfl⟩

/-- If the journal of a cut session is accepted, every register is as the snapshot has it or can be
brought back to that; and no journal is accepted whose deviations at some location do not start at
the snapshot or leave a value out. -/
theorem validateV5Data_recovers {data : TunerRecoveryV5Data}
    {snapshot : Fw2051ScpConfigurationSnapshot} (hsnapshot : data.liveRestoreSnapshot = some snapshot)
    (hvalid : validateV5Data data = none) :
    (∀ session, CutSession snapshot session → data.deviations = session.notes →
      ∀ register : SessionRegister,
        match (notesAt deviationReading register.location session.notes).getLast? with
        | none => some (session.live register.location) = register.location.value snapshot
        | some deviation =>
          Decides snapshot register.location deviation (session.live register.location)) ∧
      ∀ location, ChainedFrom snapshot location data.deviations := by
  obtain ⟨hrestorable, hchain⟩ := obstacle_of_validate hsnapshot hvalid
  refine ⟨?_, chainedFrom_of_deviationsObstacle hchain⟩
  intro session hcut hnotes register
  have hrecoverable := hcut.recoverable
  obtain ⟨value, hvalue⟩ := Option.isSome_iff_exists.mp (register.value_isSome hrestorable)
  have hexplained := hrecoverable.explains register.location
  cases hlast : (notesAt deviationReading register.location session.notes).getLast? with
  -- no note on this register: its live value is the snapshot's
  | none =>
      rw [hlast] at hexplained
      show some (session.live register.location) = _
      rw [show session.live register.location = _ from hexplained, hvalue]
      show some ((register.location.value snapshot).getD 0) = _
      rw [hvalue]
      rfl
  -- the last note on it holds the values its live one can have
  | some deviation =>
      rw [hlast] at hexplained
      have hmem := List.mem_of_getLast? hlast
      obtain ⟨hd, hlocation⟩ := List.mem_filter.mp hmem
      have hlocation : deviationLocation deviation = register.location := of_decide_eq_true hlocation
      have horiginal := hrecoverable.originals deviation hd
      rw [hlocation, hvalue] at horiginal
      apply decides_of_explained _ hexplained
      rw [hvalue, horiginal]
      rfl

/-! A session that changed the IRQ level and lost the write of a gain. -/

def exampleV5Snapshot : Fw2051ScpConfigurationSnapshot where
  state := .complete
  baseAddress := 0x10000
  hardwareId := 0x5007
  firmwareRevision := mdpp32ScpFirmwareRevisionFw2051
  irqLevel := 1
  selectorParkedAtQuadZero := true
  quads := (List.range 8).map fun quad => { quad := quad.toUInt16, gain := 100 }

def exampleWrites : List RegisterWrite := [
  ⟨.irqLevel, 3, .goal, true⟩,
  ⟨.banked 2 0x611A (by decide) (by decide), 200, .manual, false⟩]

def exampleSession : WriteAheadSession :=
  exampleWrites.foldl (performWrite exampleV5Snapshot) (beginSession exampleV5Snapshot)

def exampleData : TunerRecoveryV5Data where
  sessionPhase := .manual
  endpoint := { mvlcHost := ascii "mvlc" }
  identity := ⟨expectedMvlcHardwareId, expectedMvlcFirmwareRevision, 0x10000, 0x5007,
    mdpp32ScpFirmwareRevisionFw2051⟩
  liveRestoreSnapshot := some exampleV5Snapshot
  deviations := exampleSession.notes

theorem validateV5Data_recovers_example :
    validateV5Data exampleData = none ∧
      Decides exampleV5Snapshot SessionRegister.irqLevel.location (exampleSession.notes.head (by decide))
        3 :=
  ⟨by decide +kernel, (@validateV5Data_recovers exampleData _ rfl (by decide +kernel)).1
    exampleSession (.between exampleWrites) rfl .irqLevel⟩

end Fidget.RecoveryJournalV5
