import Fidget.Core.RecoveryJournalV5

/-!
# What format 5 keeps of a record

The sections of the text are read back one by one, each by the reader written for it, so the whole
text is read back as the evidence that was written. What comes back is `dataAsWritten`: the evidence
itself except that a direct endpoint has lost its SSH fields and that the snapshot carries the
reader's message and no selector log. A record returns unchanged up to its snapshot log exactly when
nothing else was left unwritten.

For every section of the text there is a lemma that its reader, given the words that the writer has
written and anything behind them, returns the section as written and leaves the rest. `Reads` is
this relation, and the sections are put together by its rule for a sequence.

## Main results

- `reads_readV5`: the reader gives back the evidence, up to what is not written.
- `parseTunerRecoveryJournalV5_writeV5`: so the written text of a valid record is accepted.
-/

namespace Fidget.RecoveryJournalV5

open TokenText RecoveryJournal

/-! ### Sections are read back

One reader after the other, from flags and numbers up to deviations. A direct endpoint is written
without its SSH fields, and of the snapshot neither the message nor the selector log is written. -/

/-- Flags are read back as the numbers that they are written as. -/
theorem reads_flag (field : Text) (b : Bool) :
    Reads (readUInt16 label field) [decimal (flag b)] (flag b).toUInt16 := by
  have h := reads_readUInt16 label field (flag b).toUInt16
  have hnat : ((flag b).toUInt16).toNat = flag b := by cases b <;> rfl
  rwa [hnat] at h

/-- A checksum that was written passes, and takes no word. -/
theorem reads_checkSectionChecksum (checksum : UInt64) (name : Text) :
    Reads (checkSectionChecksum checksum checksum name) [] () :=
  Reads.require (beq_self_eq_true checksum) _

/-- No two phases share a word. -/
theorem parseSessionPhase_token (phase : TuningSessionPhase) :
    parseSessionPhase (sessionPhaseToken phase) = some phase := by
  cases phase <;> decide

theorem reads_readSession (data : TunerRecoveryV5Data) :
    Reads readSession (sessionLines data).flatten
      { sessionPhase := data.sessionPhase
        selectorParkingRequired := data.selectorParkingRequired } := by
  have hflag : ((flag data.selectorParkingRequired).toUInt16 == 1) =
      data.selectorParkingRequired := by
    cases data.selectorParkingRequired <;> rfl
  have hle : decide ((flag data.selectorParkingRequired).toUInt16 ≤ 1) = true := by
    cases data.selectorParkingRequired <;> rfl
  unfold readSession
  refine Reads.finish (a := (sessionPhaseToken data.sessionPhase,
    (flag data.selectorParkingRequired).toUInt16, sessionChecksum data)) ?_ ?_
  · refine Reads.orMessage _ ?_
    refine Reads.cons (reads_expectToken label _) ?_
    refine Reads.cons (reads_readToken _) ?_
    refine Reads.cons (reads_flag _ _) ?_
    refine Reads.step (Reads.require hle _) ?_
    exact Reads.cons (reads_readUInt64 label _ _) (Reads.pure _)
  · simp only [parseSessionPhase_token, hflag]
    exact Reads.step (reads_checkSectionChecksum _ _) (Reads.pure _)

/-- The endpoint as it comes back: the shape of a direct endpoint has no SSH fields. -/
def endpointAsWritten (endpoint : ControllerEndpointRequest) : ControllerEndpointRequest :=
  match endpoint.kind with
  | .directEthernet => { endpoint with sshDestination := [], remoteBridgeCommand := [] }
  | .sshBridge => endpoint

/-- The checksum covers nothing that is not written. -/
theorem endpointChecksum_asWritten (endpoint : ControllerEndpointRequest) :
    endpointChecksum (endpointAsWritten endpoint) = endpointChecksum endpoint := by
  cases h : endpoint.kind <;> simp only [endpointAsWritten, endpointChecksum, h]

/-- A direct endpoint comes back without SSH fields. -/
theorem reads_readEndpoint (endpoint : ControllerEndpointRequest) :
    Reads readEndpoint (endpointLines endpoint).flatten (endpointAsWritten endpoint) := by
  have hsum := endpointChecksum_asWritten endpoint
  obtain ⟨kind, host, port, destination, command⟩ := endpoint
  unfold readEndpoint
  cases kind with
  | directEthernet =>
      refine Reads.bind (a := (ascii "DIRECT", host, port)) (Reads.orMessage _ ?_) ?_
        (w := [ascii "ENDPOINT", ascii "DIRECT", host, decimal port.toNat])
      · refine Reads.cons (reads_expectToken label _) ?_
        refine Reads.cons (reads_readToken _) ?_
        refine Reads.cons (reads_readToken _) ?_
        exact Reads.cons (reads_readUInt16 label _ _) (Reads.pure _)
      · refine Reads.step (Reads.pure _) ?_
        refine Reads.cons (reads_readUInt64 label _ _) ?_
        exact Reads.step (Reads.require (beq_iff_eq.mpr hsum.symm) _) (Reads.pure _)
  | sshBridge =>
      refine Reads.bind (a := (ascii "SSH_BRIDGE", host, port)) (Reads.orMessage _ ?_) ?_
        (w := [ascii "ENDPOINT", ascii "SSH_BRIDGE", host, decimal port.toNat])
      · refine Reads.cons (reads_expectToken label _) ?_
        refine Reads.cons (reads_readToken _) ?_
        refine Reads.cons (reads_readToken _) ?_
        exact Reads.cons (reads_readUInt16 label _ _) (Reads.pure _)
      · refine Reads.bind (a := ⟨.sshBridge, host, port, destination, command⟩)
          (Reads.orMessage _ ?_) ?_ (w := [destination, command])
        · refine Reads.cons (reads_readToken _) ?_
          exact Reads.cons (reads_readToken _) (Reads.pure _)
        · refine Reads.cons (reads_readUInt64 label _ _) ?_
          exact Reads.step (reads_checkSectionChecksum _ _) (Reads.pure _)

theorem reads_readIdentity (identity : TunerRecoveryV5IdentityEvidence) :
    Reads readIdentity (identityLines identity).flatten identity := by
  unfold readIdentity
  refine Reads.cons (reads_expectToken label _) ?_
  refine Reads.cons (reads_readUInt32 label _ _) ?_
  refine Reads.cons (reads_readUInt32 label _ _) ?_
  refine Reads.cons (reads_readUInt32 label _ _) ?_
  refine Reads.cons (reads_readUInt16 label _ _) ?_
  refine Reads.cons (reads_readUInt16 label _ _) ?_
  refine Reads.cons (reads_readUInt64 label _ _) ?_
  exact Reads.step (reads_checkSectionChecksum _ _) (Reads.pure _)

/-- Whether an optional section is there is read back. -/
theorem reads_readPresence (keyword field message : Text) (b : Bool) :
    Reads (readPresence keyword field message) [keyword, decimal (flag b)] b := by
  unfold readPresence
  refine Reads.orMessage _ ?_
  refine Reads.cons (reads_expectToken label _) ?_
  refine Reads.cons (reads_flag _ _) ?_
  refine Reads.step (Reads.require (by cases b <;> rfl) _) ?_
  have hflag : ((flag b).toUInt16 == 1) = b := by cases b <;> rfl
  rw [hflag]
  exact Reads.pure b

/-- An optional section is read back if its body is. -/
theorem reads_readIfPresent {α : Type} {read : Reader α} {words : α → List Text} {g : α → α}
    (part? : Option α) (h : ∀ a ∈ part?, Reads read (words a) (g a)) :
    Reads (readIfPresent part?.isSome read) (part?.elim [] words) (part?.map g) := by
  cases part? with
  | none => exact Reads.pure none
  | some a => exact (h a rfl).map some

/-- The addresses are read back as there are at most as many as the reader takes. -/
theorem reads_readOwnershipBody (ownership : TunerRecoveryV5OwnershipEvidence)
    (h : ownership.isolatedModuleBaseAddresses.length ≤ maximumIsolatedModuleCount) :
    Reads readOwnershipBody (ownershipWords ownership) ownership := by
  have hcount : (ownership.isolatedModuleBaseAddresses.length.toUInt16).toNat =
      ownership.isolatedModuleBaseAddresses.length := by
    have hlt : maximumIsolatedModuleCount < 2 ^ 16 := by decide
    rw [Nat.toUInt16_eq, UInt16.toNat_ofNat']
    omega
  have hread := reads_readUInt16 label (ascii "isolated module count")
    ownership.isolatedModuleBaseAddresses.length.toUInt16
  rw [hcount] at hread
  unfold readOwnershipBody
  refine Reads.cons (reads_readUInt16 label _ _) ?_
  refine Reads.cons (reads_readUInt32 label _ _) ?_
  refine Reads.cons (reads_readUInt16 label _ _) ?_
  refine Reads.cons (reads_readUInt32 label _ _) ?_
  refine Reads.cons (reads_readUInt16 label _ _) ?_
  refine Reads.cons (reads_readUInt32 label _ _) ?_
  refine Reads.cons hread ?_
  refine Reads.step (Reads.require (by rw [hcount]; exact decide_eq_true h) _) ?_
  rw [hcount, List.map_eq_flatMap]
  refine Reads.finish (reads_readMany _ 0 fun _ address _ => ?_) (Reads.pure _)
  exact reads_readUInt32 label _ address

theorem reads_readOwnership (ownership : Option TunerRecoveryV5OwnershipEvidence)
    (h : ∀ o ∈ ownership, o.isolatedModuleBaseAddresses.length ≤ maximumIsolatedModuleCount) :
    Reads readOwnership (ownershipLines ownership).flatten ownership := by
  have hbody := reads_readIfPresent (g := id) ownership fun o ho => reads_readOwnershipBody o (h o ho)
  rw [Option.map_id_fun, id] at hbody
  have hlines : (ownershipLines ownership).flatten =
      [ascii "OWNERSHIP", decimal (flag ownership.isSome)] ++ (ownership.elim [] ownershipWords ++
        [ascii "OWNERSHIP_CHECKSUM", decimal (ownershipChecksum ownership).toNat]) := by
    simp [ownershipLines]
  rw [hlines]
  unfold readOwnership
  refine Reads.bind (reads_readPresence _ _ _ _) ?_
  refine Reads.bind hbody ?_
  refine Reads.cons (reads_expectToken label _) ?_
  refine Reads.cons (reads_readUInt64 label _ _) ?_
  exact Reads.step (reads_checkSectionChecksum _ _) (Reads.pure _)

/-- The values of a register array are read back one by one. -/
theorem reads_values {n : Nat} (field : Text) (values : Vector UInt16 n) :
    Reads (readMany (fun _ => readUInt16 label field) n 0)
      (values.toList.map fun value => decimal value.toNat) values.toList := by
  have h := @reads_readMany _ (fun _ => readUInt16 label field) (fun value => [decimal value.toNat])
    values.toList 0 fun _ value _ => reads_readUInt16 label field value
  rwa [Vector.length_toList, ← List.map_eq_flatMap] at h

theorem ofFn_getD_toList {n : Nat} (values : Vector UInt16 n) :
    (Vector.ofFn fun i : Fin n => values.toList.getD i 0) = values := by
  ext i hi
  simp

theorem reads_readQuad (quad : Fw2051ScpQuadConfiguration) :
    Reads readQuad (quadWords quad) quad := by
  have hwords : quadWords quad = ascii "QUAD" :: decimal quad.quad.toNat ::
      decimal quad.timingFilter.toNat :: (quad.poleZero.toList.map (fun v => decimal v.toNat) ++
        decimal quad.gain.toNat :: (quad.thresholds.toList.map (fun v => decimal v.toNat) ++
        [decimal quad.shapingTime.toNat, decimal quad.baselineRestorer.toNat,
          decimal quad.resetTime.toNat, decimal quad.signalRiseTime.toNat,
          decimal quad.preSamples.toNat, decimal quad.totalSamples.toNat,
          decimal quad.sampleConfiguration.toNat])) := by
    simp [quadWords, quadValues]
  rw [hwords]
  unfold readQuad
  refine Reads.cons (reads_expectToken label _) ?_
  refine Reads.cons (reads_readUInt16 label _ _) ?_
  refine Reads.cons (reads_readUInt16 label _ _) ?_
  refine Reads.bind (reads_values _ quad.poleZero) ?_
  refine Reads.cons (reads_readUInt16 label _ _) ?_
  refine Reads.bind (reads_values _ quad.thresholds) ?_
  refine Reads.cons (reads_readUInt16 label _ _) ?_
  refine Reads.cons (reads_readUInt16 label _ _) ?_
  refine Reads.cons (reads_readUInt16 label _ _) ?_
  refine Reads.cons (reads_readUInt16 label _ _) ?_
  refine Reads.cons (reads_readUInt16 label _ _) ?_
  refine Reads.cons (reads_readUInt16 label _ _) ?_
  refine Reads.cons (reads_readUInt16 label _ _) ?_
  simp only [ofFn_getD_toList]
  exact Reads.pure quad

/-- The snapshot as it comes back: its display message is the reader's and its log is gone. -/
def snapshotAsWritten (snapshot : Fw2051ScpConfigurationSnapshot) :
    Fw2051ScpConfigurationSnapshot :=
  { snapshot with message := "Parsed from v5 recovery journal.", selectorWrites := [] }

/-- The parts of a snapshot that the reader fixes. -/
structure RestorableSnapshot (snapshot : Fw2051ScpConfigurationSnapshot) : Prop where
  state : snapshot.state = .complete
  parked : snapshot.selectorParkedAtQuadZero = true
  length_eq : snapshot.quads.length = fw2051ScpQuadCount

/-- A snapshot comes back with the reader's message and no selector log. -/
theorem reads_readSnapshotBody {snapshot : Fw2051ScpConfigurationSnapshot}
    (h : RestorableSnapshot snapshot) :
    Reads readSnapshotBody (snapshotBodyLines snapshot).flatten (snapshotAsWritten snapshot) := by
  have hquads := @reads_readMany _ (fun _ => readQuad) quadWords snapshot.quads 0
    fun _ quad _ => reads_readQuad quad
  rw [h.length_eq, List.flatMap_def] at hquads
  have hresult : snapshotAsWritten snapshot =
      { state := .complete, message := "Parsed from v5 recovery journal.",
        selectorParkedAtQuadZero := true, baseAddress := snapshot.baseAddress,
        hardwareId := snapshot.hardwareId, firmwareRevision := snapshot.firmwareRevision,
        irqLevel := snapshot.irqLevel, outputFormat := snapshot.outputFormat,
        quads := snapshot.quads } := by
    rw [snapshotAsWritten, h.state, h.parked]
  rw [hresult]
  unfold readSnapshotBody
  refine Reads.cons (reads_expectToken label _) ?_
  refine Reads.cons (reads_readUInt32 label _ _) ?_
  refine Reads.cons (reads_readUInt16 label _ _) ?_
  refine Reads.cons (reads_readUInt16 label _ _) ?_
  refine Reads.cons (reads_readUInt16 label _ _) ?_
  refine Reads.cons (reads_readUInt16 label _ _) ?_
  exact Reads.finish hquads (Reads.pure _)

/-- Neither message nor selector log is part of the checksum. -/
theorem snapshotChecksum_asWritten (snapshot : Option Fw2051ScpConfigurationSnapshot) :
    snapshotChecksum (snapshot.map snapshotAsWritten) = snapshotChecksum snapshot := by
  cases snapshot <;> rfl

theorem reads_readSnapshot (snapshot : Option Fw2051ScpConfigurationSnapshot)
    (h : ∀ s ∈ snapshot, RestorableSnapshot s) :
    Reads readSnapshot (snapshotLines snapshot).flatten (snapshot.map snapshotAsWritten) := by
  have hbody := reads_readIfPresent snapshot fun s hs => reads_readSnapshotBody (h s hs)
  have hlines : (snapshotLines snapshot).flatten =
      [ascii "RESTORE_SNAPSHOT", decimal (flag snapshot.isSome)] ++
        (snapshot.elim [] (fun s => (snapshotBodyLines s).flatten) ++
        [ascii "SNAPSHOT_CHECKSUM", decimal (snapshotChecksum snapshot).toNat]) := by
    cases snapshot <;> simp [snapshotLines]
  rw [hlines]
  unfold readSnapshot
  refine Reads.bind (reads_readPresence _ _ _ _) ?_
  refine Reads.bind hbody ?_
  refine Reads.cons (reads_expectToken label _) ?_
  refine Reads.cons (reads_readUInt64 label _ _) ?_
  refine Reads.step (Reads.require ?_ _) (Reads.pure _)
  exact beq_iff_eq.mpr (snapshotChecksum_asWritten snapshot).symm

/-- Scope and quad of a deviation agree. -/
def ShapedDeviation (deviation : TunerRecoveryV5Deviation) : Prop :=
  match deviation.scope with
  | .global => deviation.quad = none
  | .quad => deviation.quad.isSome = true

/-- What the two shapes of a deviation have in common. -/
theorem reads_readDeviationValues (deviation : TunerRecoveryV5Deviation) :
    Reads (readDeviationValues deviation.ordinal deviation.scope deviation.quad)
      [decimal deviation.registerOffset.toNat, decimal deviation.originalSessionValue.toNat,
        decimal deviation.previousVerifiedWorkingValue.toNat,
        decimal deviation.requestedNextValue.toNat, sessionPhaseToken deviation.transitionPhase]
      deviation := by
  unfold readDeviationValues
  refine Reads.finish (a := (deviation.registerOffset, deviation.originalSessionValue,
    deviation.previousVerifiedWorkingValue, deviation.requestedNextValue,
    sessionPhaseToken deviation.transitionPhase)) (Reads.orMessage _ ?_) ?_
  · refine Reads.cons (reads_readUInt16 label _ _) ?_
    refine Reads.cons (reads_readUInt16 label _ _) ?_
    refine Reads.cons (reads_readUInt16 label _ _) ?_
    refine Reads.cons (reads_readUInt16 label _ _) ?_
    exact Reads.cons (reads_readToken _) (Reads.pure _)
  · simp only [parseSessionPhase_token]
    exact Reads.pure _

/-- A deviation is read back if it has a quad exactly where its scope says so. -/
theorem reads_readDeviation {deviation : TunerRecoveryV5Deviation}
    (h : ShapedDeviation deviation) :
    Reads readDeviation (deviationWords deviation) deviation := by
  have htail := reads_readDeviationValues deviation
  have hhead : ∀ scope : Text, Reads (orMessage "Malformed deviation in the v5 recovery journal." do
      expectToken label "DEVIATION"
      let ordinal ← readUInt32 label "deviation ordinal"
      let scope ← readToken
      return (ordinal, scope))
      [ascii "DEVIATION", decimal deviation.ordinal.toNat, scope] (deviation.ordinal, scope) := by
    intro scope
    refine Reads.orMessage _ ?_
    refine Reads.cons (reads_expectToken label _) ?_
    refine Reads.cons (reads_readUInt32 label _ _) ?_
    exact Reads.cons (reads_readToken _) (Reads.pure _)
  unfold readDeviation deviationWords
  cases hscope : deviation.scope with
  | global =>
      have hquad : deviation.quad = none := by simpa only [ShapedDeviation, hscope] using h
      rw [hscope, hquad] at htail
      exact Reads.bind (hhead _) (Reads.step (Reads.pure (TunerRecoveryDeviationScope.global, none)) htail)
  | quad =>
      have hquad : deviation.quad.isSome = true := by simpa only [ShapedDeviation, hscope] using h
      obtain ⟨index, hquad⟩ := Option.isSome_iff_exists.mp hquad
      rw [hscope, hquad] at htail
      rw [hquad]
      show Reads _ ([ascii "DEVIATION", decimal deviation.ordinal.toNat, ascii "QUAD"] ++
        (decimal index.toNat :: _)) _
      refine Reads.bind (hhead _) ?_
      refine Reads.cons (a := (TunerRecoveryDeviationScope.quad, some index)) ?_ htail
      exact Reads.cons (reads_readUInt16 label _ _) (Reads.pure _)

/-- Deviations are read back if they are numbered from zero. -/
theorem reads_readDeviations {deviations : List TunerRecoveryV5Deviation}
    (hcount : deviations.length ≤ tunerRecoveryV5MaximumDeviationCount)
    (h : ∀ i d, deviations[i]? = some d → d.ordinal.toNat = i ∧ ShapedDeviation d) :
    Reads readDeviations (deviationsLines deviations).flatten deviations := by
  have hlength : (deviations.length.toUInt32).toNat = deviations.length := by
    have hlt : tunerRecoveryV5MaximumDeviationCount < 2 ^ 32 := by decide
    rw [Nat.toUInt32_eq, UInt32.toNat_ofNat']
    omega
  have hread := reads_readUInt32 label (ascii "deviation count") deviations.length.toUInt32
  rw [hlength] at hread
  -- the deviations themselves, each with the ordinal of its place
  have hmany := @reads_readMany _ (fun index => do
      let deviation ← readDeviation
      require (deviation.ordinal.toNat == index) "The v5 recovery deviations are out of order."
      return deviation) deviationWords deviations 0 fun i d hd => by
    obtain ⟨hordinal, hshaped⟩ := h i d hd
    refine Reads.finish (reads_readDeviation hshaped) ?_
    refine Reads.step (Reads.require ?_ _) (Reads.pure d)
    rw [hordinal, Nat.zero_add]
    exact beq_self_eq_true i
  -- the section as words: count, deviations, checksum
  have hlines : (deviationsLines deviations).flatten =
      ascii "DEVIATIONS" :: decimal deviations.length :: (deviations.flatMap deviationWords ++
        [ascii "DEVIATIONS_CHECKSUM", decimal (deviationsChecksum deviations).toNat]) := by
    simp [deviationsLines, List.flatMap_def]
  rw [hlines]
  unfold readDeviations
  refine Reads.cons (reads_expectToken label _) ?_
  refine Reads.cons hread ?_
  refine Reads.step (Reads.require (by rw [hlength]; exact decide_eq_true hcount) _) ?_
  rw [hlength]
  refine Reads.bind hmany ?_
  refine Reads.cons (reads_expectToken label _) ?_
  refine Reads.cons (reads_readUInt64 label _ _) ?_
  exact Reads.step (reads_checkSectionChecksum _ _) (Reads.pure _)

/-! ### What validation guarantees

The validator checks far more than the reader needs. What is needed is that there are no blanks in
the words, that counts are within their limits and that the deviations are numbered from zero. -/

/-- What the reader relies on, of all that the validator checks. -/
structure ValidV5Data (data : TunerRecoveryV5Data) : Prop where
  endpoint : ValidControllerEndpoint data.endpoint
  isolated : ∀ ownership ∈ data.ownership,
    ownership.isolatedModuleBaseAddresses.length ≤ maximumIsolatedModuleCount
  snapshot : ∀ snapshot ∈ data.liveRestoreSnapshot, RestorableSnapshot snapshot
  deviationCount : data.deviations.length ≤ tunerRecoveryV5MaximumDeviationCount
  deviation : ∀ i d, data.deviations[i]? = some d → d.ordinal.toNat = i ∧ ShapedDeviation d

/-- A deviation of which the snapshot has a value has the right shape. -/
theorem shapedDeviation_of_snapshotValue {snapshot : Fw2051ScpConfigurationSnapshot}
    {deviation : TunerRecoveryV5Deviation} {value : UInt16}
    (h : snapshotValue snapshot deviation = some value) : ShapedDeviation deviation := by
  unfold snapshotValue at h
  unfold ShapedDeviation
  cases hscope : deviation.scope with
  | global =>
      cases hquad : deviation.quad with
      | none => rfl
      | some quad => rw [hscope, hquad] at h; cases h
  | quad =>
      cases hquad : deviation.quad with
      | none => rw [hscope, hquad] at h; cases h
      | some quad => rfl

/-- Along an accepted chain the ordinals count up and every deviation names a location. -/
theorem shaped_of_deviationsObstacle {snapshot : Fw2051ScpConfigurationSnapshot}
    {deviations : List TunerRecoveryV5Deviation} {index : Nat}
    {workingValues : List (UInt64 × UInt16)}
    (h : deviationsObstacle snapshot index workingValues deviations = none) (i : Nat)
    (d : TunerRecoveryV5Deviation) (hd : deviations[i]? = some d) :
    d.ordinal.toNat = index + i ∧ ShapedDeviation d := by
  induction deviations generalizing index workingValues i with
  | nil => cases hd
  | cons deviation deviations ih =>
      unfold deviationsObstacle at h
      split at h
      · cases h
      next hordinal =>
      split at h
      · cases h
      next original hvalue =>
      split at h
      · cases h
      simp only at h
      split at h
      · cases h
      cases i with
      -- the first deviation names its own place and a location of the snapshot
      | zero =>
          obtain rfl : deviation = d := Option.some.inj hd
          refine ⟨?_, shapedDeviation_of_snapshotValue hvalue⟩
          by_contra hne
          exact hordinal (.inl hne)
      -- a later one is the rest's, counted from the next index
      | succ i =>
          obtain ⟨hord, hshaped⟩ := ih h i hd
          exact ⟨by omega, hshaped⟩

theorem isolated_le_of_validateOwnership {ownership : TunerRecoveryV5OwnershipEvidence}
    {identity : TunerRecoveryV5IdentityEvidence} (h : validateOwnership ownership identity = none) :
    ownership.isolatedModuleBaseAddresses.length ≤ maximumIsolatedModuleCount := by
  unfold validateOwnership at h
  rw [Option.orElse_eq_none, firstFailure_eq_none] at h
  have hcount := h.1 _ (List.mem_cons_of_mem _ List.mem_cons_self)
  exact Nat.not_lt.mp (of_decide_eq_false hcount)

/-- The validator lets only snapshots through that the reader can give back. -/
theorem restorable_of_validateSnapshot {snapshot : Fw2051ScpConfigurationSnapshot}
    {identity : TunerRecoveryV5IdentityEvidence} (h : validateSnapshot snapshot identity = none) :
    RestorableSnapshot snapshot := by
  unfold validateSnapshot at h
  rw [firstFailure_eq_none] at h
  have hfixed := h _ List.mem_cons_self
  have hlength := h _ (List.mem_cons_of_mem _ List.mem_cons_self)
  simp only [Bool.or_eq_false_iff, bne_eq_false_iff_eq, Bool.not_eq_false'] at hfixed hlength
  obtain ⟨⟨⟨⟨hstate, hparked⟩, -⟩, -⟩, -⟩ := hfixed
  exact ⟨hstate, hparked, hlength⟩

/-- One field for each section, from the checks of that section. -/
theorem validV5Data_of_validate {data : TunerRecoveryV5Data} (h : validateV5Data data = none) :
    ValidV5Data data := by
  unfold validateV5Data at h
  simp only [Option.orElse_eq_none] at h
  obtain ⟨-, hendpoint, -, hownership, hsnapshot⟩ := h
  have hep : ValidControllerEndpoint data.endpoint := by
    unfold validateEndpoint at hendpoint
    simp only at hendpoint
    split at hendpoint
    · next hsuccess => exact validControllerEndpoint_of_success hsuccess
    · cases hendpoint
  have hiso : ∀ ownership ∈ data.ownership,
      ownership.isolatedModuleBaseAddresses.length ≤ maximumIsolatedModuleCount := by
    intro ownership hmem
    rw [hmem] at hownership
    exact isolated_le_of_validateOwnership hownership
  cases hlive : data.liveRestoreSnapshot with
  -- without a snapshot there are no deviations
  | none =>
      rw [hlive] at hsnapshot
      simp only at hsnapshot
      split at hsnapshot
      · cases hsnapshot
      next hempty =>
        have hnil : data.deviations = [] := by
          by_contra hne
          exact hempty (.inr hne)
        refine ⟨hep, hiso, by simp [hlive], by simp [hnil], fun i d hd => ?_⟩
        rw [hnil] at hd
        cases hd
  -- with one, the chain was walked
  | some snapshot =>
      rw [hlive] at hsnapshot
      simp only [Option.orElse_eq_none, firstFailure_eq_none] at hsnapshot
      obtain ⟨hvalid, hcount, hchain⟩ := hsnapshot
      refine ⟨hep, hiso, ?_, ?_, fun i d hd => ?_⟩
      · intro s hs
        rw [hlive, Option.mem_some_iff] at hs
        exact hs ▸ restorable_of_validateSnapshot hvalid
      · exact Nat.not_lt.mp (of_decide_eq_false (hcount _ List.mem_cons_self))
      · have hshaped := shaped_of_deviationsObstacle hchain i d hd
        rwa [Nat.zero_add] at hshaped

/-! ### The whole text

The text is cut into words at blanks and line ends. As no word contains one of them, cutting the
text gives back the words that were written. -/

/-- The evidence as it comes back. -/
def dataAsWritten (data : TunerRecoveryV5Data) : TunerRecoveryV5Data :=
  { data with
    endpoint := endpointAsWritten data.endpoint
    liveRestoreSnapshot := data.liveRestoreSnapshot.map snapshotAsWritten }

/-- The checksum of what comes back is the one that was written. -/
theorem recordChecksum_asWritten (data : TunerRecoveryV5Data) :
    recordChecksum (dataAsWritten data) = recordChecksum data := by
  have hendpoint := endpointChecksum_asWritten data.endpoint
  have hsnapshot := snapshotChecksum_asWritten data.liveRestoreSnapshot
  unfold recordChecksum dataAsWritten
  simp only [hendpoint, hsnapshot]
  rfl

theorem reads_readV5 {data : TunerRecoveryV5Data} (h : ValidV5Data data) :
    Reads readV5 (v5Lines data).flatten (dataAsWritten data) := by
  have hheader : Reads (orMessage "Invalid v5 tuner recovery-journal header." do
      let magic ← readToken
      require (magic == journalMagic) []
      let version ← readUInt32 label "format version"
      require (version == tunerRecoveryJournalV5FormatVersion) [])
      [journalMagic, decimal tunerRecoveryJournalV5FormatVersion.toNat] () := by
    refine Reads.orMessage _ ?_
    refine Reads.cons (reads_readToken _) ?_
    refine Reads.step (Reads.require (beq_self_eq_true journalMagic) _) ?_
    refine Reads.cons (reads_readUInt32 label _ _) ?_
    exact Reads.require (beq_self_eq_true _) _
  -- the words of the text, section by section
  have hlines : (v5Lines data).flatten =
      [journalMagic, decimal tunerRecoveryJournalV5FormatVersion.toNat] ++
        ((sessionLines data).flatten ++ ((endpointLines data.endpoint).flatten ++
        ((identityLines data.identity).flatten ++ ((ownershipLines data.ownership).flatten ++
        ((snapshotLines data.liveRestoreSnapshot).flatten ++
        ((deviationsLines data.deviations).flatten ++
        [ascii "RECORD_CHECKSUM", decimal (recordChecksum data).toNat, ascii "END"])))))) := by
    simp [v5Lines]
  rw [hlines]
  unfold readV5
  -- each section is taken from the front, and leaves the rest
  refine Reads.bind hheader ?_
  refine Reads.bind (reads_readSession data) ?_
  refine Reads.bind (reads_readEndpoint _) ?_
  refine Reads.bind (reads_readIdentity _) ?_
  refine Reads.bind (reads_readOwnership _ h.isolated) ?_
  refine Reads.bind (reads_readSnapshot _ h.snapshot) ?_
  refine Reads.bind (reads_readDeviations h.deviationCount h.deviation) ?_
  refine Reads.cons (reads_expectToken label _) ?_
  refine Reads.cons (reads_readUInt64 label _ _) ?_
  refine Reads.step (Reads.require ?_ _) ?_
  · -- the checksum of what was read is the one that was written
    exact beq_iff_eq.mpr (recordChecksum_asWritten data).symm
  · exact Reads.cons (reads_expectToken label _) (Reads.pure (dataAsWritten data))

/-- The words for the phases have no blank in them. -/
theorem isToken_sessionPhaseToken (phase : TuningSessionPhase) :
    IsToken (sessionPhaseToken phase) := by
  cases phase <;> decide

/-- Every word of these lines is one token. -/
def TokenLines (lines : List (List Text)) : Prop := ∀ words ∈ lines, ∀ word ∈ words, IsToken word

/-- Text that has been cut into words can be put together again section by section. -/
theorem tokenLines_append {lines lines' : List (List Text)} (h : TokenLines lines)
    (h' : TokenLines lines') : TokenLines (lines ++ lines') := by
  intro words hwords
  rcases List.mem_append.mp hwords with hwords | hwords
  · exact h words hwords
  · exact h' words hwords

/-- Host, destination and command are words because the validator says so. -/
theorem tokenLines_endpointLines {endpoint : ControllerEndpointRequest}
    (h : ValidControllerEndpoint endpoint) : TokenLines (endpointLines endpoint) := by
  have hhost := h.host
  unfold endpointLines
  cases hkind : endpoint.kind with
  | directEthernet => simp +decide [TokenLines, isToken_decimal, hhost]
  | sshBridge =>
      obtain ⟨hdestination, hcommand⟩ := h.bridge hkind
      simp +decide [TokenLines, isToken_decimal, hhost, hdestination, hcommand]

theorem tokenLines_ownershipLines (ownership : Option TunerRecoveryV5OwnershipEvidence) :
    TokenLines (ownershipLines ownership) := by
  cases ownership <;>
    simp +decide [TokenLines, ownershipLines, ownershipWords, isToken_decimal]

theorem isToken_quadWords (quad : Fw2051ScpQuadConfiguration) :
    ∀ word ∈ quadWords quad, IsToken word := by
  intro word hword
  rcases List.mem_cons.mp hword with rfl | hword
  · decide
  · obtain ⟨value, -, rfl⟩ := List.mem_map.mp hword
    exact isToken_decimal _

theorem tokenLines_snapshotLines (snapshot : Option Fw2051ScpConfigurationSnapshot) :
    TokenLines (snapshotLines snapshot) := by
  cases snapshot with
  | none => simp +decide [TokenLines]
  | some snapshot =>
      have hquads : TokenLines (snapshot.quads.map quadWords) := by
        intro words hwords
        obtain ⟨quad, -, rfl⟩ := List.mem_map.mp hwords
        exact isToken_quadWords quad
      refine tokenLines_append (tokenLines_append ?_ ?_) ?_
      · simp +decide [TokenLines]
      · show TokenLines ([_] ++ snapshot.quads.map quadWords)
        refine tokenLines_append ?_ hquads
        simp +decide [TokenLines, isToken_decimal]
      · simp +decide [TokenLines, isToken_decimal]

theorem isToken_deviationWords (deviation : TunerRecoveryV5Deviation) :
    ∀ word ∈ deviationWords deviation, IsToken word := by
  unfold deviationWords
  cases deviation.scope <;>
    simp +decide [isToken_decimal, isToken_sessionPhaseToken]

theorem tokenLines_v5Lines {data : TunerRecoveryV5Data} (h : ValidV5Data data) :
    TokenLines (v5Lines data) := by
  have hdeviations : TokenLines (data.deviations.map deviationWords) := by
    intro words hwords
    obtain ⟨deviation, -, rfl⟩ := List.mem_map.mp hwords
    exact isToken_deviationWords deviation
  unfold v5Lines
  refine tokenLines_append (tokenLines_append (tokenLines_append (tokenLines_append
    (tokenLines_append (tokenLines_append (tokenLines_append ?_ ?_)
    (tokenLines_endpointLines h.endpoint)) ?_) (tokenLines_ownershipLines _))
    (tokenLines_snapshotLines _)) (tokenLines_append (tokenLines_append ?_ hdeviations) ?_)) ?_
  · simp +decide [TokenLines]
  · simp +decide [TokenLines, sessionLines, isToken_decimal, isToken_sessionPhaseToken]
  · simp +decide [TokenLines, identityLines, isToken_decimal]
  · simp +decide [TokenLines, isToken_decimal]
  · simp +decide [TokenLines, isToken_decimal]
  · simp +decide [TokenLines, isToken_decimal]

/-! ### Validity survives

The reader validates what it has read. What comes back differs from the evidence in fields that the
validator does not look at, or accepts at their defaults. -/

/-- Without its SSH fields a direct endpoint is still accepted. -/
theorem validateEndpoint_asWritten {endpoint : ControllerEndpointRequest}
    (h : validateEndpoint endpoint = none) :
    validateEndpoint (endpointAsWritten endpoint) = none := by
  obtain ⟨kind, host, port, destination, command⟩ := endpoint
  cases kind with
  | directEthernet => exact h
  | sshBridge => exact h

/-- The chain of deviations does not depend on the selector log. -/
theorem deviationsObstacle_asWritten (snapshot : Fw2051ScpConfigurationSnapshot) (index : Nat)
    (workingValues : List (UInt64 × UInt16)) (deviations : List TunerRecoveryV5Deviation) :
    deviationsObstacle (snapshotAsWritten snapshot) index workingValues deviations =
      deviationsObstacle snapshot index workingValues deviations := by
  have hvalue : snapshotValue (snapshotAsWritten snapshot) = snapshotValue snapshot := rfl
  induction deviations generalizing index workingValues with
  | nil => rfl
  | cons deviation deviations ih => simp only [deviationsObstacle, hvalue, ih]

/-- What comes back is valid if what was written is. -/
theorem validateV5Data_asWritten {data : TunerRecoveryV5Data} (h : validateV5Data data = none) :
    validateV5Data (dataAsWritten data) = none := by
  unfold validateV5Data at h ⊢
  simp only [Option.orElse_eq_none] at h ⊢
  obtain ⟨hphase, hendpoint, hidentity, hownership, hsnapshot⟩ := h
  refine ⟨hphase, validateEndpoint_asWritten hendpoint, hidentity, hownership, ?_⟩
  cases hlive : data.liveRestoreSnapshot with
  | none =>
      rw [hlive] at hsnapshot
      simpa only [dataAsWritten, hlive, Option.map_none] using hsnapshot
  | some snapshot =>
      rw [hlive] at hsnapshot
      simp only [Option.orElse_eq_none] at hsnapshot
      obtain ⟨hvalid, hcount, hchain⟩ := hsnapshot
      simp only [dataAsWritten, hlive, Option.map_some, Option.orElse_eq_none,
        deviationsObstacle_asWritten]
      exact ⟨hvalid, hcount, hchain⟩

/-! ### The record that comes back

From the evidence to the record that contains it. -/

/-- An accepted record has evidence, of the right version, and nothing else. -/
theorem validateV5Record_eq_ok {record : TunerRecoveryRecord} {data : TunerRecoveryV5Data}
    (h : validateV5Record record = .ok data) :
    record.version5 = some data ∧ record.formatVersion = tunerRecoveryJournalV5FormatVersion ∧
      legacyEvidenceIsAbsent record = true ∧ validateV5Data data = none := by
  unfold validateV5Record at h
  split at h
  · cases h
  next data' hdata =>
  split at h
  · cases h
  next hversion =>
  split at h
  · cases h
  next habsent =>
  split at h
  · cases h
  next hvalid =>
    obtain rfl := Except.ok.inj h
    exact ⟨hdata, not_not.mp hversion, by simpa using habsent, hvalid⟩

/-- A record of format 5 as it comes back. -/
def recordAsWritten (data : TunerRecoveryV5Data) : TunerRecoveryRecord :=
  { formatVersion := tunerRecoveryJournalV5FormatVersion, version5 := some (dataAsWritten data) }

/-- A record that could be serialized is a valid one. -/
theorem serializeV5_success {record : TunerRecoveryRecord}
    (h : (serializeTunerRecoveryJournalV5 record).success = true) :
    ∃ data, validateV5Record record = .ok data ∧
      (serializeTunerRecoveryJournalV5 record).text = writeV5 data := by
  unfold serializeTunerRecoveryJournalV5 at h ⊢
  split at h
  · cases h
  next data hdata => exact ⟨data, hdata, rfl⟩

/-- Reading back what was written gives the record as written. -/
theorem parseTunerRecoveryJournalV5_writeV5 {record : TunerRecoveryRecord}
    {data : TunerRecoveryV5Data} (h : validateV5Record record = .ok data) :
    parseTunerRecoveryJournalV5 (writeV5 data) =
      { success := true, message := "Parsed v5 tuner recovery journal.",
        record := some (recordAsWritten data) } := by
  obtain ⟨-, -, -, hvalid⟩ := validateV5Record_eq_ok h
  have hdata := validV5Data_of_validate hvalid
  have htokens : tokens (writeV5 data) = (v5Lines data).flatten :=
    tokens_flatMap_line (tokenLines_v5Lines hdata)
  have hread := reads_readV5 hdata []
  rw [List.append_nil] at hread
  have hrecord : validateV5Record (recordAsWritten data) = .ok (dataAsWritten data) := by
    simp only [validateV5Record, recordAsWritten, ne_eq, not_true_eq_false, if_false,
      validateV5Data_asWritten hvalid]
    rfl
  unfold parseTunerRecoveryJournalV5
  rw [htokens, hread]
  simp only [recordAsWritten] at hrecord ⊢
  rw [hrecord]

end Fidget.RecoveryJournalV5
