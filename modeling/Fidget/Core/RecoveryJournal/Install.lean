import Fidget.Core.RecoveryJournal
import Mathlib.Logic.Function.Basic

/-!
# Installing a recovery journal

`core/RecoveryJournal.cpp`, the file side: a serialized record is written and made durable in a
staging workspace inside the recovery directory, and put under its name by one rename, or by one
hard link where it must not replace anything. What the operating system and the injected seams do
is not known beforehand; it is given, stage by stage.

An installation is a sequence of stages, and every stage may fail. Its lemma says what the directory
looks like if it has and if it has not; only one stage, the rename or the link, changes what is
under the journal's name, and only the last one decides whether that is durable.

## Main results

- `installSerializedJournalAtomically_spec`: what is reported of the destination is so, whichever
  stage fails.
-/

namespace Fidget

open TokenText

namespace RecoveryJournal

/-! ### The recovery directory

What the source does with paths is left at a small number of names: the journal's own and those of
the staging workspaces. What is under the journal's name may also be something that is no plain
file. -/

/-- What is found under the journal's name. -/
inductive DirectoryEntry where
  | absent
  | file (content : Text)
  /-- A directory, a link or a device, and what reading through it gives. -/
  | other (content : Text)
  deriving DecidableEq, Repr

/-- What is under one of the staging names. -/
inductive StagingWorkspace where
  | empty
  | journal (content : Text)
  deriving DecidableEq, Repr

/-- The directory of the journal: what is under its name, and the staging names. -/
structure RecoveryDirectory where
  isPlainDirectory : Bool
  destination : DirectoryEntry
  /-- The workspaces by the number of their attempt. -/
  staging : Nat → Option StagingWorkspace

/-- How the stages fail: a text for each that does. -/
structure JournalFaults where
  resolveDestination : Bool := false
  inspectDestination : Option Text := none
  /-- Neither the workspace can be created nor a collision be established. -/
  createWorkspace : Nat → Option Text := fun _ => none
  sameFilesystem : Option Text := none
  openTemporary : Bool := false
  /-- What a writer that failed has left in the temporary file. -/
  write : Option Text := none
  synchronizeFile : Option Text := none
  install : Option Text := none
  synchronizeDirectory : Option Text := none
  removeWorkspace : Bool := false
  openJournal : Bool := false
  readJournal : Bool := false

end RecoveryJournal

open RecoveryJournal

/-- What a save reports. The new record may be in place even though the save failed. -/
structure TunerRecoverySaveResult where
  success : Bool := false
  message : Text := []
  destinationAlreadyExists : Bool := false
  destinationInstalled : Bool := false
  deriving DecidableEq, Repr

structure TunerRecoveryLoadResult where
  success : Bool := false
  fileMissing : Bool := false
  message : Text := []
  record : Option TunerRecoveryRecord := none
  deriving DecidableEq, Repr

namespace RecoveryJournal

/-- Whether what is there may be replaced. -/
inductive AtomicJournalInstallMode where
  | upsert
  | exclusive
  | replaceExisting
  deriving DecidableEq, Repr

/-- So many staging names are tried. -/
def maximumAtomicJournalCollisions : Nat := 64

/-! ### Stages

In the order of the source: the checks, the staging workspace, the temporary journal, the rename or
link, and the synchronisation of the directory. What is left of the staging is removed whatever
comes. -/

namespace RecoveryDirectory

def destinationExists (directory : RecoveryDirectory) : Bool :=
  directory.destination ≠ .absent

def setStaging (directory : RecoveryDirectory) (attempt : Nat)
    (workspace : Option StagingWorkspace) : RecoveryDirectory :=
  { directory with staging := Function.update directory.staging attempt workspace }

/-- What goes wrong here stays without notice. -/
def removeAtomicWorkspace (directory : RecoveryDirectory) (faults : JournalFaults)
    (attempt : Nat) : RecoveryDirectory :=
  if faults.removeWorkspace then directory else directory.setStaging attempt none

/-- The temporary journal moves to the destination and takes its place. -/
def rename (directory : RecoveryDirectory) (attempt : Nat) (content : Text) : RecoveryDirectory :=
  { directory.setStaging attempt (some .empty) with destination := .file content }

/-- The temporary journal gets the destination as a second name. -/
def createHardLink (directory : RecoveryDirectory) (content : Text) : RecoveryDirectory :=
  { directory with destination := .file content }

end RecoveryDirectory

/-- The checks before anything is created: the result that refuses, if any. -/
def destinationObstacle (faults : JournalFaults) (mode : AtomicJournalInstallMode)
    (directory : RecoveryDirectory) : Option TunerRecoverySaveResult :=
  if faults.resolveDestination then
    some { message := "The recovery-journal destination is invalid." }
  else if !directory.isPlainDirectory then
    some { message := ascii ("The recovery-journal directory is not a pre-existing, durably "
      ++ "prepared plain directory.") }
  else
    match faults.inspectDestination with
    | some error =>
      some { message := "Could not inspect the recovery-journal destination: " ++ error ++ "." }
    | none =>
      match directory.destination with
      | .other _ => some { message := "The recovery-journal destination is not a plain file." }
      | destination =>
        if mode = .exclusive ∧ destination ≠ .absent then
          some { destinationAlreadyExists := true
                 message := "A recovery journal already exists at the exclusive destination." }
        else if mode = .replaceExisting ∧ destination = .absent then
          some { message := "The Prepared recovery journal is not a plain file." }
        else none

/-- The first free workspace; the text is empty when all are taken. -/
def allocateWorkspace (faults : JournalFaults) (directory : RecoveryDirectory) :
    List Nat → Except Text Nat
  | [] => .error []
  | attempt :: attempts =>
    match faults.createWorkspace attempt with
    | some error => .error error
    | none =>
      if (directory.staging attempt).isSome then allocateWorkspace faults directory attempts
      else .ok attempt

/-- A text, or another where it is empty. -/
def orElseText (text fallback : Text) : Text := if text = [] then fallback else text

/-- The temporary journal is written and made durable: a message if that fails, and the directory
after it. -/
def stageJournal (faults : JournalFaults) (text : Text) (directory : RecoveryDirectory)
    (attempt : Nat) : Option Text × RecoveryDirectory :=
  match faults.sameFilesystem with
  | some error =>
    (some (orElseText error "Could not prove same-filesystem recovery-journal staging."),
      directory)
  | none =>
    if faults.openTemporary then
      (some "Could not open the temporary recovery journal.", directory)
    else
      match faults.write with
      | some written =>
        (some "Writing the temporary recovery journal failed.",
          directory.setStaging attempt (some (.journal written)))
      | none =>
        (faults.synchronizeFile.map
            (orElseText · "Could not make the temporary recovery journal durable."),
          directory.setStaging attempt (some (.journal text)))

/-- The content of the temporary journal. -/
def temporaryContent (directory : RecoveryDirectory) (attempt : Nat) : Option Text :=
  match directory.staging attempt with
  | some (.journal content) => some content
  | _ => none

/-- Whether a journal exists already and the error, or the directory with the journal installed. -/
def installJournal (faults : JournalFaults) (mode : AtomicJournalInstallMode)
    (directory : RecoveryDirectory) (attempt : Nat) : Except (Bool × Text) RecoveryDirectory :=
  match faults.install, temporaryContent directory attempt with
  | some error, _ => .error (false, error)
  | none, none => .error (false, "No such file or directory")
  | none, some content =>
    if mode = .exclusive then
      -- A hard link never replaces an existing name.
      if directory.destinationExists then .error (true, "File exists")
      else .ok (directory.createHardLink content)
    else .ok (directory.rename attempt content)

def installedMessage : AtomicJournalInstallMode → Text
  | .exclusive => "Created the tuner recovery journal exclusively and durably."
  | .replaceExisting => "Promoted the tuner recovery journal atomically and durably."
  | .upsert => "Saved tuner recovery journal durably."

/-- The stages after a workspace has been created. -/
def installFromWorkspace (faults : JournalFaults) (text : Text)
    (mode : AtomicJournalInstallMode) (directory : RecoveryDirectory) (attempt : Nat) :
    TunerRecoverySaveResult × RecoveryDirectory :=
  let (stagingError, directory) := stageJournal faults text directory attempt
  match stagingError with
  | some message => ({ message }, directory.removeAtomicWorkspace faults attempt)
  | none =>
    match installJournal faults mode directory attempt with
    | .error (alreadyExists, error) =>
      ({ destinationAlreadyExists := alreadyExists
         message :=
          if alreadyExists then "A recovery journal already exists at the exclusive destination."
          else "Could not atomically install the recovery journal: "
            ++ (if error = [] then ascii "installation failed." else error ++ ".") },
        directory.removeAtomicWorkspace faults attempt)
    | .ok directory =>
      let directory := directory.removeAtomicWorkspace faults attempt
      match faults.synchronizeDirectory with
      | some error =>
        ({ destinationInstalled := true
           message := orElseText error
            "Could not make the installed recovery journal durable." }, directory)
      | none =>
        ({ success := true, destinationInstalled := true, message := installedMessage mode },
          directory)

/-- Stage the text, make it durable, put it in place, make the directory durable. -/
def installSerializedJournalAtomically (faults : JournalFaults) (text : Text)
    (mode : AtomicJournalInstallMode) (directory : RecoveryDirectory) :
    TunerRecoverySaveResult × RecoveryDirectory :=
  match destinationObstacle faults mode directory with
  | some result => (result, directory)
  | none =>
    match allocateWorkspace faults directory (List.range maximumAtomicJournalCollisions) with
    | .error error =>
      ({ message :=
          if error = [] then "Could not allocate an atomic recovery-journal workspace."
          else "Could not create an atomic recovery-journal workspace: " ++ error ++ "." },
        directory)
    | .ok attempt =>
      installFromWorkspace faults text mode (directory.setStaging attempt (some .empty)) attempt

end RecoveryJournal

/-! ### The three forms of saving

They differ in whether an existing journal may be replaced and in what they look at before. A
promotion loads the journal first and goes on only if it is the identity-only record of the same
session. -/

def loadTunerRecoveryJournal (faults : JournalFaults) (path : String)
    (directory : RecoveryDirectory) : TunerRecoveryLoadResult :=
  let parsed (content : Text) : TunerRecoveryLoadResult :=
    if faults.openJournal then { message := "Could not open the tuner recovery journal." }
    else if faults.readJournal then { message := "Could not read the tuner recovery journal." }
    else
      let parsed := parseTunerRecoveryJournal content
      if !parsed.success then { message := parsed.message }
      else { success := true, message := "Loaded tuner recovery journal.", record := parsed.record }
  if path = "" then { message := "The tuner recovery-journal path is empty." }
  else
    match directory.destination with
    | .absent => { fileMissing := true, message := "No tuner recovery journal is present." }
    | .file content => parsed content
    | .other content => parsed content

/-- Replaces what is there. -/
def saveTunerRecoveryJournal (faults : JournalFaults) (record : TunerRecoveryRecord)
    (path : String) (directory : RecoveryDirectory) :
    TunerRecoverySaveResult × RecoveryDirectory :=
  let serialized := serializeTunerRecoveryJournal record
  if path = "" then ({ message := "The tuner recovery-journal path is empty." }, directory)
  else if !serialized.success then
    ({ message := "Recovery journal not saved: " ++ serialized.message }, directory)
  else installSerializedJournalAtomically faults serialized.text .upsert directory

/-- Leaves what is there alone. -/
def createTunerRecoveryJournalExclusive (faults : JournalFaults) (record : TunerRecoveryRecord)
    (path : String) (directory : RecoveryDirectory) :
    TunerRecoverySaveResult × RecoveryDirectory :=
  let serialized := serializeTunerRecoveryJournal record
  if path = "" then ({ message := "The tuner recovery-journal path is empty." }, directory)
  else if !serialized.success then
    ({ message := "Recovery journal not created: " ++ serialized.message }, directory)
  else installSerializedJournalAtomically faults serialized.text .exclusive directory

namespace RecoveryJournal

/-- The identity-only record that a snapshot may replace. -/
def identityOnlyPrepared (prepared : TunerRecoveryV5Data) : Bool :=
  prepared.sessionPhase = .preparing && prepared.selectorParkingRequired
    && prepared.ownership.isNone && prepared.liveRestoreSnapshot.isNone
    && prepared.deviations = []

/-- The snapshot record that may replace an identity-only one. -/
def promotesPrepared (promoted prepared : TunerRecoveryV5Data) : Bool :=
  promoted.sessionPhase = prepared.sessionPhase && !promoted.selectorParkingRequired
    && promoted.ownership.isNone && promoted.liveRestoreSnapshot.isSome
    && promoted.deviations = [] && promoted.endpoint = prepared.endpoint
    && promoted.identity = prepared.identity

/-- The evidence of a record of format 5. -/
def version5Of (record : TunerRecoveryRecord) : Option TunerRecoveryV5Data :=
  if record.formatVersion = tunerRecoveryJournalV5FormatVersion then record.version5 else none

end RecoveryJournal

/-- Replaces what is there if it is the identity-only record of the same session. -/
def promoteTunerRecoveryJournalV5Snapshot (faults : JournalFaults) (record : TunerRecoveryRecord)
    (path : String) (directory : RecoveryDirectory) :
    TunerRecoverySaveResult × RecoveryDirectory :=
  let loaded := loadTunerRecoveryJournal faults path directory
  if path = "" then ({ message := "The tuner recovery-journal path is empty." }, directory)
  else
    match (if loaded.success then loaded.record else none).bind version5Of with
    | none =>
      ({ message := "The existing Prepared v5 recovery journal could not be trusted: "
          ++ loaded.message }, directory)
    | some prepared =>
      if !identityOnlyPrepared prepared then
        ({ message := "The existing journal is not the identity-only Prepared record." },
          directory)
      else
        match version5Of record with
        | none => ({ message := "The promoted recovery journal is not v5." }, directory)
        | some promoted =>
          if !promotesPrepared promoted prepared then
            ({ message := "The promoted snapshot does not match its Prepared authority." },
              directory)
          else
            let serialized := serializeTunerRecoveryJournal record
            if !serialized.success then
              ({ message := "Recovery journal not promoted: " ++ serialized.message }, directory)
            else
              installSerializedJournalAtomically faults serialized.text .replaceExisting directory

/-! ### What an installation leaves

Two flags of the result speak of the destination, and both have to be right even if the installation
fails half way: one that the new text is in place, the other that what was there is untouched. -/

namespace RecoveryJournal

/-- The result says what became of the destination: it has the text, or what it had before. -/
structure DescribesDestination (text : Text) (before : RecoveryDirectory)
    (outcome : TunerRecoverySaveResult × RecoveryDirectory) : Prop where
  installed_of_success : outcome.1.success = true → outcome.1.destinationInstalled = true
  installed : outcome.1.destinationInstalled = true → outcome.2.destination = .file text
  kept : outcome.1.destinationInstalled = false → outcome.2.destination = before.destination

/-- A refusal that leaves the destination as it was is reported as such. -/
theorem describesDestination_refused {text : Text} {before after : RecoveryDirectory}
    {result : TunerRecoverySaveResult} (hsuccess : result.success = false)
    (hinstalled : result.destinationInstalled = false)
    (hafter : after.destination = before.destination) :
    DescribesDestination text before (result, after) where
  installed_of_success := fun h => absurd (hsuccess.symm.trans h) (by decide)
  installed := fun h => absurd (hinstalled.symm.trans h) (by decide)
  kept := fun _ => hafter

section Stages

variable {faults : JournalFaults} {mode : AtomicJournalInstallMode} {text : Text}
  {directory : RecoveryDirectory} {attempt : Nat}

/-- Cleaning up does not touch the destination. -/
theorem destination_removeAtomicWorkspace :
    (directory.removeAtomicWorkspace faults attempt).destination = directory.destination := by
  unfold RecoveryDirectory.removeAtomicWorkspace
  split <;> rfl

theorem destinationObstacle_flags {result : TunerRecoverySaveResult}
    (h : destinationObstacle faults mode directory = some result) :
    result.success = false ∧ result.destinationInstalled = false := by
  unfold destinationObstacle at h
  split at h
  · cases h
    exact ⟨rfl, rfl⟩
  split at h
  · cases h
    exact ⟨rfl, rfl⟩
  split at h
  · cases h
    exact ⟨rfl, rfl⟩
  split at h
  · cases h
    exact ⟨rfl, rfl⟩
  split at h
  · cases h
    exact ⟨rfl, rfl⟩
  split at h
  · cases h
    exact ⟨rfl, rfl⟩
  · cases h

/-- What has passed the checks may be installed in the given mode. -/
theorem destination_of_no_obstacle (h : destinationObstacle faults mode directory = none) :
    (mode = .exclusive → directory.destination = .absent) ∧
      (mode = .replaceExisting → ∃ content, directory.destination = .file content) := by
  unfold destinationObstacle at h
  split at h
  · cases h
  split at h
  · cases h
  split at h
  · cases h
  split at h
  · cases h
  next hplain =>
    split at h
    · cases h
    next hexclusive =>
      split at h
      · cases h
      next hreplace =>
        -- past every obstacle the destination is a plain file or absent, as the mode asks
        refine ⟨fun hmode => ?_, fun hmode => ?_⟩
        · exact not_not.mp fun hne => hexclusive ⟨hmode, hne⟩
        · cases hentry : directory.destination with
          | absent => exact absurd ⟨hmode, hentry⟩ hreplace
          | file content => exact ⟨content, rfl⟩
          | other content => exact absurd hentry (hplain content)

/-- Staging leaves the destination alone; when it succeeds, the temporary journal is complete. -/
theorem stageJournal_spec :
    (stageJournal faults text directory attempt).2.destination = directory.destination ∧
      ((stageJournal faults text directory attempt).1 = none →
        temporaryContent (stageJournal faults text directory attempt).2 attempt = some text) := by
  have hcontent : temporaryContent (directory.setStaging attempt (some (.journal text))) attempt =
      some text := by
    simp [temporaryContent, RecoveryDirectory.setStaging]
  unfold stageJournal
  split
  · exact ⟨rfl, fun h => absurd h (by simp)⟩
  split
  · exact ⟨rfl, fun h => absurd h (by simp)⟩
  split
  · exact ⟨rfl, fun h => absurd h (by simp)⟩
  · exact ⟨rfl, fun _ => hcontent⟩

/-- The one step that changes the destination gives it the staged text. -/
theorem installJournal_spec {after : RecoveryDirectory}
    (hcontent : temporaryContent directory attempt = some text)
    (h : installJournal faults mode directory attempt = .ok after) :
    after.destination = .file text := by
  unfold installJournal at h
  rw [hcontent] at h
  split at h
  · cases h
  next heq => cases heq
  next content heq =>
    cases heq
    split at h
    · split at h
      · cases h
      · cases h
        rfl
    · cases h
      rfl

/-- The stages after a staging name has been found. -/
theorem installFromWorkspace_spec :
    DescribesDestination text directory
      (installFromWorkspace faults text mode directory attempt) := by
  obtain ⟨hstaged, hcontent⟩ := @stageJournal_spec faults text directory attempt
  unfold installFromWorkspace
  split
  next stagingError staged heq =>
    rw [heq] at hstaged hcontent
    split
    · exact describesDestination_refused rfl rfl
        (destination_removeAtomicWorkspace.trans hstaged)
    · split
      · exact describesDestination_refused rfl rfl
          (destination_removeAtomicWorkspace.trans hstaged)
      next after hinstalled =>
        have hafter := installJournal_spec (hcontent rfl) hinstalled
        simp only
        split
        · exact ⟨fun _ => rfl, fun _ => destination_removeAtomicWorkspace.trans hafter,
            Bool.noConfusion⟩
        · exact ⟨fun _ => rfl, fun _ => destination_removeAtomicWorkspace.trans hafter,
            Bool.noConfusion⟩

theorem installSerializedJournalAtomically_spec :
    DescribesDestination text directory
      (installSerializedJournalAtomically faults text mode directory) := by
  unfold installSerializedJournalAtomically
  split
  next result hobstacle =>
    obtain ⟨hsuccess, hinstalled⟩ := destinationObstacle_flags hobstacle
    exact describesDestination_refused hsuccess hinstalled rfl
  · split
    · exact describesDestination_refused rfl rfl rfl
    next attempt _ =>
      have hspec := @installFromWorkspace_spec faults mode text
        (directory.setStaging attempt (some .empty)) attempt
      exact ⟨hspec.installed_of_success, hspec.installed, hspec.kept⟩

/-- What is reported as a success is durable: file and directory have been synchronized. -/
theorem synchronized_of_success
    (h : (installSerializedJournalAtomically faults text mode directory).1.success = true) :
    faults.synchronizeFile = none ∧ faults.synchronizeDirectory = none := by
  unfold installSerializedJournalAtomically at h
  split at h
  next result hobstacle =>
    rw [(destinationObstacle_flags hobstacle).1] at h
    cases h
  · split at h
    · cases h
    · unfold installFromWorkspace at h
      split at h
      next stagingError staged heq =>
        split at h
        · cases h
        · split at h
          · cases h
          · dsimp only at h
            split at h
            · cases h
            next hdirectory =>
              -- the staging ran to its end, and its last step synchronizes the file
              refine ⟨?_, hdirectory⟩
              unfold stageJournal at heq
              split at heq
              · cases (Prod.mk.inj heq).1
              split at heq
              · cases (Prod.mk.inj heq).1
              split at heq
              · cases (Prod.mk.inj heq).1
              · exact Option.map_eq_none_iff.mp (Prod.mk.inj heq).1

/-- Nothing is installed exclusively over an existing destination. -/
theorem installSerializedJournalAtomically_exclusive (h : directory.destination ≠ .absent) :
    (installSerializedJournalAtomically faults text .exclusive directory).2.destination =
      directory.destination := by
  unfold installSerializedJournalAtomically
  split
  · rfl
  next hobstacle => exact absurd ((destination_of_no_obstacle hobstacle).1 rfl) h

/-- Only a plain file is replaced by a promotion. -/
theorem installSerializedJournalAtomically_replace
    (h : (installSerializedJournalAtomically faults text .replaceExisting directory).2.destination ≠
      directory.destination) : ∃ content, directory.destination = .file content := by
  unfold installSerializedJournalAtomically at h
  split at h
  · exact absurd rfl h
  next hobstacle => exact (destination_of_no_obstacle hobstacle).2 rfl

end Stages

/-- The three ways to put a record under the journal's name. -/
inductive JournalForm where
  | save
  | createExclusive
  | promoteSnapshot
  deriving DecidableEq, Repr

def JournalForm.run (form : JournalForm) (faults : JournalFaults) (record : TunerRecoveryRecord)
    (path : String) (directory : RecoveryDirectory) :
    TunerRecoverySaveResult × RecoveryDirectory :=
  match form with
  | save => saveTunerRecoveryJournal faults record path directory
  | createExclusive => createTunerRecoveryJournalExclusive faults record path directory
  | promoteSnapshot => promoteTunerRecoveryJournalV5Snapshot faults record path directory

/-- A save succeeds only if file and directory were made durable. -/
theorem synchronized_of_create {faults : JournalFaults} {record : TunerRecoveryRecord}
    {path : String} {directory : RecoveryDirectory}
    (h : (createTunerRecoveryJournalExclusive faults record path directory).1.success = true) :
    faults.synchronizeFile = none ∧ faults.synchronizeDirectory = none := by
  unfold createTunerRecoveryJournalExclusive at h
  dsimp only at h
  split at h
  · cases h
  split at h
  · cases h
  · exact synchronized_of_success h

/-- What was loaded is what a plain file says. -/
theorem record_of_loaded {faults : JournalFaults} {path : String} {directory : RecoveryDirectory}
    {content : Text} (hcontent : directory.destination = .file content)
    (h : (loadTunerRecoveryJournal faults path directory).success = true) :
    (loadTunerRecoveryJournal faults path directory).record =
      (parseTunerRecoveryJournal content).record := by
  unfold loadTunerRecoveryJournal at h ⊢
  rw [hcontent] at h ⊢
  simp only at h ⊢
  split
  next hpath => rw [if_pos hpath] at h; cases h
  split
  next hpath hopen => rw [if_neg hpath, if_pos hopen] at h; cases h
  split
  next hpath hopen hread => rw [if_neg hpath, if_neg hopen, if_pos hread] at h; cases h
  split
  next hpath hopen hread hparsed =>
    rw [if_neg hpath, if_neg hopen, if_neg hread, if_pos hparsed] at h
    cases h
  · rfl

/-- What a promotion that changes the destination has read there. -/
theorem promote_authority {faults : JournalFaults} {record : TunerRecoveryRecord} {path : String}
    {directory : RecoveryDirectory}
    (h : (promoteTunerRecoveryJournalV5Snapshot faults record path directory).2.destination ≠
      directory.destination) :
    ∃ content prepared promoted, directory.destination = .file content ∧
      (parseTunerRecoveryJournal content).record.bind version5Of = some prepared ∧
      version5Of record = some promoted ∧ identityOnlyPrepared prepared = true ∧
      promotesPrepared promoted prepared = true := by
  unfold promoteTunerRecoveryJournalV5Snapshot at h
  simp only at h
  split at h
  · exact absurd rfl h
  next hpath =>
    split at h
    · exact absurd rfl h
    next prepared hprepared =>
      split at h
      · exact absurd rfl h
      next hidentity =>
        split at h
        · exact absurd rfl h
        next promoted hpromoted =>
          split at h
          · exact absurd rfl h
          next hpromotes =>
            split at h
            · exact absurd rfl h
            · -- every earlier refusal leaves the destination as it was
              obtain ⟨content, hcontent⟩ := installSerializedJournalAtomically_replace h
              refine ⟨content, prepared, promoted, hcontent, ?_, hpromoted,
                by simpa using hidentity, by simpa using hpromotes⟩
              split at hprepared
              next hloaded =>
                rw [record_of_loaded hcontent hloaded] at hprepared
                exact hprepared
              · cases hprepared

/-- Each of the three ways says what became of the destination. -/
theorem describesDestination_run (form : JournalForm) (faults : JournalFaults)
    (record : TunerRecoveryRecord) (path : String) (directory : RecoveryDirectory) :
    DescribesDestination (serializeTunerRecoveryJournal record).text directory
      (form.run faults record path directory) := by
  have hrefused : ∀ message : Text, DescribesDestination (serializeTunerRecoveryJournal record).text
      directory ({ message := message }, directory) :=
    fun _ => describesDestination_refused rfl rfl rfl
  cases form with
  -- two checks of the record come first
  | save =>
      show DescribesDestination _ _ (saveTunerRecoveryJournal faults record path directory)
      unfold saveTunerRecoveryJournal
      simp only
      split
      · exact hrefused _
      split
      · exact hrefused _
      · exact installSerializedJournalAtomically_spec
  | createExclusive =>
      show DescribesDestination _ _
        (createTunerRecoveryJournalExclusive faults record path directory)
      unfold createTunerRecoveryJournalExclusive
      simp only
      split
      · exact hrefused _
      split
      · exact hrefused _
      · exact installSerializedJournalAtomically_spec
  -- six checks, of the record and of what is there, come first
  | promoteSnapshot =>
      show DescribesDestination _ _
        (promoteTunerRecoveryJournalV5Snapshot faults record path directory)
      unfold promoteTunerRecoveryJournalV5Snapshot
      simp only
      split
      · exact hrefused _
      split
      · exact hrefused _
      split
      · exact hrefused _
      split
      · exact hrefused _
      split
      · exact hrefused _
      split
      · exact hrefused _
      · exact installSerializedJournalAtomically_spec

/-- Whatever fails: the destination holds the complete new record if it is reported installed, and
exactly what it held before otherwise. -/
theorem journalForm_describes_destination (form : JournalForm) (faults : JournalFaults)
    (record : TunerRecoveryRecord) (path : String) (directory : RecoveryDirectory) :
    let outcome := form.run faults record path directory
    (outcome.1.destinationInstalled = true →
      outcome.2.destination = .file (serializeTunerRecoveryJournal record).text) ∧
    (outcome.1.destinationInstalled = false →
      outcome.2.destination = directory.destination) ∧
    (outcome.1.success = true → outcome.1.destinationInstalled = true) ∧
    (form = .createExclusive → directory.destination ≠ .absent →
      outcome.2.destination = directory.destination) ∧
    (form = .promoteSnapshot → outcome.2.destination ≠ directory.destination →
      ∃ content prepared promoted, directory.destination = .file content ∧
        (parseTunerRecoveryJournal content).record.bind version5Of = some prepared ∧
        version5Of record = some promoted ∧ prepared.sessionPhase = .preparing ∧
        promoted.endpoint = prepared.endpoint ∧ promoted.identity = prepared.identity ∧
        prepared.ownership = none ∧ prepared.liveRestoreSnapshot = none ∧
        prepared.deviations = []) := by
  have hdescribes := describesDestination_run form faults record path directory
  refine ⟨hdescribes.installed, hdescribes.kept, hdescribes.installed_of_success, ?_, ?_⟩
  · -- an exclusive creation does not touch a destination that exists
    rintro rfl hexists
    show (createTunerRecoveryJournalExclusive faults record path directory).2.destination = _
    unfold createTunerRecoveryJournalExclusive
    simp only
    split
    · rfl
    split
    · rfl
    · exact installSerializedJournalAtomically_exclusive hexists
  · -- a promotion that changed the destination had its authority from the record before
    rintro rfl hchanged
    obtain ⟨content, prepared, promoted, hcontent, hparsed, hpromoted, hidentity, hpromotes⟩ :=
      promote_authority hchanged
    simp only [identityOnlyPrepared, Bool.and_eq_true, decide_eq_true_eq, Option.isNone_iff_eq_none]
      at hidentity
    simp only [promotesPrepared, Bool.and_eq_true, decide_eq_true_eq] at hpromotes
    obtain ⟨⟨⟨⟨hphase, -⟩, hownership⟩, hsnapshot⟩, hdeviations⟩ := hidentity
    obtain ⟨⟨-, hendpoint⟩, hsame⟩ := hpromotes
    exact ⟨content, prepared, promoted, hcontent, hparsed, hpromoted, hphase, hendpoint, hsame,
      hownership, hsnapshot, hdeviations⟩

/-- A record of format 4 that is written as it stands. -/
def plainRecord : TunerRecoveryRecord :=
  { host := "mvlc", mvlcHardwareId := 0x5008, mdppBaseAddress := 0x11000000
    mdppHardwareId := 0x5007, mdppIrqLevel := 1, stackTriggerRegister := 0x1104
    stackTriggerValue := 1, stackOffsetRegister := 0x1204, stackOffsetValue := 1
    ownershipTokenRegister := 0x2000, ownershipTokenValue := 7 }

/-- A record saved over its own text is there whether or not the second save installs anything. -/
theorem journalForm_holds_record_not_installed :
    ¬ ∀ (form : JournalForm) (faults : JournalFaults) (record : TunerRecoveryRecord)
      (path : String) (directory : RecoveryDirectory),
      (serializeTunerRecoveryJournal record).success = true →
      ((form.run faults record path directory).2.destination =
          .file (serializeTunerRecoveryJournal record).text ↔
        (form.run faults record path directory).1.destinationInstalled = true) := by
  intro h
  have hheld := (h .save { write := some [] } plainRecord "journal"
    { isPlainDirectory := true
      destination := .file (serializeTunerRecoveryJournal plainRecord).text
      staging := fun _ => none } (by decide +kernel)).mp (by decide +kernel)
  revert hheld
  decide +kernel

end RecoveryJournal

end Fidget
