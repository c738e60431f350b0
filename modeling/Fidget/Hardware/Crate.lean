import Fidget.Core.RecoveryJournal.Record
import Fidget.Hardware.Bench
import Fidget.Lib.EventLog

/-!
# The crate as an operation meets it

An operation on several modules is given the transport to the crate, the recovery journal and the
ownership gate, and all of them may answer as they please: what they answer depends on everything
that has happened before. What happens is put in a log, the latest event first, and the statements
about an operation are about the log it leaves.

## Main results

- `Surroundings`: what answers the calls of an operation; an answer may depend on the whole log.
- `LastReadZero`, `LastReadBackZero`: a register was read as zero, and nothing has been done to it
  since.
- `journalOnDisk`: the record that is on disk after these events.
- `extends_readVmeD16`, `extends_writeVmeD16`: a call adds one event to the log.
-/

namespace Fidget

/-- How the saving of a journal ends: it may be installed in spite of an error. -/
structure JournalSave where
  error : Option String
  installed : Bool
  installed_of_success : error = none → installed = true

/-- The calls that concern the path of the data. -/
inductive DataPathCall where
  | open
  | redirect
  | close
  deriving DecidableEq, Repr

/-- A call to the surroundings, with its answer. A module is named by its base address. -/
inductive CrateEvent where
  | readVme (baseAddress : UInt32) (registerOffset : UInt16) (answer : Except String UInt16)
  | writeVme (baseAddress : UInt32) (registerOffset value : UInt16) (fault : Option Fault)
  | readLocal (addresses : List UInt16) (answer : Except String (List UInt32))
  | writeLocal (writes : List (UInt16 × UInt32)) (fault : Option Fault)
  | gate (operationName : String) (answer : ScpCaptureGateResult)
  | saveJournal (record : TunerRecoveryRecord) (outcome : JournalSave)
  | removeJournal (error : Option String)
  | dataPath (call : DataPathCall) (error : Option String)
  | cancellation (requested : Bool)

/-- The events so far, the latest first. -/
abbrev CrateLog := List CrateEvent

/-- What answers the calls of an operation. -/
structure Surroundings where
  readVme : CrateLog → UInt32 → UInt16 → Except String UInt16
  writeVme : CrateLog → UInt32 → UInt16 → UInt16 → Option Fault
  readLocal : CrateLog → List UInt16 → Except String (List UInt32)
  writeLocal : CrateLog → List (UInt16 × UInt32) → Option Fault
  ownershipGate : CrateLog → String → ScpCaptureGateResult
  saveJournal : CrateLog → TunerRecoveryRecord → JournalSave
  removeJournal : CrateLog → Option String
  dataPath : CrateLog → DataPathCall → Option String
  cancellationRequested : CrateLog → Bool

namespace Surroundings

variable (outside : Surroundings) (log : CrateLog)

/-- A reading of a module. -/
def readVmeD16 (baseAddress : UInt32) (registerOffset : UInt16) :
    Except String UInt16 × CrateLog :=
  let answer := outside.readVme log baseAddress registerOffset
  (answer, .readVme baseAddress registerOffset answer :: log)

/-- The error of the write, if it failed. -/
def writeVmeD16 (baseAddress : UInt32) (registerOffset value : UInt16) : Option String × CrateLog :=
  let fault := outside.writeVme log baseAddress registerOffset value
  (fault.map (·.error), .writeVme baseAddress registerOffset value fault :: log)

/-- A batch of readings from the controller. -/
def readLocalRegisters (addresses : List UInt16) : Except String (List UInt32) × CrateLog :=
  let answer := outside.readLocal log addresses
  (answer, .readLocal addresses answer :: log)

/-- A batch of writes to the controller. -/
def writeLocalRegisters (writes : List (UInt16 × UInt32)) : Option String × CrateLog :=
  let fault := outside.writeLocal log writes
  (fault.map (·.error), .writeLocal writes fault :: log)

/-- The gate is asked whether the session may go on. -/
def askGate (operationName : String) : ScpCaptureGateResult × CrateLog :=
  let answer := outside.ownershipGate log operationName
  (answer, .gate operationName answer :: log)

/-- The record is to be saved. -/
def saveTunerRecoveryJournal (record : TunerRecoveryRecord) : Option String × CrateLog :=
  let outcome := outside.saveJournal log record
  (outcome.error, .saveJournal record outcome :: log)

/-- The journal is to be removed. -/
def removeTunerRecoveryJournal : Option String × CrateLog :=
  let error := outside.removeJournal log
  (error, .removeJournal error :: log)

/-- A call of the data path. -/
def callDataPath (call : DataPathCall) : Option String × CrateLog :=
  let error := outside.dataPath log call
  (error, .dataPath call error :: log)

/-- The flag may be set by another thread at any time, so that each look at it is an event. -/
def loadCancellation : Bool × CrateLog :=
  let requested := outside.cancellationRequested log
  (requested, .cancellation requested :: log)

end Surroundings

namespace CrateEvent

/-- A write to a register of a module or of the controller. -/
def IsWrite : CrateEvent → Prop
  | .writeVme .. => True
  | .writeLocal .. => True
  | _ => False

/-- The journal was removed. -/
def IsRemoval : CrateEvent → Prop
  | .removeJournal _ => True
  | _ => False

/-- A record was to be saved. -/
def IsSave : CrateEvent → Prop
  | .saveJournal .. => True
  | _ => False

/-- The event is about one register of one module. -/
def Touches (baseAddress : UInt32) (registerOffset : UInt16) : CrateEvent → Bool
  | .readVme base offset _ => base == baseAddress && offset == registerOffset
  | .writeVme base offset _ _ => base == baseAddress && offset == registerOffset
  | _ => false

/-- The event is about one local register of the controller. -/
def TouchesLocal (address : UInt16) : CrateEvent → Bool
  | .readLocal addresses _ => addresses.contains address
  | .writeLocal writes _ => writes.any (·.1 == address)
  | _ => false

end CrateEvent

/-- The record that the journal on disk holds, as far as it has been saved or removed. -/
def journalOnDisk : CrateLog → Option TunerRecoveryRecord
  | [] => none
  | .saveJournal record outcome :: log => if outcome.installed then some record else journalOnDisk log
  | .removeJournal none :: _ => none
  | _ :: log => journalOnDisk log

/-- The last thing done to a register was to read it, as zero. -/
def LastReadZero (baseAddress : UInt32) (registerOffset : UInt16) (log : CrateLog) : Prop :=
  log.find? (·.Touches baseAddress registerOffset) =
    some (.readVme baseAddress registerOffset (.ok 0))

/-- The last thing done to a local register was to read it on its own, as zero. -/
def LastReadBackZero (address : UInt16) (log : CrateLog) : Prop :=
  ∃ values, log.find? (·.TouchesLocal address) = some (.readLocal [address] (.ok values)) ∧
    values.head? = some 0

/-! ### What a call adds to the log -/

section Extends

variable {P : CrateEvent → Prop} {outside : Surroundings} {log log' : CrateLog}

/-- A reading is one event. -/
theorem extends_readVmeD16 {baseAddress : UInt32} {registerOffset : UInt16}
    {answer : Except String UInt16}
    (h : outside.readVmeD16 log baseAddress registerOffset = (answer, log'))
    (hP : ∀ answer, P (.readVme baseAddress registerOffset answer)) :
    EventLog.Extends P log log' := by
  obtain ⟨-, rfl⟩ := Prod.mk.inj h
  exact .single (hP _)

/-- So is a write. -/
theorem extends_writeVmeD16 {baseAddress : UInt32} {registerOffset value : UInt16}
    {error : Option String}
    (h : outside.writeVmeD16 log baseAddress registerOffset value = (error, log'))
    (hP : ∀ fault, P (.writeVme baseAddress registerOffset value fault)) :
    EventLog.Extends P log log' := by
  obtain ⟨-, rfl⟩ := Prod.mk.inj h
  exact .single (hP _)

end Extends

section LastRead

variable {log : CrateLog} {event : CrateEvent}

/-- A reading of zero is the last thing done to its register. -/
theorem lastReadZero_read (baseAddress : UInt32) (registerOffset : UInt16) (log : CrateLog) :
    LastReadZero baseAddress registerOffset
      (.readVme baseAddress registerOffset (.ok 0) :: log) := by
  apply List.find?_cons_of_pos
  simp [CrateEvent.Touches]

/-- It stays so as long as nothing else is done to the register. -/
theorem LastReadZero.extend {baseAddress : UInt32} {registerOffset : UInt16} {log' : CrateLog}
    (h : LastReadZero baseAddress registerOffset log)
    (hadded : EventLog.Extends (fun event => event.Touches baseAddress registerOffset = false)
      log log') : LastReadZero baseAddress registerOffset log' := by
  obtain ⟨added, rfl, hadded⟩ := hadded
  show List.find? _ _ = _
  rw [List.find?_append, List.find?_eq_none.mpr fun event hevent => by
    rw [hadded event hevent]
    decide]
  exact h

/-- The same for a register of the controller. -/
theorem LastReadBackZero.extend {address : UInt16} {log' : CrateLog}
    (h : LastReadBackZero address log)
    (hadded : EventLog.Extends (fun event => event.TouchesLocal address = false) log log') :
    LastReadBackZero address log' := by
  obtain ⟨values, hlog, hvalues⟩ := h
  obtain ⟨added, rfl, hadded⟩ := hadded
  refine ⟨values, ?_, hvalues⟩
  rw [List.find?_append, List.find?_eq_none.mpr fun event hevent => by
    rw [hadded event hevent]
    decide]
  exact hlog

end LastRead

end Fidget
