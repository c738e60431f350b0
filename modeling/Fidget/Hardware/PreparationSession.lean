import Fidget.Core.RecoveryJournal.Install
import Fidget.Hardware.Bench
import Fidget.Lib.EventLog

/-!
# A temporary session, as its operation meets it

`hardware/PrepareTuningSessionOperation.cpp` opens a connection of its own. Its transport, the
caller's checkpoints and the storage may answer as they please, depending on everything that has
happened before; what happens is put in a log, the latest event first.

## Main results

- `PreparationSurroundings`: what answers the calls of the operation.
- `PreparationEvent.ForbidsWrites`: the events after which nothing may be written.
- `PreparationEvent.InstallsJournal`: the events that change the journal on disk.
-/

namespace Fidget

/-- The places at which the caller is asked. -/
inductive PrepareTuningSessionCheckpointKind where
  | journalPrepared
  | daqIdleVerified
  | globalRegisterRead
  | selectorSettled
  | bankedRegisterRead
  | selectorParked
  | captureCompleted
  | beforeJournalPromotion
  | journalPromoted
  deriving DecidableEq, Repr

/-- A place, with the bank and the register it is about. -/
structure PrepareTuningSessionCheckpoint where
  kind : PrepareTuningSessionCheckpointKind := .journalPrepared
  quad : Option UInt16 := none
  registerOffset : UInt16 := 0
  ordinal : Nat := 0
  deriving DecidableEq, Repr

/-- A call to the surroundings, with its answer. -/
inductive PreparationEvent where
  | cancellation (requested : Bool)
  | createSession (error : Option String)
  | commandTransport (available : Bool)
  | openTransport (error : Option String)
  | readLocal (addresses : List UInt16) (answer : Except String (List UInt32))
  | readVme (address : UInt32) (answer : Except String UInt16)
  | writeVme (address : UInt32) (value : UInt16) (fault : Option Fault)
  | checkpoint (checkpoint : PrepareTuningSessionCheckpoint) (goesOn : Bool)
  | prepareStorage (error : Option String)
  /-- With what is found under the journal's name afterwards. -/
  | createJournal (faults : RecoveryJournal.JournalFaults) (result : TunerRecoverySaveResult)
    (destination : RecoveryJournal.DirectoryEntry)
  | promoteJournal (faults : RecoveryJournal.JournalFaults) (result : TunerRecoverySaveResult)
    (destination : RecoveryJournal.DirectoryEntry)
  | close

/-- The events so far, the latest first. -/
abbrev PreparationLog := List PreparationEvent

/-- The parts of a path that are looked at. -/
structure PathOperations where
  filename : String → String
  parentPath : String → String
  comparablePath : String → String

/-- What answers the calls of the operation. -/
structure PreparationSurroundings where
  paths : PathOperations
  cancellationRequested : PreparationLog → Bool
  createSession : PreparationLog → Option String
  commandTransport : PreparationLog → Bool
  openTransport : PreparationLog → Option String
  readLocal : PreparationLog → List UInt16 → Except String (List UInt32)
  readVme : PreparationLog → UInt32 → Except String UInt16
  writeVme : PreparationLog → UInt32 → UInt16 → Option Fault
  checkpoint : PreparationLog → PrepareTuningSessionCheckpoint → Bool
  prepareStorage : PreparationLog → Option String
  journalFaults : PreparationLog → RecoveryJournal.JournalFaults

namespace PreparationSurroundings

variable (outside : PreparationSurroundings) (log : PreparationLog)

/-- The flag may be set by another thread at any time, so that each look at it is an event. -/
def loadCancellation : Bool × PreparationLog :=
  let requested := outside.cancellationRequested log
  (requested, .cancellation requested :: log)

/-- A batch of readings from the controller. -/
def readLocalRegisters (addresses : List UInt16) :
    Except String (List UInt32) × PreparationLog :=
  let answer := outside.readLocal log addresses
  (answer, .readLocal addresses answer :: log)

/-- A reading of the module. -/
def readVmeD16 (address : UInt32) : Except String UInt16 × PreparationLog :=
  let answer := outside.readVme log address
  (answer, .readVme address answer :: log)

/-- The error of the write, if it failed. -/
def writeVmeD16 (address : UInt32) (value : UInt16) : Option String × PreparationLog :=
  let fault := outside.writeVme log address value
  (fault.map (·.error), .writeVme address value fault :: log)

/-- The caller is asked whether to go on. -/
def passCheckpoint (checkpoint : PrepareTuningSessionCheckpoint) : Bool × PreparationLog :=
  let goesOn := outside.checkpoint log checkpoint
  (goesOn, .checkpoint checkpoint goesOn :: log)

end PreparationSurroundings

/-- The acquisition mode of the controller. -/
def daqModeRegister : UInt16 := 0x1300

namespace PreparationEvent

/-- A write to the module. -/
def IsVmeWrite : PreparationEvent → Prop
  | .writeVme .. => True
  | _ => False

/-- The event says that nothing more may be written: acquisition is not off, or the run is to stop. -/
def ForbidsWrites : PreparationEvent → Prop
  | .readLocal addresses (.ok values) => ∃ value ≠ 0, (daqModeRegister, value) ∈ addresses.zip values
  | .checkpoint _ false => True
  | _ => False

/-- The journal on disk was changed. -/
def InstallsJournal : PreparationEvent → Prop
  | .createJournal _ result _ => result.destinationInstalled = true
  | .promoteJournal _ result _ => result.destinationInstalled = true
  | _ => False

end PreparationEvent

end Fidget
