import Fidget.Core.ScpRegistry
import Fidget.Lib.NumberText
import Mathlib.Data.UInt
import Mathlib.Logic.Function.Basic

/-!
# A module on an unreliable bus

What the hardware operations act on: the registers of one module, seventeen of them banked behind
the selector, and the local registers of the controller. Every call to the transport either
succeeds, and then takes effect at once, or fails with a text; a write that failed may have
reached the module all the same. Which calls fail is not known beforehand: an operation is given
the outcome of each of its calls, named by where in the operation the call stands.

## Main results

- `writeVmeD16_cases`: after a call to write, the module is what it was or has the value written.
- `read_write`, `read_write_of_banked`, `read_write_of_global`: what is read after a write.
- `SameButSelector`: what a selection changes of a module.
-/

namespace Fidget

/-- The module and the controller. -/
structure Bench where
  registers : UInt16 → UInt16
  banks : BankCell → UInt16
  localRegisters : UInt16 → UInt32

/-- How a call to the transport fails. -/
structure Fault where
  error : String
  /-- A write reached its register in spite of the failure. -/
  takesEffect : Bool
  deriving DecidableEq, Repr

namespace Bench

/-- The bank that banked registers are read from and written to. -/
def selector (bench : Bench) : UInt16 := bench.registers fw2051ScpSelectorRegister

/-- A register of the banks shows the bank that is selected. -/
def read (bench : Bench) (registerOffset : UInt16) : UInt16 :=
  if (findFw2051ScpSetting registerOffset).isSome then
    bench.banks (bench.selector.toNat, registerOffset)
  else bench.registers registerOffset

/-- So does a write to it. -/
def write (bench : Bench) (registerOffset value : UInt16) : Bench :=
  if (findFw2051ScpSetting registerOffset).isSome then
    { bench with
      banks := Function.update bench.banks (bench.selector.toNat, registerOffset) value }
  else { bench with registers := Function.update bench.registers registerOffset value }

/-- Writes to the registers of the controller, in order. -/
def writeLocal (bench : Bench) (writes : List (UInt16 × UInt32)) : Bench :=
  { bench with
    localRegisters := writes.foldl
      (fun registers written => Function.update registers written.1 written.2)
      bench.localRegisters }

/-! ### Calls to the transport -/

/-- A reading that is lost has an error instead of a value. -/
def readVmeD16 (bench : Bench) (fault : Option Fault) (registerOffset : UInt16) :
    Except String UInt16 :=
  match fault with
  | none => .ok (bench.read registerOffset)
  | some fault => .error fault.error

/-- The error of the write, if it failed, and the module after it. -/
def writeVmeD16 (bench : Bench) (fault : Option Fault) (registerOffset value : UInt16) :
    Option String × Bench :=
  match fault with
  | none => (none, bench.write registerOffset value)
  | some fault =>
    (some fault.error, if fault.takesEffect then bench.write registerOffset value else bench)

/-- A batch of readings from the controller. -/
def readLocalRegisters (bench : Bench) (fault : Option Fault) (addresses : List UInt16) :
    Except String (List UInt32) :=
  match fault with
  | none => .ok (addresses.map bench.localRegisters)
  | some fault => .error fault.error

/-- A batch of writes to the controller. -/
def writeLocalRegisters (bench : Bench) (fault : Option Fault) (writes : List (UInt16 × UInt32)) :
    Option String × Bench :=
  match fault with
  | none => (none, bench.writeLocal writes)
  | some fault => (some fault.error, if fault.takesEffect then bench.writeLocal writes else bench)

/-! ### What a write changes -/

section Write

variable {bench : Bench} {registerOffset value : UInt16}

/-- A write outside of the banks leaves them. -/
theorem banks_write_of_global (h : registerOffset ∉ scpRegisterOffsets) :
    (bench.write registerOffset value).banks = bench.banks := by
  rw [write, if_neg (findFw2051ScpSetting_isSome.not.mpr h)]

/-- A write to a register of the banks goes to the selected one. -/
theorem banks_write_of_banked (h : registerOffset ∈ scpRegisterOffsets) :
    (bench.write registerOffset value).banks =
      Function.update bench.banks (bench.selector.toNat, registerOffset) value := by
  rw [write, if_pos (findFw2051ScpSetting_isSome.mpr h)]

/-- A reading of such a register shows the selected bank. -/
theorem read_of_banked (h : registerOffset ∈ scpRegisterOffsets) :
    bench.read registerOffset = bench.banks (bench.selector.toNat, registerOffset) := by
  rw [read, if_pos (findFw2051ScpSetting_isSome.mpr h)]

/-- Any other register is read as it is. -/
theorem read_of_global (h : registerOffset ∉ scpRegisterOffsets) :
    bench.read registerOffset = bench.registers registerOffset := by
  rw [read, if_neg (findFw2051ScpSetting_isSome.not.mpr h)]

/-- A write to a bank leaves the other registers. -/
theorem registers_write_of_banked (h : registerOffset ∈ scpRegisterOffsets) :
    (bench.write registerOffset value).registers = bench.registers := by
  rw [write, if_pos (findFw2051ScpSetting_isSome.mpr h)]

/-- Any other write changes one of them. -/
theorem registers_write_of_global (h : registerOffset ∉ scpRegisterOffsets) :
    (bench.write registerOffset value).registers =
      Function.update bench.registers registerOffset value := by
  rw [write, if_neg (findFw2051ScpSetting_isSome.not.mpr h)]

/-- The selector is not in the banks. -/
theorem selector_notMem : fw2051ScpSelectorRegister ∉ scpRegisterOffsets := by decide

/-- Only a write to the selector moves it. -/
theorem selector_write (h : registerOffset ≠ fw2051ScpSelectorRegister) :
    (bench.write registerOffset value).selector = bench.selector := by
  by_cases hbanked : registerOffset ∈ scpRegisterOffsets
  · rw [selector, registers_write_of_banked hbanked, selector]
  · rw [selector, registers_write_of_global hbanked, Function.update_of_ne h.symm, selector]

/-- The selector can be written. -/
theorem selector_write_selector :
    (bench.write fw2051ScpSelectorRegister value).selector = value := by
  rw [selector, registers_write_of_global selector_notMem, Function.update_self]

/-- A write to a bank leaves it. -/
theorem selector_write_of_banked (h : registerOffset ∈ scpRegisterOffsets) :
    (bench.write registerOffset value).selector = bench.selector := by
  rw [selector, registers_write_of_banked h, selector]

/-- A banked register reads back what was written to it. -/
theorem read_write_of_banked (h : registerOffset ∈ scpRegisterOffsets) :
    (bench.write registerOffset value).read registerOffset = value := by
  rw [read_of_banked h, selector_write_of_banked h, banks_write_of_banked h, Function.update_self]

/-- So is one of any other register. -/
theorem read_write_of_global (h : registerOffset ∉ scpRegisterOffsets) :
    (bench.write registerOffset value).read registerOffset = value := by
  rw [read_of_global h, registers_write_of_global h, Function.update_self]

/-- What was written is read. -/
theorem read_write : (bench.write registerOffset value).read registerOffset = value := by
  by_cases h : registerOffset ∈ scpRegisterOffsets
  · exact read_write_of_banked h
  · exact read_write_of_global h

end Write

/-- After a call to write, the module is what it was or has the value written. -/
theorem writeVmeD16_cases (bench : Bench) (fault : Option Fault) (registerOffset value : UInt16) :
    (bench.writeVmeD16 fault registerOffset value).2 = bench ∨
      (bench.writeVmeD16 fault registerOffset value).2 = bench.write registerOffset value := by
  cases fault with
  | none => exact .inr rfl
  | some fault =>
      cases heffect : fault.takesEffect with
      | true => exact .inr (if_pos heffect)
      | false => exact .inl (if_neg (by rw [heffect]; decide))

/-- A disturbed write outside of the banks leaves them as well. -/
theorem banks_writeVmeD16_of_global (bench : Bench) (fault : Option Fault)
    {registerOffset : UInt16} (h : registerOffset ∉ scpRegisterOffsets) (value : UInt16) :
    (bench.writeVmeD16 fault registerOffset value).2.banks = bench.banks := by
  rcases writeVmeD16_cases bench fault registerOffset value with hcase | hcase
  · rw [hcase]
  · rw [hcase, banks_write_of_global h]

/-- The controller's registers are not the module's. -/
theorem banks_writeLocalRegisters (bench : Bench) (fault : Option Fault)
    (writes : List (UInt16 × UInt32)) :
    (bench.writeLocalRegisters fault writes).2.banks = bench.banks := by
  cases fault with
  | none => rfl
  | some fault =>
      show (if fault.takesEffect then bench.writeLocal writes else bench).banks = bench.banks
      split <;> rfl

/-- Two modules that differ in the selector at most. -/
structure SameButSelector (bench bench' : Bench) : Prop where
  banks : bench'.banks = bench.banks
  registers : ∀ r, r ≠ fw2051ScpSelectorRegister → bench'.registers r = bench.registers r
  localRegisters : bench'.localRegisters = bench.localRegisters

/-- A module is like itself. -/
theorem SameButSelector.refl (bench : Bench) : SameButSelector bench bench :=
  ⟨rfl, fun _ _ => rfl, rfl⟩

/-- The selector may be moved twice. -/
theorem SameButSelector.trans {bench bench' bench'' : Bench} (h : SameButSelector bench bench')
    (h' : SameButSelector bench' bench'') : SameButSelector bench bench'' where
  banks := h'.banks.trans h.banks
  registers := fun r hr => (h'.registers r hr).trans (h.registers r hr)
  localRegisters := h'.localRegisters.trans h.localRegisters

/-- Writing the selector changes nothing else. -/
theorem sameButSelector_write (bench : Bench) (value : UInt16) :
    SameButSelector bench (bench.write fw2051ScpSelectorRegister value) where
  banks := banks_write_of_global selector_notMem
  registers := by
    intro r hr
    rw [registers_write_of_global selector_notMem, Function.update_of_ne hr]
  localRegisters := by
    rw [write, if_neg (findFw2051ScpSetting_isSome.not.mpr selector_notMem)]

/-- Nor does it if it is disturbed. -/
theorem sameButSelector_writeVmeD16 (bench : Bench) (fault : Option Fault) (value : UInt16) :
    SameButSelector bench (bench.writeVmeD16 fault fw2051ScpSelectorRegister value).2 := by
  rcases writeVmeD16_cases bench fault fw2051ScpSelectorRegister value with h | h
  · rw [h]
    exact .refl bench
  · rw [h]
    exact sameButSelector_write bench value

end Bench

/-! ### Texts of failures -/

/-- The text of a failed call. -/
def registerOperationError (operation name : String) (registerOffset : UInt16) (error : String) :
    String :=
  "Could not " ++ operation ++ " " ++ name ++ " at register 0x" ++ hexadecimal16 registerOffset
    ++ ": " ++ error

/-- Failures are collected in one text. -/
def appendFailure (failure message : String) : String :=
  if failure ≠ "" then failure ++ " " ++ message else message

/-- A text stays non-empty. -/
theorem append_ne {s : String} (h : s ≠ "") (t : String) : s ++ t ≠ "" := fun heq =>
  h (String.append_eq_empty_iff.mp heq).1

/-- A failed call has a text. -/
theorem registerOperationError_ne (operation name : String) (registerOffset : UInt16)
    (error : String) : registerOperationError operation name registerOffset error ≠ "" := by
  unfold registerOperationError
  iterate 7 apply append_ne
  decide

/-- A failure that is appended is there. -/
theorem appendFailure_ne (failure : String) {message : String} (h : message ≠ "") :
    appendFailure failure message ≠ "" := by
  unfold appendFailure
  split
  next hfailure =>
    apply append_ne
    exact append_ne hfailure " "
  · exact h

/-! ### The ownership gate -/

/-- The answers of the gate. -/
inductive ScpCaptureGateStatus where
  | allowed
  | communicationUnavailable
  | ownershipLost
  | cancelled
  deriving DecidableEq, Repr

/-- An answer with its text. -/
structure ScpCaptureGateResult where
  status : ScpCaptureGateStatus := .communicationUnavailable
  message : String := ""
  deriving DecidableEq, Repr

end Fidget
