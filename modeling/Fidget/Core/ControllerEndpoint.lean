import Fidget.Lib.TokenText

/-!
# The endpoint of a controller and the address of its module

`core/ControllerEndpoint.cpp`: where the controller is reached, directly or through an SSH bridge.
Host, destination and command are opaque byte strings; validation only keeps whitespace and control
bytes out of them, so that each is one argument of a command line and one token of a journal.
`core/TargetModuleAddress.h`: the address under which the controller reaches the module.

## Main results

- `validControllerEndpoint_of_success`: what an accepted endpoint says about the fields that are
  written to a journal.
- `TargetModuleAddress`: an address that carries its own alignment.
-/

namespace Fidget

open TokenText

inductive ControllerEndpointKind where
  | directEthernet
  | sshBridge
  deriving DecidableEq, Repr

/-- The SSH fields count only behind a bridge. -/
structure ControllerEndpointRequest where
  kind : ControllerEndpointKind := .directEthernet
  mvlcHost : Text := []
  mvlcCommandPort : UInt16 := 32768
  sshDestination : Text := []
  remoteBridgeCommand : Text := ascii "fidget_bridge"
  deriving DecidableEq, Repr

inductive ControllerEndpointValidationIssue where
  | none
  | unknownKind
  | invalidMvlcHost
  | invalidMvlcCommandPort
  | invalidSshDestination
  | invalidRemoteBridgeCommand
  deriving DecidableEq, Repr

structure ControllerEndpointValidationResult where
  success : Bool := false
  issue : ControllerEndpointValidationIssue := .unknownKind
  message : Text := []
  deriving DecidableEq, Repr

def maximumEndpointHostLength : Nat := 255
def maximumSshDestinationLength : Nat := 255
def maximumRemoteBridgeCommandLength : Nat := 511

/-- One argument of a command line. -/
def isSingleOpaqueArgument (value : Text) (maximumLength : Nat) : Bool :=
  !value.isEmpty && value.length ≤ maximumLength &&
    value.all fun character => character > 0x20 && character != 0x7F

/-- The first field that is refused names the issue. -/
def validateControllerEndpoint (request : ControllerEndpointRequest) :
    ControllerEndpointValidationResult :=
  let failure (issue : ControllerEndpointValidationIssue) (message : Text) :
      ControllerEndpointValidationResult := { success := false, issue, message }
  if !isSingleOpaqueArgument request.mvlcHost maximumEndpointHostLength then
    failure .invalidMvlcHost "Enter an MVLC hostname or IPv4 address without whitespace."
  else if request.mvlcCommandPort = 0 ∨ request.mvlcCommandPort = 0xFFFF then
    failure .invalidMvlcCommandPort
      "Enter an MVLC command port whose following data port is valid."
  else if request.kind = .sshBridge ∧
      !isSingleOpaqueArgument request.sshDestination maximumSshDestinationLength then
    failure .invalidSshDestination "Enter one SSH destination without whitespace."
  else if request.kind = .sshBridge ∧
      !isSingleOpaqueArgument request.remoteBridgeCommand maximumRemoteBridgeCommandLength then
    failure .invalidRemoteBridgeCommand
      "Enter one remote bridge command path without whitespace."
  else
    { success := true, issue := .none, message := [] }

/-! ### Opaque arguments are tokens -/

theorem isToken_of_forall {value : Text} (hne : value ≠ [])
    (h : ∀ b ∈ value, b > 0x20) : IsToken value := by
  refine ⟨hne, fun b hb => ?_⟩
  have hlt : 0x20 < b.toNat := UInt8.lt_iff_toNat_lt.mp (h b hb)
  have hblank : b ≠ 0x20 := by
    rintro rfl
    exact absurd hlt (by decide)
  have hcontrol : ¬ b ≤ 0x0D := by
    intro hle
    have hle : b.toNat ≤ 0x0D := UInt8.le_iff_toNat_le.mp hle
    omega
  simp [isSpace, hblank, hcontrol]

/-- Such an argument is one word of a journal. -/
theorem isToken_of_isSingleOpaqueArgument {value : Text} {maximumLength : Nat}
    (h : isSingleOpaqueArgument value maximumLength = true) : IsToken value := by
  simp only [isSingleOpaqueArgument, Bool.and_eq_true, Bool.not_eq_true', List.all_eq_true,
    decide_eq_true_eq] at h
  obtain ⟨⟨hne, -⟩, hbytes⟩ := h
  exact isToken_of_forall (by simpa using hne) fun b hb => (hbytes b hb).1

/-- What an accepted endpoint says about the fields that are written to a journal. -/
structure ValidControllerEndpoint (request : ControllerEndpointRequest) : Prop where
  host : IsToken request.mvlcHost
  bridge : request.kind = .sshBridge →
    IsToken request.sshDestination ∧ IsToken request.remoteBridgeCommand

/-- What an accepted endpoint guarantees. -/
theorem validControllerEndpoint_of_success {request : ControllerEndpointRequest}
    (h : (validateControllerEndpoint request).success = true) :
    ValidControllerEndpoint request := by
  unfold validateControllerEndpoint at h
  simp only at h
  split at h
  · cases h
  split at h
  · cases h
  split at h
  · cases h
  split at h
  · cases h
  next hhost _ hdestination hcommand =>
    refine ⟨isToken_of_isSingleOpaqueArgument (by simpa using hhost), fun hkind => ⟨?_, ?_⟩⟩
    · exact isToken_of_isSingleOpaqueArgument (by simpa [hkind] using hdestination)
    · exact isToken_of_isSingleOpaqueArgument (by simpa [hkind] using hcommand)

/-! ### The address of the target module -/

/-- A module answers at the 64 KiB page that its base address names, so an address whose lower half
is not zero cannot be built. -/
structure TargetModuleAddress where
  fullA32Value : UInt32
  aligned : fullA32Value &&& 0xFFFF = 0
  deriving DecidableEq

structure TargetModuleAddressParseResult where
  success : Bool := false
  message : String := ""
  address : Option TargetModuleAddress := none
  deriving DecidableEq

/-- Never reads a small value as MVME shorthand. -/
def parseFullTargetModuleAddress (fullA32Value : UInt32) : TargetModuleAddressParseResult :=
  if h : fullA32Value &&& 0xFFFF = 0 then
    { success := true
      message := "Accepted the full numeric target-module address."
      address := some ⟨fullA32Value, h⟩ }
  else
    { message := "A full A32 target-module address must be 64-KiB aligned." }

end Fidget
