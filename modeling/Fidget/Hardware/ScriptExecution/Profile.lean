import Fidget.Core.MvmeExport
import Fidget.Hardware.ScriptExecution
import Fidget.Lib.Lists

/-!
# Executing an exported settings block

The block of `generateFw2051MvmeScript` writes the registers of a quad in registry order, where the
constrained register of either coupled pair comes before its boundary. Whether the couplings hold
after every write therefore depends on the boundaries that the module had before.

## Main results

- `cellWrites_profileWrites`: the block as a plan of writes to the cells of the banks.
- `exported_dependency`: an exported profile satisfies the couplings itself.
- `profileScript_couplingsHold_iff`: the couplings hold after every prefix exactly when the old
  boundaries admit the new constrained values.
- `profileScript_breaks_coupling`: a module and a profile for which they do not.
-/

namespace Fidget

open scoped Fidget.Lists

open MvmeExport ScriptLine WritePlan

/-! ### What the block writes

Bank by bank, and in a bank in the order of the registry. An export that succeeds has checked every
value of the profile. -/

/-- The writes of a bank, in registry order. -/
def profileQuadWrites (quad : Fw2051ScpQuadConfiguration) : List (UInt16 × UInt16) :=
  (fw2051ScpSelectorRegister, quad.quad) :: fw2051ScpSettingRegistry.map fun definition =>
    (definition.registerOffset, registerOrZero quad definition.registerOffset)

/-- The writes of the whole block. -/
def profileWrites (configuration : Fw2051ScpConfigurationSnapshot) : List (UInt16 × UInt16) :=
  [(0x6010, configuration.irqLevel), (0x6044, configuration.outputFormat)]
    ++ configuration.quads.flatMap profileQuadWrites ++ [(fw2051ScpSelectorRegister, 0)]

/-- The lines of a bank. -/
def profileQuadLines (quad : Fw2051ScpQuadConfiguration) : GeneratedScript :=
  [comment ("# Quad ".toList ++ NumberText.decimal quad.quad.toNat),
    shortWrite fw2051ScpSelectorRegister quad.quad []]
  ++ (fw2051ScpSettingRegistry.map fun definition =>
    shortWrite definition.registerOffset (registerOrZero quad definition.registerOffset)
      (" # ".toList ++ definition.name.toList))
  ++ [blank]

/-- They are the lines that are exported. -/
theorem quadLines_eq (quad : Fw2051ScpQuadConfiguration) :
    quadLines quad = some (profileQuadLines quad) := by
  have hvalues : (fw2051ScpSettingRegistry.mapM fun definition => do
      let value ← fw2051ScpQuadRegisterValue quad definition.registerOffset
      return shortWrite definition.registerOffset value
        (" # ".toList ++ definition.name.toList)) =
      some (fw2051ScpSettingRegistry.map fun definition =>
        shortWrite definition.registerOffset (registerOrZero quad definition.registerOffset)
          (" # ".toList ++ definition.name.toList)) := by
    refine Lists.mapM_eq_some_map fun definition hd => ?_
    rw [quadRegisterValue_eq_some (registerOffset_mem hd)]
    rfl
  rw [quadLines, hvalues]
  rfl

/-- They make these writes. -/
theorem writes_profileQuadLines (quad : Fw2051ScpQuadConfiguration) :
    GeneratedScript.writes (profileQuadLines quad) = profileQuadWrites quad := rfl

/-- What an export that succeeds has checked, and what it then writes. -/
structure ExportedProfile (profile : ScpProfile) (script : GeneratedScript) : Prop where
  valid : ValidScpConfiguration profile.configuration
  values : validateExportValues profile.configuration = ""
  script_eq : ∃ checksum timestamp, timestamp.toList.all (fun c => c ≠ '\r' ∧ c ≠ '\n') = true ∧
    script = headerLines profile.configuration checksum fw2051ScpConfigurationValueCount timestamp
      ++ profile.configuration.quads.flatMap profileQuadLines ++ footerLines

/-- What an export that succeeds has checked. -/
theorem exportedProfile_of_success {profile : ScpProfile} {timestamp : String}
    (h : (generateFw2051MvmeScript profile timestamp).success = true) :
    ExportedProfile profile (generateFw2051MvmeScript profile timestamp).script := by
  have hquads : profile.configuration.quads.mapM quadLines =
      some (profile.configuration.quads.map profileQuadLines) :=
    Lists.mapM_eq_some_map fun quad _ => quadLines_eq quad
  unfold generateFw2051MvmeScript at h ⊢
  simp only [hquads] at h ⊢
  split at h
  · cases h
  split at h
  · cases h
  split at h
  · cases h
  split at h
  · cases h
  next hversion hvalid hvalues htimestamp =>
    rw [if_neg hversion, if_neg hvalid, if_neg hvalues, if_neg htimestamp]
    refine ⟨validScpConfiguration_of_validate (not_not.mp hvalid), not_not.mp hvalues, _,
      timestamp, ?_, rfl⟩
    rw [not_or] at htimestamp
    rw [List.all_eq_true]
    intro c hc
    have hline : ¬ (c = '\r' ∨ c = '\n') := by
      intro heq
      refine htimestamp.2 (List.any_eq_true.mpr ⟨c, hc, ?_⟩)
      simpa using heq
    rw [not_or] at hline
    exact decide_eq_true hline

/-- The writes of an exported block. -/
theorem writes_exported {profile : ScpProfile} {script : GeneratedScript}
    (h : ExportedProfile profile script) :
    script.writes = profileWrites profile.configuration := by
  obtain ⟨checksum, timestamp, -, rfl⟩ := h.script_eq
  have hquads : ∀ quads : List Fw2051ScpQuadConfiguration,
      GeneratedScript.writes (quads.flatMap profileQuadLines) =
        quads.flatMap profileQuadWrites := by
    intro quads
    induction quads with
    | nil => rfl
    | cons quad quads ih =>
        rw [List.flatMap_cons, GeneratedScript.writes_append, ih, writes_profileQuadLines,
          List.flatMap_cons]
  rw [GeneratedScript.writes_append, GeneratedScript.writes_append, hquads]
  rfl

/-! ### The plan of the block

The selector is set before every bank, so the plan of the block is the profile's values, cell by
cell. -/

/-- The plan of a bank. -/
def profileQuadPlan (quad : Fw2051ScpQuadConfiguration) : List (Write BankCell UInt16) :=
  scpRegisterOffsets.map fun r => cellWrite quad.quad.toNat r (registerOrZero quad r)

/-- The writes of a bank follow its plan, whatever the selector was. -/
theorem cellWrites_profileQuadWrites (selector : UInt16) (quad : Fw2051ScpQuadConfiguration) :
    cellWrites selector (profileQuadWrites quad) = profileQuadPlan quad := by
  rw [profileQuadWrites, cellWrites_selector, profileQuadPlan, scpRegisterOffsets, List.map_map]
  have hbanked : ∀ definitions : List Fw2051ScpSettingDefinition,
      (∀ definition ∈ definitions, definition ∈ fw2051ScpSettingRegistry) →
      cellWrites quad.quad (definitions.map fun definition =>
        (definition.registerOffset, registerOrZero quad definition.registerOffset)) =
        definitions.map ((fun r => cellWrite quad.quad.toNat r (registerOrZero quad r)) ∘
          (·.registerOffset)) := by
    intro definitions hdefinitions
    induction definitions with
    | nil => rfl
    | cons definition definitions ih =>
        have hmem := registerOffset_mem (hdefinitions definition List.mem_cons_self)
        rw [List.map_cons, cellWrites_banked hmem, List.map_cons,
          ih fun d hd => hdefinitions d (List.mem_cons_of_mem _ hd)]
        rfl
  exact hbanked _ fun _ h => h

/-- So does the block. -/
theorem cellWrites_profileWrites (selector : UInt16)
    (configuration : Fw2051ScpConfigurationSnapshot) :
    cellWrites selector (profileWrites configuration) =
      configuration.quads.flatMap profileQuadPlan := by
  have hquads : ∀ (quads : List Fw2051ScpQuadConfiguration) (selector : UInt16),
      cellWrites selector (quads.flatMap profileQuadWrites ++ [(fw2051ScpSelectorRegister, 0)]) =
        quads.flatMap profileQuadPlan := by
    intro quads
    induction quads with
    | nil => exact fun _ => cellWrites_selector
    | cons quad quads ih =>
        intro selector
        rw [List.flatMap_cons, List.append_assoc, cellWrites_append, ih,
          cellWrites_profileQuadWrites, List.flatMap_cons]
  show cellWrites selector ((0x6010, configuration.irqLevel) ::
    (0x6044, configuration.outputFormat) ::
      (configuration.quads.flatMap profileQuadWrites ++ [(fw2051ScpSelectorRegister, 0)])) = _
  rw [cellWrites_global (by decide) (by decide), cellWrites_global (by decide) (by decide), hquads]

/-- The banks are different banks. -/
theorem nodup_quadNumbers {quads : List Fw2051ScpQuadConfiguration} (h : NumberedQuads quads) :
    (quads.map fun quad => quad.quad.toNat).Nodup := by
  rw [List.nodup_iff_getElem?_ne_getElem?]
  intro i j hij hj
  rw [List.length_map] at hj
  rw [List.getElem?_map, List.getElem?_map, List.getElem?_eq_getElem (hij.trans hj),
    List.getElem?_eq_getElem hj, Option.map_some, Option.map_some, h.quad_eq i (hij.trans hj),
    h.quad_eq j hj]
  intro heq
  cases heq
  exact Nat.lt_irrefl _ hij

/-- The writes to two registers of a quad, in registry order. -/
theorem pairWrites_profile {configuration : Fw2051ScpConfigurationSnapshot}
    (h : NumberedQuads configuration.quads) {quad : Fw2051ScpQuadConfiguration}
    (hquad : quad ∈ configuration.quads) {c b : UInt16} {order : List UInt16}
    (horder : scpRegisterOffsets.filter (fun r => r == c || r == b) = order) :
    pairWrites quad.quad.toNat c b (configuration.quads.flatMap profileQuadPlan) =
      order.map fun r => cellWrite quad.quad.toNat r (registerOrZero quad r) := by
  have hgroup : ∀ q ∈ configuration.quads, ∀ w ∈ profileQuadPlan q, w.key.1 = q.quad.toNat := by
    intro q _ w hw
    obtain ⟨r, -, rfl⟩ := List.mem_map.mp hw
    rfl
  rw [pairWrites_flatMap (fun quad => quad.quad.toNat) hgroup (nodup_quadNumbers h) hquad,
    pairWrites, profileQuadPlan, List.filter_map]
  have hfilter : ∀ r : UInt16,
      ((fun w : Write BankCell UInt16 => decide (w.key = (quad.quad.toNat, c) ∨
        w.key = (quad.quad.toNat, b))) ∘
          fun r => cellWrite quad.quad.toNat r (registerOrZero quad r)) r =
        (r == c || r == b) := by
    intro r
    rw [Bool.eq_iff_iff, Function.comp_apply, decide_eq_true_iff, Bool.or_eq_true, beq_iff_eq,
      beq_iff_eq]
    show (_, r) = (_, c) ∨ (_, r) = (_, b) ↔ _
    rw [Prod.mk.injEq, Prod.mk.injEq]
    tauto
  rw [List.filter_congr fun r _ => hfilter r, horder]

/-! ### The couplings

In a pair the bounded register comes before its boundary in the registry. So between the two writes
the new value stands against the boundary that was there before. -/

/-- An obstacle is named. -/
theorem exportRegisterObstacle_ne {quad : Fw2051ScpQuadConfiguration}
    {definition : Fw2051ScpSettingDefinition} {obstacle : String}
    (h : exportRegisterObstacle quad definition = some obstacle) : obstacle ≠ "" := by
  unfold exportRegisterObstacle at h
  split at h
  · cases h
    decide
  simp only at h
  split at h
  · cases h
    iterate 3 apply append_ne
    decide
  split at h
  · cases h
  split at h
  · cases h
    iterate 6 apply append_ne
    decide
  split at h
  · cases h
  · cases h
    iterate 6 apply append_ne
    decide

/-- An exported register has none. -/
theorem exportRegisterObstacle_eq_none {configuration : Fw2051ScpConfigurationSnapshot}
    (h : validateExportValues configuration = "") {quad : Fw2051ScpQuadConfiguration}
    (hquad : quad ∈ configuration.quads) {definition : Fw2051ScpSettingDefinition}
    (hdefinition : definition ∈ fw2051ScpSettingRegistry) :
    exportRegisterObstacle quad definition = none := by
  have hnone : (configuration.quads.findSome? fun quad =>
      fw2051ScpSettingRegistry.findSome? (exportRegisterObstacle quad)) = none := by
    unfold validateExportValues at h
    cases hfound : configuration.quads.findSome? fun quad =>
        fw2051ScpSettingRegistry.findSome? (exportRegisterObstacle quad) with
    | none => rfl
    | some obstacle =>
        rw [hfound, Option.getD_some] at h
        obtain ⟨q, -, hq⟩ := List.exists_of_findSome?_eq_some hfound
        obtain ⟨d, -, hd⟩ := List.exists_of_findSome?_eq_some hq
        exact absurd h (exportRegisterObstacle_ne hd)
  exact List.findSome?_eq_none_iff.mp (List.findSome?_eq_none_iff.mp hnone quad hquad) definition
    hdefinition

/-- An exported value satisfies what the registry asks of its register. -/
theorem exported_dependency {configuration : Fw2051ScpConfigurationSnapshot}
    (h : validateExportValues configuration = "") {quad : Fw2051ScpQuadConfiguration}
    (hquad : quad ∈ configuration.quads) {definition : Fw2051ScpSettingDefinition}
    (hdefinition : definition ∈ fw2051ScpSettingRegistry)
    (hdependent : definition.dependencyRule ≠ .none)
    (hregister : definition.dependencyRegister ∈ scpRegisterOffsets) :
    fw2051ScpDependencySatisfied definition (registerOrZero quad definition.registerOffset)
      (registerOrZero quad definition.dependencyRegister) = true := by
  have hnone := exportRegisterObstacle_eq_none h hquad hdefinition
  unfold exportRegisterObstacle at hnone
  rw [quadRegisterValue_eq_some (registerOffset_mem hdefinition),
    quadRegisterValue_eq_some hregister] at hnone
  simp only [if_neg hdependent] at hnone
  split at hnone
  · cases hnone
  by_contra hunsatisfied
  rw [if_neg hunsatisfied] at hnone
  cases hnone

/-- The profile is coupled. -/
theorem couplingsHold_of_exported {configuration : Fw2051ScpConfigurationSnapshot}
    (h : validateExportValues configuration = "") {quad : Fw2051ScpQuadConfiguration}
    (hquad : quad ∈ configuration.quads) : CouplingsHold quad := by
  have hmem : fw2051ScpSettingRegistry[0] ∈ fw2051ScpSettingRegistry := by decide
  have hmem' : fw2051ScpSettingRegistry[14] ∈ fw2051ScpSettingRegistry := by decide
  have htiming := exported_dependency h hquad hmem (by decide) (by decide)
  have hsamples := exported_dependency h hquad hmem' (by decide) (by decide)
  exact ⟨of_decide_eq_true htiming, of_decide_eq_true hsamples⟩

/-- The couplings of a module survive an exported block exactly if, in every quad, the boundaries
that the module already has admit the constrained values of the profile. -/
theorem profileScript_couplingsHold_iff (profile : ScpProfile) (generatedTimestamp : String)
    (bench : Bench)
    (hexported : (generateFw2051MvmeScript profile generatedTimestamp).success = true)
    (hcouplings : bench.CouplingsHold) :
    (∀ n, (bench.runWrites
      ((generateFw2051MvmeScript profile generatedTimestamp).script.writes.take n)).CouplingsHold) ↔
    ∀ quad ∈ profile.configuration.quads,
      quad.timingFilter ≤ bench.banks (quad.quad.toNat, 0x6124) ∧
      quad.preSamples < bench.banks (quad.quad.toNat, 0x6148) := by
  have hprofile := exportedProfile_of_success hexported
  have hnumbered := hprofile.valid.numbered
  rw [couplingsHold_runWrites_iff, writes_exported hprofile, cellWrites_profileWrites]
  -- The two writes to a pair come in registry order, and the target itself is coupled.
  have hpair : ∀ quad ∈ profile.configuration.quads,
      (PairHolds (· ≤ ·) quad.quad.toNat 0x6110 0x6124
          (profile.configuration.quads.flatMap profileQuadPlan) bench.banks ∧
        PairHolds (· < ·) quad.quad.toNat 0x6146 0x6148
          (profile.configuration.quads.flatMap profileQuadPlan) bench.banks) ↔
      quad.timingFilter ≤ bench.banks (quad.quad.toNat, 0x6124) ∧
        quad.preSamples < bench.banks (quad.quad.toNat, 0x6148) := by
    intro quad hquad
    obtain ⟨index, hi, hindex⟩ := List.mem_iff_getElem.mp hquad
    have hquadIndex : quad.quad.toNat < fw2051ScpQuadCount := by
      rw [← hindex, hnumbered.quad_eq index hi]
      exact lt_of_lt_of_eq hi hnumbered.length_eq
    obtain ⟨htiming, hsamples⟩ := hcouplings _ hquadIndex
    obtain ⟨htargetTiming, htargetSamples⟩ := couplingsHold_of_exported hprofile.values hquad
    have horder : scpRegisterOffsets.filter (fun r => r == 0x6110 || r == 0x6124) =
        [0x6110, 0x6124] := by decide
    have horder' : scpRegisterOffsets.filter (fun r => r == 0x6146 || r == 0x6148) =
        [0x6146, 0x6148] := by decide
    rw [pairHolds_iff, pairWrites_profile hnumbered hquad horder, List.map_cons, List.map_singleton,
      pairHolds_constrained_first (by decide), pairHolds_iff (c := 0x6146),
      pairWrites_profile hnumbered hquad horder', List.map_cons, List.map_singleton,
      pairHolds_constrained_first (by decide)]
    constructor
    · rintro ⟨⟨-, hfirst, -⟩, -, hfirst', -⟩
      exact ⟨hfirst, hfirst'⟩
    · rintro ⟨hfirst, hfirst'⟩
      exact ⟨⟨htiming, hfirst, htargetTiming⟩, hsamples, hfirst', htargetSamples⟩
  constructor
  · -- the constrained register comes first, so that the old boundary must admit it
    intro h quad hquad
    obtain ⟨index, hi, rfl⟩ := List.mem_iff_getElem.mp hquad
    refine (hpair _ hquad).mp ?_
    rw [hnumbered.quad_eq index hi]
    exact h index (lt_of_lt_of_eq hi hnumbered.length_eq)
  · intro h index hindex
    have hi : index < profile.configuration.quads.length := by
      rw [hnumbered.length_eq]
      exact hindex
    have hquad := List.getElem_mem hi
    have hboth := (hpair _ hquad).mpr (h _ hquad)
    rw [hnumbered.quad_eq index hi] at hboth
    exact hboth

/-- A module with a narrow boundary. -/
theorem profileScript_couplingsHold_iff_example :
    ¬ ∀ n, (narrowBench.runWrites ((generateFw2051MvmeScript
      { configuration := exampleSnapshot exampleQuads } "now").script.writes.take n)).CouplingsHold :=
  fun h =>
    absurd ((profileScript_couplingsHold_iff { configuration := exampleSnapshot exampleQuads } "now"
      narrowBench (by decide +kernel) (by unfold Bench.CouplingsHold; decide +kernel)).mp h)
      (by decide +kernel)

/-- The fourth write of the block sets a timing filter above the shaping time. -/
theorem profileScript_breaks_coupling :
    ¬ ∀ (profile : ScpProfile) (generatedTimestamp : String) (bench : Bench),
      (generateFw2051MvmeScript profile generatedTimestamp).success = true →
      bench.RangesHold → bench.CouplingsHold →
      ∀ n, (bench.runWrites
        ((generateFw2051MvmeScript profile generatedTimestamp).script.writes.take n)).CouplingsHold := by
  intro h
  have hcoupled := (h { configuration := exampleSnapshot exampleQuads } "now" narrowBench
    (by decide +kernel) (by unfold Bench.RangesHold; decide +kernel)
    (by unfold Bench.CouplingsHold; decide +kernel) 4 0 (by decide)).1
  revert hcoupled
  decide +kernel

end Fidget
