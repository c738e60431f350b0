import Fidget.Core.MvmeInitScript.Attribution
import Fidget.Core.MvmeInitScript.Conditional

/-!
# What the scripts do to a module

The frontend of a module has a selector and, for each quad, its banked registers. Here the scripts
are carried out on one, line after line, without asking what is known of the selector. Where the
evaluation is complete, the registers it lists end with the values it lists, whatever the module
held before, and the others are as they were.

The two sides are an executor, which reads a line and carries its store out on the registers, and
the evaluator, which attributes it. They are related by `Follows`: whatever is listed as the value
of a register is what the register holds, if it held what it did before the scripts. `Unharmed` says
that nothing has been met so far that makes the evaluation incomplete, and is what an evaluation
needs in order to follow.

## Main results

- `ScpFrontend`, `executeScripts`: the module as the scripts change it.
- `Follows`: the module is where the evaluation says that it is.
- `Follows.evaluateLine`, `Follows.evaluateScript`, `Follows.evaluateEntriesFrom`: line, script and
  list keep it so.
-/

namespace Fidget

open MvmeInitScript

/-! ### The frontend

The module as far as a script can reach it: a selector and the registers of every quad. A write
reaches the quad that is selected, or all of them when the selector is at the broadcast address. -/

/-- The quads that a write reaches. -/
def reachedQuads (selector : UInt16) : List UInt16 :=
  if selector = fw2051ScpBroadcastSelectorValue then fw2051ScpQuads else [selector]

/-- Where the selector points, and what the registers of each quad hold. -/
structure ScpFrontend where
  selector : UInt16
  banked : UInt16 → UInt16 → UInt16
  selector_le : selector ≤ fw2051ScpBroadcastSelectorValue

namespace ScpFrontend

/-- A value is stored at an address of the module. -/
def store (frontend : ScpFrontend) (offset value : UInt32) : ScpFrontend :=
  if offset = fw2051ScpSelectorRegister.toUInt32 then
    if h : value.toUInt16 ≤ fw2051ScpBroadcastSelectorValue then
      { frontend with selector := value.toUInt16, selector_le := h }
    else frontend
  else if isFrontendAddress offset then
    { frontend with
      banked := fun quad register =>
        if register.toUInt32 = offset ∧ quad ∈ reachedQuads frontend.selector then value.toUInt16
        else frontend.banked quad register }
  else frontend

/-- A write past the frontend does not change it. -/
theorem store_outside (frontend : ScpFrontend) {offset : UInt32}
    (h : isFrontendAddress offset = false) (value : UInt32) :
    frontend.store offset value = frontend := by
  have hselector : offset ≠ fw2051ScpSelectorRegister.toUInt32 := by
    rintro rfl
    revert h
    decide
  unfold store
  rw [if_neg hselector, h]
  rfl

end ScpFrontend

namespace Evaluator

/-! ### Carrying out the scripts

The executor knows nothing of attribution. It reads a line with the same reader as the evaluator and
stores the value at the address on the bus. -/

/-- The address on the bus and the value that a line stores, if it is one that stores. -/
def lineStore (target : TargetModuleAddress) (parts : List Text) : Option (UInt32 × UInt32) :=
  let command := parts.headD []
  if command = "write".toList then
    some (target.fullA32Value + (resolveMvmeLongAddress (parts.getD 3 [])).value,
      (resolve (parts.getD 4 [])).value)
  else if command = "writeabs".toList then
    some ((resolveMvmeLongAddress (parts.getD 3 [])).value, (resolve (parts.getD 4 [])).value)
  else if command = "set".toList || command = "accu_test".toList
      || isKnownNonFrontendCommand command then
    none
  else
    some (target.fullA32Value + (resolve command).value, (resolve (parts.getD 1 [])).value)

/-- A store on the bus, as the module sees it. -/
def executeStore (target : TargetModuleAddress) (frontend : ScpFrontend) :
    Option (UInt32 × UInt32) → ScpFrontend
  | some (address, value) => frontend.store (address - target.fullA32Value) value
  | none => frontend

theorem executeStore_some (target : TargetModuleAddress) (frontend : ScpFrontend)
    (address value : UInt32) : executeStore target frontend (some (address, value)) =
      frontend.store (address - target.fullA32Value) value := rfl

/-- A line is read and carried out. -/
def executeLine (target : TargetModuleAddress) (frontend : ScpFrontend) (resolver : ValueResolver)
    (line : Text) : ScpFrontend × ValueResolver :=
  let prepared := prepareLine line resolver
  if !prepared.success then (frontend, resolver)
  else
    (executeStore target frontend (lineStore target prepared.parts),
      resolverAfterLine resolver line)

/-- One after the other. -/
def executeLines (target : TargetModuleAddress) (frontend : ScpFrontend)
    (resolver : ValueResolver) : List Text → ScpFrontend
  | [] => frontend
  | line :: lines =>
    let trimmed := trim line
    if trimmed = [] then executeLines target frontend resolver lines
    else
      let (frontend, resolver) := executeLine target frontend resolver trimmed
      executeLines target frontend resolver lines

/-- A script is carried out if it is enabled and there is a text. -/
def executeEntry (target : TargetModuleAddress) (frontend : ScpFrontend) :
    EntryEffect → ScpFrontend
  | .script text resolver =>
    executeLines target frontend resolver (splitLines (stripComments text).text)
  | _ => frontend

/-- The entries that are enabled, in the order of the list. -/
def executeScripts (target : TargetModuleAddress) (context : ScriptContext) (frontend : ScpFrontend)
    (n : Nat) : List Json → ScpFrontend
  | [] => frontend
  | script :: scripts =>
    executeScripts target context (executeEntry target frontend (entryEffect context script n))
      (n + 1) scripts

/-! ### What an evaluation knows of the frontend

The step is taken command by command. A command that stores is attributed to the same register as it
is carried out on; one that is said not to concern the frontend stores outside of it; and one of
which neither is known ends the statement, since the evaluation is then incomplete. -/

/-- What the registers hold, where before the scripts they held what `before` says. -/
structure Follows (before : ScpFrontend) (e : Evaluator) (frontend : ScpFrontend) : Prop where
  selector : ∀ value, e.selector = some value → frontend.selector = value
  banked : ∀ quad register, frontend.banked quad register =
    ((e.finalValues[(quad, register)]?).map (·.value)).getD (before.banked quad register)

/-- An evaluation that may still end complete. -/
structure Unharmed (e : Evaluator) : Prop where
  issues : ∀ issue ∈ e.result.unresolvedStatements, issue.impact = .frontend →
    issue.reason = .conditionalAfterAccuTest
  conditional : e.conditionalFrontendWrite = false

/-- What was harmed stays so. -/
theorem Unharmed.of_persists {e e' : Evaluator} (h : Unharmed e') (hpersists : Persists e e') :
    Unharmed e where
  issues := fun issue hissue => h.issues issue (hpersists.unresolvedStatements.subset hissue)
  conditional := by
    cases hcase : e.conditionalFrontendWrite with
    | false => rfl
    | true => exact absurd (hpersists.conditionalFrontendWrite hcase) (by rw [h.conditional]; decide)

/-- A new issue of an unharmed evaluation does not concern the frontend, or is conditional. -/
theorem Unharmed.of_addIssue {e : Evaluator} {location : MvmeInitScriptLocation}
    {impact : MvmeInitScriptUnresolvedImpact} {reason : MvmeInitScriptUnresolvedReason}
    {message : String} (h : Unharmed (e.addIssue location impact reason message))
    (himpact : impact = .frontend) : reason = .conditionalAfterAccuTest :=
  h.issues ⟨location, impact, reason, message⟩ (List.mem_append_right _ List.mem_cons_self) himpact

theorem Unharmed.of_resetSelectorIf {e : Evaluator} {condition : Bool}
    (h : Unharmed (e.resetSelectorIf condition)) : Unharmed e := by
  cases condition with
  | false => exact h
  | true => exact ⟨h.issues, h.conditional⟩

section Statements

variable {before frontend : ScpFrontend} {e e' : Evaluator} {target : TargetModuleAddress}
  {location : MvmeInitScriptLocation}

/-- Issues, and perhaps an unknown selector, tell nothing new of the frontend. -/
theorem Follows.of_issues (h : Follows before e frontend)
    (hselector : e'.selector = e.selector ∨ e'.selector = none)
    (hvalues : e'.finalValues = e.finalValues) : Follows before e' frontend where
  selector := by
    intro value hvalue
    rcases hselector with hselector | hselector
    · exact h.selector value (hselector ▸ hvalue)
    · rw [hselector] at hvalue
      cases hvalue
  banked := by
    intro quad register
    rw [hvalues]
    exact h.banked quad register

/-- An issue is not carried out. -/
theorem Follows.addIssue (h : Follows before e frontend) (impact : MvmeInitScriptUnresolvedImpact)
    (reason : MvmeInitScriptUnresolvedReason) (message : String) :
    Follows before (e.addIssue location impact reason message) frontend := by
  apply h.of_issues
  · exact .inl rfl
  · rfl

/-- To know less of the selector is no mistake. -/
theorem Follows.resetSelectorIf (h : Follows before e frontend) (condition : Bool) :
    Follows before (e.resetSelectorIf condition) frontend := by
  cases condition with
  | false => exact h
  | true =>
      apply h.of_issues
      · exact .inr rfl
      · rfl

/-- Within the frontend an address is told by its lower half. -/
theorem toUInt32_eq_iff {address : UInt32} (h : isFrontendAddress address = true)
    {register : UInt16} : register.toUInt32 = address ↔ register = address.toUInt16 := by
  have hsmall : address.toNat ≤ 0xFFFF := by
    unfold isFrontendAddress at h
    split at h
    · cases h
    next hsmall => exact Nat.not_lt.mp hsmall
  constructor
  · rintro rfl
    exact UInt16.toUInt16_toUInt32 register |>.symm
  · rintro rfl
    apply UInt32.toNat_inj.mp
    rw [UInt16.toNat_toUInt32, UInt32.toNat_toUInt16]
    omega

/-- The values that one write sets. -/
theorem getElem?_foldl_quads (location : MvmeInitScriptLocation) (registerOffset value : UInt16)
    (quads : List UInt16) (values : FinalValues) (quad register : UInt16) :
    (quads.foldl (fun values quad => values.insert (quad, registerOffset)
      { location, quad, registerOffset, value }) values)[(quad, register)]? =
      if register = registerOffset ∧ quad ∈ quads then
        some { location, quad, registerOffset, value }
      else values[(quad, register)]? := by
  induction quads generalizing values with
  | nil => simp
  | cons first quads ih =>
      have hcompare : compareFrontendKeys (first, registerOffset) (quad, register) = .eq ↔
          first = quad ∧ registerOffset = register := by
        rw [Std.LawfulEqCmp.compare_eq_iff_eq, Prod.mk.injEq]
      rw [List.foldl_cons, ih, Std.TreeMap.getElem?_insert]
      by_cases hregister : register = registerOffset
      · subst hregister
        by_cases hmem : quad ∈ quads
        · rw [if_pos ⟨rfl, hmem⟩, if_pos ⟨rfl, List.mem_cons_of_mem _ hmem⟩]
        · rw [if_neg fun h => hmem h.2]
          by_cases hfirst : first = quad
          · subst hfirst
            rw [if_pos (hcompare.mpr ⟨rfl, rfl⟩), if_pos ⟨rfl, List.mem_cons_self⟩]
          · rw [if_neg fun h => hfirst (hcompare.mp h).1, if_neg]
            rintro ⟨-, h⟩
            exact (List.mem_cons.mp h).elim (fun heq => hfirst heq.symm) hmem
      · rw [if_neg fun h => hregister h.1, if_neg fun h => hregister (hcompare.mp h).2.symm,
          if_neg fun h => hregister h.1]

/-- An assignment that is attributed selects the quad that it says. -/
theorem Follows.setSelector (h : Follows before e frontend) {value : UInt32}
    (hunharmed : Unharmed (e.setSelector location value.toUInt16)) :
    Follows before (e.setSelector location value.toUInt16)
      (frontend.store fw2051ScpSelectorRegister.toUInt32 value) := by
  unfold Evaluator.setSelector at hunharmed ⊢
  by_cases hlarge : value.toUInt16 > fw2051ScpBroadcastSelectorValue
  · rw [if_pos hlarge] at hunharmed
    have hreason := hunharmed.issues _ (List.mem_append_right _ List.mem_cons_self) rfl
    cases hreason
  · rw [if_neg hlarge]
    have hstore : frontend.store fw2051ScpSelectorRegister.toUInt32 value =
        { frontend with selector := value.toUInt16, selector_le := UInt16.not_lt.mp hlarge } := by
      unfold ScpFrontend.store
      rw [if_pos rfl, dif_pos (UInt16.not_lt.mp hlarge)]
    rw [hstore]
    refine ⟨?_, h.banked⟩
    intro selected hselected
    exact Option.some.inj hselected

/-- A write that is attributed goes to the quad that it says. -/
theorem Follows.evaluateBankedWrite (h : Follows before e frontend) {address value : UInt32}
    (haddress : isFrontendAddress address = true)
    (hselector : address.toUInt16 ≠ fw2051ScpSelectorRegister)
    (hunharmed : Unharmed
      (e.evaluateBankedWrite location address.toUInt16 value.toUInt16)) :
    Follows before (e.evaluateBankedWrite location address.toUInt16 value.toUInt16)
      (frontend.store address value) := by
  cases hknown : e.selector with
  -- without a bank the evaluation reports the write, which an unharmed one has not
  | none =>
      unfold Evaluator.evaluateBankedWrite at hunharmed
      rw [hknown] at hunharmed
      cases hunharmed.of_addIssue rfl
  | some selector =>
      -- the module writes the same cell in the banks its selector reaches
      have hstore : frontend.store address value = { frontend with
          banked := fun quad register =>
            if register.toUInt32 = address ∧ quad ∈ reachedQuads frontend.selector then
              value.toUInt16
            else frontend.banked quad register } := by
        unfold ScpFrontend.store
        rw [if_neg, if_pos haddress]
        rintro rfl
        exact hselector rfl
      rw [evaluateBankedWrite_of_some e location hknown, hstore]
      refine ⟨h.selector, ?_⟩
      intro quad register
      have hregister : register.toUInt32 = address ↔ register = address.toUInt16 :=
        toUInt32_eq_iff haddress
      have hvalues := getElem?_foldl_quads location address.toUInt16 value.toUInt16
        (reachedQuads selector) e.finalValues quad register
      refine Eq.trans ?_ (congrArg (fun found => (Option.map _ found).getD _) hvalues.symm)
      simp only [hregister, h.selector selector hknown]
      split
      · rfl
      · exact h.banked quad register

/-- A write to the module does to its frontend what the evaluation makes of it. -/
theorem Follows.evaluateRelativeWrite (h : Follows before e frontend) {address : UInt32}
    {valueText : Text} (hvalue : (resolve valueText).success = true)
    (hunharmed : Unharmed (e.evaluateRelativeWrite location address valueText)) :
    Follows before (e.evaluateRelativeWrite location address valueText)
      (frontend.store address (resolve valueText).value) := by
  unfold Evaluator.evaluateRelativeWrite at hunharmed ⊢
  by_cases haddress : isFrontendAddress address = true
  · have hinside : ¬ (!isFrontendAddress address) = true := by simp [haddress]
    simp only [if_neg hinside] at hunharmed ⊢
    by_cases hlarge : (!(resolve valueText).success || (resolve valueText).value > 0xFFFF) = true
    · -- A value of more than sixteen bits is an issue.
      rw [if_pos hlarge] at hunharmed
      simp only [hvalue, Bool.not_true, Bool.false_eq_true, if_false, if_true] at hunharmed
      have hreason := hunharmed.of_resetSelectorIf.of_addIssue rfl
      cases hreason
    · rw [if_neg hlarge] at hunharmed ⊢
      by_cases hselector : address.toUInt16 = fw2051ScpSelectorRegister
      · have hregister := (toUInt32_eq_iff haddress).mpr hselector.symm
        rw [if_pos hselector] at hunharmed ⊢
        rw [← hregister]
        exact h.setSelector hunharmed
      · rw [if_neg hselector] at hunharmed ⊢
        exact h.evaluateBankedWrite haddress hselector hunharmed
  · have houtside : isFrontendAddress address = false := Bool.not_eq_true _ |>.mp haddress
    rw [if_pos (by rw [houtside]; rfl), frontend.store_outside houtside]
    exact h.addIssue _ _ _

/-- The offset of an address within the module. -/
theorem add_sub_base (target : TargetModuleAddress) (offset : UInt32) :
    target.fullA32Value + offset - target.fullA32Value = offset := by
  rw [UInt32.add_comm, UInt32.add_sub_cancel]

/-- No address below the module is one of its frontend. -/
theorem outside_of_below {address : UInt32} (h : address < target.fullA32Value) :
    isFrontendAddress (address - target.fullA32Value) = false := by
  have haligned : target.fullA32Value.toNat % 2 ^ 16 = 0 := by
    rw [← Nat.and_two_pow_sub_one_eq_mod]
    exact congrArg UInt32.toNat target.aligned
  have hbase : target.fullA32Value.toNat < 2 ^ 32 := target.fullA32Value.toNat_lt
  have hbelow : address.toNat < target.fullA32Value.toNat := h
  have hlarge : address - target.fullA32Value > 0xFFFF := by
    show 0xFFFF < (address - target.fullA32Value).toNat
    rw [UInt32.toNat_sub]
    omega
  unfold isFrontendAddress
  rw [if_pos hlarge]

/-- A write that the evaluation places outside the frontend does not reach it. -/
theorem outside_of_longWriteAddress {absolute : Bool} {address : UInt32}
    (h : (longWriteAddress target absolute address).any isFrontendAddress = false) :
    isFrontendAddress ((if absolute then address else target.fullA32Value + address)
      - target.fullA32Value) = false := by
  cases absolute with
  | false =>
      rw [if_neg Bool.false_ne_true, add_sub_base]
      exact h
  | true =>
      rw [if_pos rfl]
      unfold longWriteAddress relativeAbsoluteAddress at h
      by_cases hbelow : address < target.fullA32Value
      · exact outside_of_below hbelow
      · rw [if_pos rfl, if_neg hbelow] at h
        exact h

/-- What a long write stores. -/
theorem lineStore_longWrite (target : TargetModuleAddress) {parts : List Text}
    (h : (parts.headD [] = "write".toList || parts.headD [] = "writeabs".toList) = true) :
    lineStore target parts =
      some (if decide (parts.headD [] = "writeabs".toList) = true
        then (resolveMvmeLongAddress (parts.getD 3 [])).value
        else target.fullA32Value + (resolveMvmeLongAddress (parts.getD 3 [])).value,
          (resolve (parts.getD 4 [])).value) := by
  unfold lineStore
  rw [Bool.or_eq_true, decide_eq_true_eq, decide_eq_true_eq] at h
  rcases h with hwrite | hwriteabs
  · rw [hwrite]
    rfl
  · rw [hwriteabs]
    rfl

/-- A long write stores what the evaluation says. -/
theorem Follows.evaluateLongWrite (h : Follows before e frontend) {parts : List Text}
    (hcommand : (parts.headD [] = "write".toList || parts.headD [] = "writeabs".toList) = true)
    (hvalid : (validateLongWriteSyntax target parts).success = true)
    (hunharmed : Unharmed (evaluateLongWrite target e location
      (parts.headD [] = "writeabs".toList) parts)) :
    Follows before
      (Evaluator.evaluateLongWrite target e location (parts.headD [] = "writeabs".toList) parts)
      (executeStore target frontend (lineStore target parts)) := by
  obtain ⟨hlength, haddress, hvalue⟩ := longWrite_of_validate hvalid
  have hlong : ¬ parts.length < 4 := by omega
  have hresolved : ¬ (!(resolveMvmeLongAddress (parts.getD 3 [])).success) = true := by
    simpa using haddress
  have hexact : ¬ parts.length ≠ 5 := not_not.mpr hlength
  rw [lineStore_longWrite target hcommand]
  simp only [Evaluator.evaluateLongWrite, if_neg hlong, if_neg hresolved, if_neg hexact]
    at hunharmed ⊢
  rw [executeStore_some]
  split
  next hform =>
    -- A form that is not followed is an issue, unless it leads outside the frontend.
    rw [if_pos hform] at hunharmed
    by_cases hfrontend : (longWriteAddress target (parts.headD [] = "writeabs".toList)
        (resolveMvmeLongAddress (parts.getD 3 [])).value).any isFrontendAddress = true
    · rw [if_pos hfrontend] at hunharmed
      have hreason := hunharmed.of_resetSelectorIf.of_addIssue rfl
      cases hreason
    · rw [frontend.store_outside (outside_of_longWriteAddress (Bool.not_eq_true _ |>.mp hfrontend))]
      exact (h.addIssue _ _ _).resetSelectorIf _
  next hform =>
    rw [if_neg hform] at hunharmed
    have habsolute : decide (parts.headD [] = "writeabs".toList) = false := by
      rw [Bool.not_eq_true', Bool.not_eq_false, Bool.and_eq_true, Bool.not_eq_true'] at hform
      exact hform.2
    rw [habsolute] at hunharmed ⊢
    rw [if_neg Bool.false_ne_true, add_sub_base]
    exact h.evaluateRelativeWrite hvalue hunharmed

/-- Nothing is stored by the commands that are known not to concern the frontend. -/
theorem lineStore_of_known (target : TargetModuleAddress) {parts : List Text}
    (h : isKnownNonFrontendCommand (parts.headD []) = true ∨ parts.headD [] = "set".toList ∨
      parts.headD [] = "accu_test".toList) : lineStore target parts = none := by
  have hno : parts.headD [] ≠ "write".toList ∧ parts.headD [] ≠ "writeabs".toList := by
    constructor
    · intro hwrite
      rw [hwrite] at h
      revert h
      decide
    · intro hwriteabs
      rw [hwriteabs] at h
      revert h
      decide
  unfold lineStore
  rw [if_neg hno.1, if_neg hno.2, if_pos]
  rw [Bool.or_eq_true, Bool.or_eq_true, decide_eq_true_eq, decide_eq_true_eq]
  tauto

/-- What a line of two numbers stores. -/
theorem lineStore_shorthand (target : TargetModuleAddress) {parts : List Text}
    (hwrite : ¬ (parts.headD [] = "write".toList || parts.headD [] = "writeabs".toList) = true)
    (hset : ¬ parts.headD [] = "set".toList) (htest : ¬ parts.headD [] = "accu_test".toList)
    (hknown : ¬ isKnownNonFrontendCommand (parts.headD []) = true) :
    lineStore target parts =
      some (target.fullA32Value + (resolve (parts.headD [])).value,
        (resolve (parts.getD 1 [])).value) := by
  rw [Bool.or_eq_true, decide_eq_true_eq, decide_eq_true_eq, not_or] at hwrite
  unfold lineStore
  rw [if_neg hwrite.1, if_neg hwrite.2, if_neg]
  rw [Bool.or_eq_true, Bool.or_eq_true, decide_eq_true_eq, decide_eq_true_eq]
  tauto

/-- Command by command. -/
theorem Follows.evaluateStatement (h : Follows before e frontend) {parts : List Text}
    (hset : ¬ parts.headD [] = "set".toList)
    (hvalid : (validatePreparedLineSyntax target parts).success = true)
    (hunharmed : Unharmed (evaluateStatement target e location parts)) :
    Follows before (Evaluator.evaluateStatement target e location parts)
      (executeStore target frontend (lineStore target parts)) := by
  unfold Evaluator.evaluateStatement at hunharmed ⊢
  -- a test stores nothing, and makes the rest conditional
  by_cases htest : parts.headD [] = "accu_test".toList
  · rw [if_pos htest, lineStore_of_known target (.inr (.inr htest))]
    apply h.of_issues
    · exact .inl rfl
    · rfl
  rw [if_neg htest] at hunharmed ⊢
  -- neither the warning nor the known commands store anything
  by_cases hwarn : parts.headD [] = "accu_test_warn".toList
  · rw [if_pos hwarn, lineStore_of_known target (.inl (by rw [hwarn]; decide))]
    exact h.addIssue _ _ _
  rw [if_neg hwarn] at hunharmed ⊢
  by_cases hknown : isKnownNonFrontendCommand (parts.headD []) = true
  · have hno : ¬ (parts.headD [] = "write".toList ||
        parts.headD [] = "writeabs".toList) = true := by
      intro hwrite
      rw [Bool.or_eq_true, decide_eq_true_eq, decide_eq_true_eq] at hwrite
      rcases hwrite with hwrite | hwrite
      all_goals
        rw [hwrite] at hknown
        revert hknown
        decide
    rw [if_neg hno, if_pos hknown, lineStore_of_known target (.inl hknown)]
    exact h.addIssue _ _ _
  have hform := statement_of_validate hvalid htest hwarn hset hknown
  by_cases hwrite : (parts.headD [] = "write".toList ||
      parts.headD [] = "writeabs".toList) = true
  · -- a long write, at the address that it names
    rw [if_pos hwrite] at hform hunharmed ⊢
    exact h.evaluateLongWrite hwrite hform hunharmed
  · -- two numbers, at an offset within the module
    rw [if_neg hwrite] at hform hunharmed ⊢
    rw [if_neg hknown] at hunharmed ⊢
    obtain ⟨haddress, hlength, hvalue⟩ := shorthand_of_validate hform
    have hresolved : ¬ (!(resolve (parts.headD [])).success) = true := by simpa using haddress
    have hpair : ¬ parts.length ≠ 2 := not_not.mpr hlength
    simp only [evaluateShorthand, if_neg hresolved, if_neg hpair] at hunharmed ⊢
    rw [lineStore_shorthand target hwrite hset htest hknown, executeStore_some, add_sub_base]
    exact h.evaluateRelativeWrite hvalue hunharmed

/-- What is held not to concern the frontend under a condition does not reach it. -/
theorem executeStore_of_conditionalEffect {parts : List Text}
    (h : (conditionalEffect target parts).1 = .nonFrontend) :
    executeStore target frontend (lineStore target parts) = frontend := by
  unfold conditionalEffect at h
  simp only at h
  -- a command that sets a variable stores nothing
  by_cases hset : parts.headD [] = "set".toList
  · rw [lineStore_of_known target (.inr (.inl hset))]
    rfl
  rw [if_neg hset] at h
  -- nor do the commands that are known
  by_cases hknown : (isKnownNonFrontendCommand (parts.headD []) ||
      parts.headD [] = "accu_test".toList) = true
  · rw [Bool.or_eq_true, decide_eq_true_eq] at hknown
    rw [lineStore_of_known target (hknown.imp id .inr)]
    rfl
  rw [if_neg hknown] at h
  rw [Bool.or_eq_true, decide_eq_true_eq, not_or] at hknown
  by_cases hwrite : (parts.headD [] = "write".toList ||
      parts.headD [] = "writeabs".toList) = true
  · -- a long write stores at its address, which was found to be outside
    rw [if_pos hwrite] at h
    rw [lineStore_longWrite target hwrite, executeStore_some]
    apply frontend.store_outside
    apply outside_of_longWriteAddress
    split at h
    · split at h
      · split at h
        · cases h
        next relativeAddress hrelative =>
          rw [hrelative]
          split at h
          next houtside => simpa using houtside
          · cases h
      · cases h
    · cases h
  · -- so does one in short form
    rw [if_neg hwrite] at h
    rw [lineStore_shorthand target hwrite hset hknown.2 hknown.1, executeStore_some, add_sub_base]
    apply frontend.store_outside
    split at h
    next houtside =>
      rw [Bool.and_eq_true, Bool.not_eq_true'] at houtside
      exact houtside.2
    · split at h <;> cases h

/-- After an `accu_test` a line that may write to the frontend harms the evaluation. -/
theorem Follows.evaluateConditionalLine (h : Follows before e frontend) {parts : List Text}
    {resolver : ValueResolver}
    (hunharmed : Unharmed (evaluateConditionalLine target e resolver location parts).1) :
    Follows before (Evaluator.evaluateConditionalLine target e resolver location parts).1
      (executeStore target frontend (lineStore target parts)) := by
  unfold Evaluator.evaluateConditionalLine at hunharmed ⊢
  simp only at hunharmed ⊢
  by_cases himpact : (conditionalEffect target parts).1 = .frontend
  · -- A conditional write to the frontend is there to stay.
    rw [if_pos himpact] at hunharmed
    obtain ⟨values, selector, heq⟩ := taintConditionalFrontendValue_eq
      { e with conditionalFrontendWrite := true } (conditionalEffect target parts).2.1
      (conditionalEffect target parts).2.2
    rw [heq] at hunharmed
    cases hunharmed.conditional
  · have hnonFrontend : (conditionalEffect target parts).1 = .nonFrontend := by
      cases hcase : (conditionalEffect target parts).1 with
      | nonFrontend => rfl
      | frontend => exact absurd hcase himpact
    rw [executeStore_of_conditionalEffect hnonFrontend, if_neg himpact]
    exact h.addIssue _ _ _

/-- One line. -/
theorem Follows.evaluateLine (h : Follows before e frontend) {line : Text}
    {resolver : ValueResolver} (hrejected : lineRejected target resolver line = false)
    (hunharmed : Unharmed (evaluateLine target e resolver location line).1) :
    Follows before (Evaluator.evaluateLine target e resolver location line).1
      (executeLine target frontend resolver line).1 := by
  unfold lineRejected at hrejected
  simp only [Bool.or_eq_false_iff, Bool.not_eq_false'] at hrejected
  obtain ⟨hprepared, hvalid⟩ := hrejected
  unfold Evaluator.evaluateLine Evaluator.evaluatePreparedLine executeLine at *
  simp only [hprepared, hvalid, Bool.not_true, Bool.false_eq_true, if_false] at hunharmed ⊢
  by_cases hset : (prepareLine line resolver).parts.headD [] = "set".toList
  · have hform := set_of_validate hvalid hset
    rw [lineStore_of_known target (.inr (.inl hset)), if_pos hset]
    simp only [evaluateSet, hform.1, hform.2, ne_eq, not_true_eq_false, decide_false,
      Bool.or_false, Bool.false_eq_true, if_false]
    exact h
  · rw [if_neg hset] at hunharmed ⊢
    cases hconditional : e.statementsConditional with
    | true =>
        simp only [hconditional, if_true] at hunharmed ⊢
        exact h.evaluateConditionalLine hunharmed
    | false =>
        simp only [hconditional, Bool.false_eq_true, if_false] at hunharmed ⊢
        exact h.evaluateStatement hset hvalid hunharmed

end Statements

section Runs

variable {before frontend : ScpFrontend} {e : Evaluator} {target : TargetModuleAddress}
  {scriptIndex : Nat}

/-- The variables are those of the evaluation. -/
theorem executeLine_snd (target : TargetModuleAddress) (frontend : ScpFrontend)
    {resolver : ValueResolver} {line : Text} (h : lineRejected target resolver line = false) :
    (executeLine target frontend resolver line).2 = resolverAfterLine resolver line := by
  unfold lineRejected at h
  simp only [Bool.or_eq_false_iff] at h
  unfold executeLine
  simp only [h.1, Bool.false_eq_true, if_false]

theorem evaluateLine_snd (e : Evaluator) (location : MvmeInitScriptLocation)
    {resolver : ValueResolver} {line : Text} (h : lineRejected target resolver line = false) :
    (evaluateLine target e resolver location line).2 = resolverAfterLine resolver line := by
  obtain ⟨effect, resolver', -, hresolver, heffect⟩ :=
    exists_effect_evaluateLine target resolver location line
  rw [heffect e]
  exact hresolver h

/-- Line by line. -/
theorem Follows.evaluateLines (h : Follows before e frontend) {resolver : ValueResolver}
    {lineNumber : Nat} {lines : List Text} (hrejected : scriptRejected target resolver lines = false)
    (hunharmed : Unharmed (evaluateLines target scriptIndex e resolver lineNumber lines)) :
    Follows before (Evaluator.evaluateLines target scriptIndex e resolver lineNumber lines)
      (executeLines target frontend resolver lines) := by
  induction lines generalizing e frontend resolver lineNumber with
  | nil => exact h
  | cons line lines ih =>
      unfold Evaluator.evaluateLines at hunharmed ⊢
      unfold executeLines
      unfold scriptRejected at hrejected
      simp only at hrejected hunharmed ⊢
      by_cases hblank : trim line = []
      · rw [if_pos hblank] at hrejected hunharmed ⊢
        rw [if_pos hblank]
        exact ih h hrejected hunharmed
      · rw [if_neg hblank] at hrejected hunharmed ⊢
        rw [if_neg hblank]
        rw [Bool.or_eq_false_iff] at hrejected
        have hline := hunharmed.of_persists (persists_evaluateLines target scriptIndex _ _ _ _)
        rw [evaluateLine_snd e _ hrejected.1] at hunharmed ⊢
        rw [executeLine_snd target frontend hrejected.1]
        exact ih (h.evaluateLine hrejected.1 hline) hrejected.2 hunharmed

/-- A script that is not rejected. -/
theorem Follows.evaluateScript (h : Follows before e frontend) {source : Text}
    {resolver : ValueResolver} (hrejected : textRejected target source resolver = false)
    (hunharmed : Unharmed (evaluateScript target e scriptIndex source resolver)) :
    Follows before (Evaluator.evaluateScript target e scriptIndex source resolver)
      (executeLines target frontend resolver (splitLines (stripComments source).text)) := by
  have htext : Evaluator.evaluateScript target e scriptIndex source resolver =
      evaluateText target e scriptIndex source resolver := by
    unfold Evaluator.evaluateScript
    simp only [currentScriptParseFailed_evaluateText, hrejected, Bool.false_eq_true, if_false]
  unfold textRejected at hrejected
  simp only [Bool.or_eq_false_iff] at hrejected
  rw [htext] at hunharmed ⊢
  unfold evaluateText at hunharmed ⊢
  simp only [hrejected.2, Bool.false_eq_true, if_false] at hunharmed ⊢
  have hstart : Follows before { e with currentScriptParseFailed := false } frontend :=
    ⟨h.selector, h.banked⟩
  exact hstart.evaluateLines hrejected.1 hunharmed

/-- An evaluation that has met nothing that makes it incomplete. -/
structure Sound (e : Evaluator) : Prop where
  unharmed : Unharmed e
  parsed : e.parseFailureEncountered = false

theorem Sound.of_persists {e' : Evaluator} (h : Sound e') (hpersists : Persists e e') :
    Sound e where
  unharmed := h.unharmed.of_persists hpersists
  parsed := by
    cases hcase : e.parseFailureEncountered with
    | false => rfl
    | true => exact absurd (hpersists.parseFailureEncountered hcase) (by rw [h.parsed]; decide)

/-- An entry. -/
theorem Follows.applyEntry (h : Follows before e frontend) (context : ScriptContext) (script : Json)
    (hsound : Sound ((entryEffect context script scriptIndex).apply target scriptIndex e)) :
    Follows before ((entryEffect context script scriptIndex).apply target scriptIndex e)
      (executeEntry target frontend (entryEffect context script scriptIndex)) := by
  have hissues := @issues_of_unusable context script scriptIndex
  generalize entryEffect context script scriptIndex = effect at hsound hissues ⊢
  cases effect with
  | disabled => exact h
  | script text resolver =>
      have hrejected := parseFailureEncountered_applyEntry target scriptIndex e
        (.script text resolver)
      rw [hsound.parsed, eq_comm, Bool.or_eq_false_iff] at hrejected
      have hstart : Follows before { e with
          result := { e.result with enabledScriptCount := e.result.enabledScriptCount + 1 } }
          frontend := ⟨h.selector, h.banked⟩
      exact hstart.evaluateScript hrejected.2 hsound.unharmed
  | unusable count issues =>
      obtain ⟨hne, hfrontend⟩ := hissues rfl
      obtain ⟨issue, hissue⟩ := List.exists_mem_of_ne_nil issues hne
      have hreason := hsound.unharmed.issues issue (List.mem_append_right _ hissue)
        (hfrontend issue hissue).1
      exact absurd hreason (hfrontend issue hissue).2

/-- Entry by entry. -/
theorem Follows.evaluateEntriesFrom (h : Follows before e frontend) (context : ScriptContext)
    {n : Nat} {scripts : List Json}
    (hsound : Sound (evaluateEntriesFrom target context e n scripts)) :
    Follows before (Evaluator.evaluateEntriesFrom target context e n scripts)
      (executeScripts target context frontend n scripts) := by
  induction scripts generalizing e frontend n with
  | nil => exact h
  | cons script scripts ih =>
      rw [evaluateEntriesFrom_cons] at hsound ⊢
      have hentry := hsound.of_persists (persists_evaluateEntriesFrom target context _ _ _)
      exact ih (h.applyEntry context script hentry) hsound

/-- Nothing is known of the frontend at first. -/
theorem follows_initial (frontend : ScpFrontend) : Follows frontend {} frontend where
  selector := by
    intro value hvalue
    cases hvalue
  banked := by
    intro quad register
    rw [show ({} : Evaluator).finalValues = ∅ from rfl, Std.TreeMap.getElem?_emptyc]
    rfl

/-- A complete evaluation is sound. -/
theorem sound_of_finalState (h : e.finalState.1 = .complete ∨
    e.finalState.1 = .completeWithUnresolvedNonFrontend) : Sound e := by
  unfold finalState at h
  simp only at h
  split at h
  · rcases h with h | h <;> cases h
  next hparsed =>
    split at h
    · rcases h with h | h <;> cases h
    next hissues =>
      split at h
      · rcases h with h | h <;> cases h
      next hconditional =>
        refine ⟨⟨?_, by simpa using hconditional⟩, by simpa using hparsed⟩
        intro issue hissue himpact
        by_contra hreason
        apply hissues
        rw [List.any_eq_true]
        exact ⟨issue, hissue, by simp [himpact, hreason]⟩

end Runs

/-- Where the evaluation of a target is complete, its scripts, carried out on any frontend, leave in
every register that is listed the value that is listed, and in every other what it held. -/
theorem executeScripts_endsWithFinalValues (workspace : MvmeWorkspace)
    (target : MvmeWorkspaceTarget)
    (hstate : (evaluateMvmeTargetInitScripts workspace target).state = .complete ∨
      (evaluateMvmeTargetInitScripts workspace target).state =
        .completeWithUnresolvedNonFrontend) :
    let values := (evaluateMvmeTargetInitScripts workspace target).finalFrontendValues
    ∃ context scripts, Located workspace target context scripts ∧ ∀ frontend : ScpFrontend,
      let after := executeScripts target.address context frontend 0 scripts
      (∀ value ∈ values, after.banked value.quad value.registerOffset = value.value) ∧
        ∀ quad register, (∀ value ∈ values, (value.quad, value.registerOffset) ≠ (quad, register)) →
          after.banked quad register = frontend.banked quad register := by
  intro values
  rcases located_or_malformed workspace target with ⟨context, scripts, hlocated⟩ | ⟨message, hrun⟩
  · refine ⟨context, scripts, hlocated, ?_⟩
    intro frontend after
    have hevaluation : evaluateMvmeTargetInitScripts workspace target =
        evaluateScripts target.address context scripts := run_eq_of_located hlocated
    -- a complete evaluation has met nothing that the execution might do otherwise
    have hsound : Sound (evaluateEntries target.address context scripts) := by
      apply sound_of_finalState
      rw [hevaluation] at hstate
      exact hstate
    have hconsistent : Consistent { scriptIndex := 0 + scripts.length }
        (evaluateEntries target.address context scripts) :=
      (consistent_initial { scriptIndex := 0 }).evaluateEntriesFrom target.address context scripts
    have hfollows : Follows frontend (evaluateEntries target.address context scripts) after :=
      (follows_initial frontend).evaluateEntriesFrom context hsound
    have hvalues : values =
        (evaluateEntries target.address context scripts).finalValues.toList.map (·.2) :=
      congrArg MvmeInitScriptEvaluation.finalFrontendValues hevaluation
    constructor
    · -- a register that is listed holds its final value
      intro value hvalue
      rw [hvalues] at hvalue
      obtain ⟨⟨key, found⟩, hentry, rfl⟩ := List.mem_map.mp hvalue
      obtain rfl := hconsistent.key_eq hentry
      have hfound := Std.TreeMap.mem_toList_iff_getElem?_eq_some.mp hentry
      rw [hfollows.banked, show (found.quad, found.registerOffset) = found.key from rfl, hfound]
      rfl
    · -- one that is not listed holds what it held before
      intro quad register hother
      rw [hfollows.banked]
      cases hfound : (evaluateEntries target.address context scripts).finalValues[(quad, register)]? with
      | none => rfl
      | some found =>
          have hentry := Std.TreeMap.mem_toList_iff_getElem?_eq_some.mpr hfound
          have hmem : found ∈ values := by
            rw [hvalues]
            exact List.mem_map.mpr ⟨_, hentry, rfl⟩
          exact absurd (hconsistent.key_eq hentry) (hother found hmem)
  · -- a workspace that cannot be read has no complete evaluation
    have hmalformed : evaluateMvmeTargetInitScripts workspace target = malformed message := hrun
    rw [hmalformed] at hstate
    rcases hstate with hstate | hstate <;> cases hstate

/-- The selector at a quad, at all of them and, after a line that waits, at a quad again. -/
def completeScripts : List Json :=
  [.object [("vme_script", .string "0x6100 8\n0x611A 5\nwait 100")],
    .object [("vme_script", .string "0x6100 2\nwrite a32 d16 0x611A 7")]]

theorem executeScripts_endsWithFinalValues_example :
    let values := (evaluateMvmeTargetInitScripts (exampleWorkspace completeScripts)
      exampleTarget).finalFrontendValues
    ∃ context scripts, Located (exampleWorkspace completeScripts) exampleTarget context scripts ∧
      ∀ frontend : ScpFrontend,
        let after := executeScripts exampleTarget.address context frontend 0 scripts
        (∀ value ∈ values, after.banked value.quad value.registerOffset = value.value) ∧
          ∀ quad register,
            (∀ value ∈ values, (value.quad, value.registerOffset) ≠ (quad, register)) →
              after.banked quad register = frontend.banked quad register :=
  executeScripts_endsWithFinalValues (exampleWorkspace completeScripts) exampleTarget
    (.inr (by decide +kernel))

end Evaluator

end Fidget
