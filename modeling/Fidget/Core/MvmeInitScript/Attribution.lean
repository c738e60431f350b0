import Fidget.Core.MvmeInitScript.Rollback

/-!
# Attributed writes

The list of the writes and the map of the final values are kept apart, next to a list of selector
assignments. `Consistent` says how the three fit together. Every line keeps it, and so does every
script, the rejected ones included.

## Main results

- `replayWrites`, `lastWrite`: the writes as a list, and the last of them for a register.
- `Consistent`: how writes, final values and selector assignments fit together at a place.
- `Consistent.evaluateLines`, `evaluateScript`, `evaluateEntriesFrom`: line, script and list keep
  it.
-/

namespace Fidget

open MvmeInitScript

/-! ### The order of scripts and lines

Places are ordered by the script in the list and by the line in the script, and evaluation goes
through them in that order. -/

namespace MvmeInitScriptLocation

/-- An earlier script, or an earlier line of the same one. -/
def Before (a b : MvmeInitScriptLocation) : Prop :=
  a.scriptIndex < b.scriptIndex ∨ a.scriptIndex = b.scriptIndex ∧ a.lineNumber < b.lineNumber

theorem Before.trans {a b c : MvmeInitScriptLocation} (h : a.Before b) (h' : b.Before c) :
    a.Before c := by
  unfold Before at *
  omega

theorem Before.asymm {a b : MvmeInitScriptLocation} (h : a.Before b) : ¬ b.Before a := by
  unfold Before at *
  omega

end MvmeInitScriptLocation

/-- The last of the assignments before a location. -/
structure LastBefore (assignments : List MvmeInitScriptSelectorAssignment)
    (location : MvmeInitScriptLocation) (assignment : MvmeInitScriptSelectorAssignment) : Prop where
  mem : assignment ∈ assignments
  before : assignment.location.Before location
  last : ∀ other ∈ assignments, other.location.Before location →
    other = assignment ∨ other.location.Before assignment.location

/-- An assignment that comes later does not count. -/
theorem LastBefore.append {assignments : List MvmeInitScriptSelectorAssignment}
    {location : MvmeInitScriptLocation} {assignment : MvmeInitScriptSelectorAssignment}
    (h : LastBefore assignments location assignment) {added : MvmeInitScriptSelectorAssignment}
    (hadded : location.Before added.location) :
    LastBefore (assignments ++ [added]) location assignment where
  mem := List.mem_append_left _ h.mem
  before := h.before
  last := by
    intro other hother hbefore
    rcases List.mem_append.mp hother with hother | hother
    · exact h.last other hother hbefore
    · rw [List.mem_singleton.mp hother] at hbefore
      exact absurd hbefore hadded.asymm

/-! ### Replaying the writes

The list of writes can be replayed: each sets the values of the quads that it reaches. `Consistent`
says that the map of final values is what the replay leaves, less what a conditional write has made
uncertain. -/

def MvmeInitScriptFrontendValue.key (value : MvmeInitScriptFrontendValue) : UInt16 × UInt16 :=
  (value.quad, value.registerOffset)

/-- What a write leaves in the quads it reaches: in all of them, if it is a broadcast. -/
def MvmeInitScriptFrontendWrite.reachedValues (write : MvmeInitScriptFrontendWrite) :
    List MvmeInitScriptFrontendValue :=
  (if write.selectorValue = fw2051ScpBroadcastSelectorValue then fw2051ScpQuads
    else [write.selectorValue]).map fun quad =>
      { location := write.location, quad, registerOffset := write.registerOffset,
        value := write.value }

/-- All that the writes leave, in their order. -/
def replayWrites (writes : List MvmeInitScriptFrontendWrite) : List MvmeInitScriptFrontendValue :=
  writes.flatMap (·.reachedValues)

/-- The last value that the writes give to a register. -/
def lastWrite (writes : List MvmeInitScriptFrontendWrite) (key : UInt16 × UInt16) :
    Option MvmeInitScriptFrontendValue :=
  ((replayWrites writes).filter fun value => value.key = key).getLast?

/-- A later write decides if it reaches the register. -/
theorem lastWrite_append (writes : List MvmeInitScriptFrontendWrite)
    (write : MvmeInitScriptFrontendWrite) (key : UInt16 × UInt16) :
    lastWrite (writes ++ [write]) key =
      (write.reachedValues.filter fun value => value.key = key).getLast?.or
        (lastWrite writes key) := by
  unfold lastWrite replayWrites
  rw [List.flatMap_append, List.flatMap_cons, List.flatMap_nil, List.append_nil,
    List.filter_append, List.getLast?_append]

/-- The last write of a register is one to that register. -/
theorem key_of_lastWrite {writes : List MvmeInitScriptFrontendWrite} {key : UInt16 × UInt16}
    {value : MvmeInitScriptFrontendValue} (h : lastWrite writes key = some value) :
    value.key = key := by
  have hmem := List.mem_of_getLast? h
  exact of_decide_eq_true (List.mem_filter.mp hmem).2

/-- A register that is written has a last write. -/
theorem exists_lastWrite {writes : List MvmeInitScriptFrontendWrite}
    {value : MvmeInitScriptFrontendValue} (h : value ∈ replayWrites writes) :
    ∃ last, lastWrite writes value.key = some last := by
  have hmem : value ∈ (replayWrites writes).filter fun other => other.key = value.key :=
    List.mem_filter.mpr ⟨h, decide_eq_true rfl⟩
  exact ⟨_, List.getLast?_eq_some_getLast (List.ne_nil_of_mem hmem)⟩

instance : Std.TransCmp compareFrontendKeys := by
  unfold compareFrontendKeys
  infer_instance

/-- By quad, then by register. -/
theorem compareFrontendKeys_eq_lt {a b : UInt16 × UInt16} :
    compareFrontendKeys a b = .lt ↔ a.1 < b.1 ∨ a.1 = b.1 ∧ a.2 < b.2 := by
  unfold compareFrontendKeys compareLex compareOn
  rw [Ordering.then_eq_lt, Std.LawfulEqOrd.compare_eq_iff_eq, Std.compare_eq_lt, Std.compare_eq_lt]

instance : Std.LawfulEqCmp compareFrontendKeys where
  eq_of_compare := by
    intro a b h
    unfold compareFrontendKeys compareLex compareOn at h
    rw [Ordering.then_eq_eq, Std.LawfulEqOrd.compare_eq_iff_eq,
      Std.LawfulEqOrd.compare_eq_iff_eq] at h
    exact Prod.ext h.1 h.2

namespace Evaluator

/-- Whether it has been reported that a write to the frontend may or may not happen. -/
def reportsConditional (unresolved : List MvmeInitScriptUnresolvedStatement) : Prop :=
  ∃ statement ∈ unresolved,
    statement.impact = .frontend ∧ statement.reason = .conditionalAfterAccuTest

/-- How an evaluation that has come as far as a location fits together. -/
structure Consistent (location : MvmeInitScriptLocation) (e : Evaluator) : Prop where
  assignmentsBefore : ∀ assignment ∈ e.result.selectorAssignments,
    assignment.location.Before location
  writesBefore : ∀ write ∈ e.result.frontendWrites, write.location.Before location
  sorted : e.result.selectorAssignments.Pairwise fun a b => a.location.Before b.location
  selector : ∀ value, e.selector = some value →
    ∃ assignment, e.result.selectorAssignments.getLast? = some assignment ∧
      assignment.value = value
  writes : ∀ write ∈ e.result.frontendWrites,
    ∃ assignment, LastBefore e.result.selectorAssignments write.location assignment ∧
      assignment.value = write.selectorValue
  agrees : ∀ (key : UInt16 × UInt16) (value : MvmeInitScriptFrontendValue),
    e.finalValues[key]? = some value → lastWrite e.result.frontendWrites key = some value
  complete : ¬ reportsConditional e.result.unresolvedStatements →
    ∀ key, e.finalValues[key]? = lastWrite e.result.frontendWrites key

/-- At first there is nothing to fit together. -/
theorem consistent_initial (location : MvmeInitScriptLocation) :
    Consistent location ({} : Evaluator) where
  assignmentsBefore := fun _ h => nomatch h
  writesBefore := fun _ h => nomatch h
  sorted := .nil
  selector := fun _ h => nomatch h
  writes := fun _ h => nomatch h
  agrees := by
    intro key value h
    rw [show ({} : Evaluator).finalValues = ∅ from rfl, Std.TreeMap.getElem?_emptyc] at h
    cases h
  complete := fun _ _ => Std.TreeMap.getElem?_emptyc

section Steps

variable {location : MvmeInitScriptLocation} {e e' : Evaluator}

/-- To come further is no change. -/
theorem Consistent.advance (h : Consistent location e) {location' : MvmeInitScriptLocation}
    (hbefore : location.Before location') : Consistent location' e :=
  { h with
    assignmentsBefore := fun assignment hmem => (h.assignmentsBefore assignment hmem).trans hbefore
    writesBefore := fun write hmem => (h.writesBefore write hmem).trans hbefore }

/-- More issues, and perhaps an unknown selector, do no harm. -/
theorem Consistent.of_issues (h : Consistent location e)
    (hselector : e'.selector = e.selector ∨ e'.selector = none)
    (hassignments : e'.result.selectorAssignments = e.result.selectorAssignments)
    (hwrites : e'.result.frontendWrites = e.result.frontendWrites)
    (hvalues : e'.finalValues = e.finalValues)
    (hissues : e.result.unresolvedStatements <+: e'.result.unresolvedStatements) :
    Consistent location e' where
  assignmentsBefore := by rw [hassignments]; exact h.assignmentsBefore
  writesBefore := by rw [hwrites]; exact h.writesBefore
  sorted := by rw [hassignments]; exact h.sorted
  selector := by
    intro value hvalue
    rw [hassignments]
    rcases hselector with hselector | hselector
    · exact h.selector value (hselector ▸ hvalue)
    · rw [hselector] at hvalue
      cases hvalue
  writes := by rw [hassignments, hwrites]; exact h.writes
  agrees := by rw [hwrites, hvalues]; exact h.agrees
  complete := by
    intro hnone
    rw [hwrites, hvalues]
    refine h.complete fun hreports => hnone ?_
    obtain ⟨statement, hmem, hstatement⟩ := hreports
    exact ⟨statement, hissues.subset hmem, hstatement⟩

/-- It is a matter of the attribution, and of the issues growing. -/
theorem Consistent.of_attribution (h : Consistent location e)
    (hattribution : e'.attribution = e.attribution)
    (hissues : e.result.unresolvedStatements <+: e'.result.unresolvedStatements) :
    Consistent location e' :=
  h.of_issues (.inl (congrArg Attribution.selector hattribution))
    (congrArg Attribution.selectorAssignments hattribution)
    (congrArg Attribution.frontendWrites hattribution)
    (congrArg Attribution.finalValues hattribution) hissues

/-- A report attributes nothing. -/
theorem Consistent.report (h : Consistent location e) (failed : Bool)
    (impact : MvmeInitScriptUnresolvedImpact) (reason : MvmeInitScriptUnresolvedReason)
    (message : String) (reset : Bool) (at_ : MvmeInitScriptLocation) :
    Consistent location ((LineEffect.report failed impact reason message reset).apply at_ e) := by
  have hissues := (extends_report e at_ failed impact reason message reset).unresolvedStatements
  refine h.of_issues ?_ ?_ ?_ ?_ hissues
  · cases failed <;> cases reset <;> first | exact .inl rfl | exact .inr rfl
  all_goals cases failed <;> cases reset <;> rfl

/-- The last assignment is the last before the location that the evaluation has come to. -/
theorem Consistent.lastBefore (h : Consistent location e)
    {assignment : MvmeInitScriptSelectorAssignment}
    (hlast : e.result.selectorAssignments.getLast? = some assignment) :
    LastBefore e.result.selectorAssignments location assignment where
  mem := List.mem_of_getLast? hlast
  before := h.assignmentsBefore assignment (List.mem_of_getLast? hlast)
  last := by
    intro other hother _
    obtain ⟨init, hinit⟩ := List.getLast?_eq_some_iff.mp hlast
    rw [hinit] at hother
    rcases List.mem_append.mp hother with hother | hother
    · have hsorted := h.sorted
      rw [hinit, List.pairwise_append] at hsorted
      exact .inr (hsorted.2.2 other hother assignment List.mem_cons_self)
    · exact .inl (List.mem_singleton.mp hother)

/-- An assignment comes after all that have been made. -/
theorem Consistent.select (h : Consistent location e) {location' : MvmeInitScriptLocation}
    (hbefore : location.Before location') (value : UInt16) :
    Consistent location' (e.setSelector location value) := by
  unfold setSelector
  split
  · exact (h.report false .frontend .invalidSelector _ true location).advance hbefore
  · have hadvance := h.advance hbefore
    constructor
    · intro assignment hmem
      rcases List.mem_append.mp hmem with hmem | hmem
      · exact hadvance.assignmentsBefore assignment hmem
      · rw [List.mem_singleton.mp hmem]
        exact hbefore
    · exact hadvance.writesBefore
    · refine List.pairwise_append.mpr ⟨h.sorted, List.pairwise_singleton _ _, ?_⟩
      intro assignment hmem added hadded
      rw [List.mem_singleton.mp hadded]
      exact h.assignmentsBefore assignment hmem
    · intro selected hselected
      cases hselected
      exact ⟨_, List.getLast?_concat, rfl⟩
    · intro write hwrite
      obtain ⟨assignment, hlast, hvalue⟩ := h.writes write hwrite
      -- All writes so far are before the new assignment.
      exact ⟨assignment, hlast.append (h.writesBefore write hwrite), hvalue⟩
    · exact h.agrees
    · exact h.complete

/-- A write that is attributed sets the final values that replaying it leaves. -/
theorem evaluateBankedWrite_eq_replay (location : MvmeInitScriptLocation) {selector : UInt16}
    (h : e.selector = some selector)
    (registerOffset value : UInt16) :
    ∃ write : MvmeInitScriptFrontendWrite, write.location = location ∧
      write.selectorValue = selector ∧
      e.evaluateBankedWrite location registerOffset value =
        { e with
          result := { e.result with frontendWrites := e.result.frontendWrites ++ [write] }
          finalValues := write.reachedValues.foldl (fun values value => values.insert value.key value)
            e.finalValues } := by
  let scope :=
    if selector = fw2051ScpBroadcastSelectorValue then MvmeInitScriptSelectorScope.broadcast
    else .quad
  refine ⟨⟨location, registerOffset, value, selector, scope⟩, rfl, rfl, ?_⟩
  rw [evaluateBankedWrite_of_some e location h, MvmeInitScriptFrontendWrite.reachedValues,
    List.foldl_map]
  rfl

/-- A write is attributed to the assignment before it, and is now the last. -/
theorem Consistent.write (h : Consistent location e) {location' : MvmeInitScriptLocation}
    (hbefore : location.Before location') (registerOffset value : UInt16) :
    Consistent location' (e.evaluateBankedWrite location registerOffset value) := by
  cases hselector : e.selector with
  -- with an unknown selector the write is reported
  | none =>
      unfold evaluateBankedWrite
      simp only [hselector]
      exact (h.report false .frontend .selectorUnresolved _ false location).advance hbefore
  -- otherwise it belongs to the last assignment of the selector
  | some selector =>
      obtain ⟨write, hlocation, hvalue, heq⟩ :=
        evaluateBankedWrite_eq_replay location hselector registerOffset value
      rw [heq]
      have hadvance := h.advance hbefore
      constructor
      · exact hadvance.assignmentsBefore
      · intro other hmem
        rcases List.mem_append.mp hmem with hmem | hmem
        · exact hadvance.writesBefore other hmem
        · rw [List.mem_singleton.mp hmem, hlocation]
          exact hbefore
      · exact h.sorted
      · exact h.selector
      · intro other hmem
        rcases List.mem_append.mp hmem with hmem | hmem
        · exact h.writes other hmem
        · obtain ⟨assignment, hlast, hassignment⟩ := h.selector selector hselector
          rw [List.mem_singleton.mp hmem, hlocation, hvalue]
          exact ⟨assignment, h.lastBefore hlast, hassignment⟩
      · -- what the write reaches it has written last
        intro key found hfound
        rw [Lists.getElem?_foldl_insert] at hfound
        rw [lastWrite_append]
        cases hreached : (write.reachedValues.filter fun value => value.key = key).getLast? with
        | none =>
            rw [hreached, Option.none_or] at hfound
            exact h.agrees key found hfound
        | some reached =>
            rw [hreached, Option.some_or] at hfound
            exact hfound
      · intro hnone key
        rw [Lists.getElem?_foldl_insert, lastWrite_append, h.complete hnone key]

/-- A possible write takes final values away, and says so. -/
theorem getElem?_of_taint {address : Option UInt32} {valueText : Text} {key : UInt16 × UInt16}
    {value : MvmeInitScriptFrontendValue}
    (h : (e.taintConditionalFrontendValue address valueText).finalValues[key]? = some value) :
    e.finalValues[key]? = some value := by
  have hempty (h : (∅ : FinalValues)[key]? = some value) : e.finalValues[key]? = some value := by
    rw [Std.TreeMap.getElem?_emptyc] at h
    cases h
  unfold taintConditionalFrontendValue at h
  split at h
  · exact hempty h
  split at h
  · exact hempty h
  simp only at h
  split at h
  · split at h <;> exact h
  split at h
  · exact hempty h
  split at h
  · exact Lists.getElem?_of_foldl_erase (fun quad => (quad, _)) h
  split at h
  · exact Lists.getElem?_of_foldl_erase (fun quad => (quad, _)) h
  · exact Lists.getElem?_of_foldl_erase id (l := [_]) h

/-- To know fewer values is consistent, once a condition has been reported. -/
theorem Consistent.taint (h : Consistent location e) (address : Option UInt32) (valueText : Text)
    (at_ : MvmeInitScriptLocation) :
    Consistent location ((LineEffect.taint address valueText).apply at_ e) := by
  obtain ⟨values, selector, heq⟩ := taintConditionalFrontendValue_eq
    { e with conditionalFrontendWrite := true } address valueText
  have hvalues {key : UInt16 × UInt16} {value : MvmeInitScriptFrontendValue}
      (hvalue : values[key]? = some value) : e.finalValues[key]? = some value := by
    refine @getElem?_of_taint { e with conditionalFrontendWrite := true } address valueText key
      value ?_
    rw [heq]
    exact hvalue
  show Consistent location ((taintConditionalFrontendValue _ address valueText).addIssue ..)
  rw [heq]
  exact
    { assignmentsBefore := h.assignmentsBefore
      writesBefore := h.writesBefore
      sorted := h.sorted
      selector := h.selector
      writes := h.writes
      agrees := fun key value hvalue => h.agrees key value (hvalues hvalue)
      complete := fun hnone => absurd
        ⟨_, List.mem_append_right _ List.mem_cons_self, rfl, rfl⟩ hnone }

/-- Every line keeps an evaluation consistent. -/
theorem Consistent.apply (h : Consistent location e) {location' : MvmeInitScriptLocation}
    (hbefore : location.Before location') (effect : LineEffect) :
    Consistent location' (effect.apply location e) := by
  cases effect with
  | none => exact h.advance hbefore
  | report failed impact reason message reset =>
      exact (h.report failed impact reason message reset location).advance hbefore
  | select value => exact h.select hbefore value
  | write registerOffset value => exact h.write hbefore registerOffset value
  | test =>
      have hissues := (extends_apply e location .test).unresolvedStatements
      exact (@Consistent.of_issues _ _ (e.evaluateAccuTest location) h (.inl rfl) rfl rfl rfl
        hissues).advance hbefore
  | taint address valueText => exact (h.taint address valueText location).advance hbefore

/-! ### The list of final values

The result lists the map in the order of its keys. Nothing is listed twice, and nothing is missing
unless a condition was reported. -/

/-- A final value stands under its own key. -/
theorem Consistent.key_eq (h : Consistent location e) {key : UInt16 × UInt16}
    {value : MvmeInitScriptFrontendValue} (hmem : (key, value) ∈ e.finalValues.toList) :
    value.key = key :=
  key_of_lastWrite (h.agrees key value (Std.TreeMap.mem_toList_iff_getElem?_eq_some.mp hmem))

/-- The final values are in order, with no register twice. -/
theorem Consistent.pairwise_finalValues (h : Consistent location e) :
    (e.finalValues.toList.map (·.2)).Pairwise fun a b =>
      a.quad < b.quad ∨ a.quad = b.quad ∧ a.registerOffset < b.registerOffset := by
  rw [List.pairwise_map]
  refine (Std.TreeMap.ordered_keys_toList (t := e.finalValues)).imp_of_mem ?_
  intro a b ha hb hlt
  have hlt' := compareFrontendKeys_eq_lt.mp hlt
  rw [← h.key_eq ha, ← h.key_eq hb] at hlt'
  exact hlt'

/-- A final value is that of the last write. -/
theorem Consistent.lastWrite_of_mem (h : Consistent location e)
    (value : MvmeInitScriptFrontendValue) (hmem : value ∈ e.finalValues.toList.map (·.2)) :
    lastWrite e.result.frontendWrites value.key = some value := by
  obtain ⟨⟨key, found⟩, hentry, rfl⟩ := List.mem_map.mp hmem
  rw [h.key_eq hentry]
  exact h.agrees key found (Std.TreeMap.mem_toList_iff_getElem?_eq_some.mp hentry)

/-- Without a condition, every register that is written has a final value. -/
theorem Consistent.exists_finalValue (h : Consistent location e)
    (hnone : ¬ reportsConditional e.result.unresolvedStatements)
    (written : MvmeInitScriptFrontendValue) (hwritten : written ∈ replayWrites e.result.frontendWrites) :
    ∃ value ∈ e.finalValues.toList.map (·.2), value.key = written.key := by
  obtain ⟨last, hlast⟩ := exists_lastWrite hwritten
  have hfound : e.finalValues[written.key]? = some last := (h.complete hnone _).trans hlast
  exact ⟨last, List.mem_map.mpr ⟨_, Std.TreeMap.mem_toList_iff_getElem?_eq_some.mpr hfound, rfl⟩,
    key_of_lastWrite hlast⟩

end Steps

/-! ### Scripts and entries

A rejected script goes back to the state before it, which was consistent; everything else goes
forward by steps that keep it so. -/

section Runs

variable (target : TargetModuleAddress)

/-- By induction over the lines. -/
theorem Consistent.evaluateLines {scriptIndex lineNumber : Nat} {e : Evaluator}
    (h : Consistent { scriptIndex, lineNumber } e) (resolver : ValueResolver) (lines : List Text) :
    Consistent { scriptIndex, lineNumber := lineNumber + lines.length }
      (evaluateLines target scriptIndex e resolver lineNumber lines) := by
  induction lines generalizing e resolver lineNumber with
  | nil => exact h
  | cons line lines ih =>
      have hbefore : MvmeInitScriptLocation.Before { scriptIndex, lineNumber }
          { scriptIndex, lineNumber := lineNumber + 1 } := .inr ⟨rfl, Nat.lt_succ_self _⟩
      rw [List.length_cons, show lineNumber + (lines.length + 1) = lineNumber + 1 + lines.length by
        omega]
      unfold Evaluator.evaluateLines
      simp only
      split
      · exact ih (h.advance hbefore) resolver
      · obtain ⟨effect, resolver', -, -, heffect⟩ := exists_effect_evaluateLine target resolver
          { scriptIndex, lineNumber } (trim line)
        rw [heffect e]
        exact ih (h.apply hbefore _) resolver'

/-- A script that is rejected goes back to what was consistent before. -/
theorem Consistent.evaluateScript {scriptIndex : Nat} {before : Evaluator}
    (h : Consistent { scriptIndex } before) (source : Text) (resolver : ValueResolver) :
    Consistent { scriptIndex := scriptIndex + 1 }
      (evaluateScript target before scriptIndex source resolver) := by
  have hnext (n : Nat) : MvmeInitScriptLocation.Before { scriptIndex, lineNumber := n }
      { scriptIndex := scriptIndex + 1 } := .inl (Nat.lt_succ_self _)
  by_cases hrejected : textRejected target source resolver = true
  · refine (h.advance (hnext 0)).of_attribution
      (attribution_evaluateScript_of_rejected target scriptIndex hrejected before) ?_
    have hextends := extends_evaluateText target scriptIndex before source resolver
    unfold Evaluator.evaluateScript
    simp only [currentScriptParseFailed_evaluateText, if_pos hrejected]
    exact hextends.unresolvedStatements
  · unfold Evaluator.evaluateScript
    simp only [currentScriptParseFailed_evaluateText, if_neg hrejected]
    have hfirst : MvmeInitScriptLocation.Before { scriptIndex } { scriptIndex, lineNumber := 1 } :=
      .inr ⟨rfl, Nat.lt_succ_self _⟩
    have hstart : Consistent { scriptIndex, lineNumber := 1 }
        { before with currentScriptParseFailed := false } :=
      (h.advance hfirst).of_attribution rfl List.prefix_rfl
    have hlines := (hstart.evaluateLines target resolver
      (splitLines (stripComments source).text)).advance (hnext _)
    unfold evaluateText
    simp only
    split
    · exact hlines.report true .frontend .malformedScript _ true _
    · exact hlines

/-- An entry that is no script adds issues at most. -/
theorem Consistent.applyEntry {scriptIndex : Nat} {e : Evaluator}
    (h : Consistent { scriptIndex } e) (effect : EntryEffect) :
    Consistent { scriptIndex := scriptIndex + 1 } (effect.apply target scriptIndex e) := by
  have hnext : MvmeInitScriptLocation.Before { scriptIndex } { scriptIndex := scriptIndex + 1 } :=
    .inl (Nat.lt_succ_self _)
  cases effect with
  | disabled => exact h.advance hnext
  | script text resolver =>
      refine Consistent.evaluateScript target ?_ text resolver
      exact h.of_attribution rfl List.prefix_rfl
  | unusable count issues =>
      refine Consistent.advance ?_ hnext
      exact @Consistent.of_issues _ _ ((EntryEffect.unusable count issues).apply target scriptIndex e)
        h (.inr rfl) rfl rfl rfl (List.prefix_append ..)

/-- By induction over the entries. -/
theorem Consistent.evaluateEntriesFrom (context : ScriptContext) {n : Nat} {e : Evaluator}
    (h : Consistent { scriptIndex := n } e) (scripts : List Json) :
    Consistent { scriptIndex := n + scripts.length }
      (evaluateEntriesFrom target context e n scripts) := by
  induction scripts generalizing n e with
  | nil => exact h
  | cons script scripts ih =>
      rw [evaluateEntriesFrom_cons, List.length_cons,
        show n + (scripts.length + 1) = n + 1 + scripts.length by omega]
      exact ih (h.applyEntry target _)

end Runs

/-- In every evaluation: a write carries the value of the last selector assignment before it; the
final values are ordered by quad and register, with one value for each; a final value is the last
write to its quad and register; and it is missing only where a conditional write was reported. -/
theorem attributedWrites_consistent (workspace : MvmeWorkspace) (target : MvmeWorkspaceTarget) :
    let evaluation := evaluateMvmeTargetInitScripts workspace target
    (∀ write ∈ evaluation.frontendWrites, ∃ assignment,
      LastBefore evaluation.selectorAssignments write.location assignment ∧
        assignment.value = write.selectorValue) ∧
    evaluation.finalFrontendValues.Pairwise (fun a b =>
      a.quad < b.quad ∨ a.quad = b.quad ∧ a.registerOffset < b.registerOffset) ∧
    (∀ value ∈ evaluation.finalFrontendValues,
      lastWrite evaluation.frontendWrites value.key = some value) ∧
    (¬ reportsConditional evaluation.unresolvedStatements →
      ∀ written ∈ replayWrites evaluation.frontendWrites,
        ∃ value ∈ evaluation.finalFrontendValues, value.key = written.key) := by
  intro evaluation
  rcases located_or_malformed workspace target with ⟨context, scripts, hlocated⟩ | ⟨message, hrun⟩
  · have hevaluation : evaluation = evaluateScripts target.address context scripts :=
      run_eq_of_located hlocated
    have h : Consistent { scriptIndex := 0 + scripts.length }
        (evaluateEntries target.address context scripts) :=
      (consistent_initial { scriptIndex := 0 }).evaluateEntriesFrom target.address context scripts
    rw [hevaluation]
    exact ⟨h.writes, h.pairwise_finalValues, h.lastWrite_of_mem, h.exists_finalValue⟩
  · have hevaluation : evaluation = malformed message := hrun
    rw [hevaluation]
    refine ⟨?_, List.Pairwise.nil, ?_, ?_⟩
    · intro write hwrite
      cases hwrite
    · intro value hvalue
      cases hvalue
    · intro _ written hwritten
      cases hwritten

end Evaluator

end Fidget
