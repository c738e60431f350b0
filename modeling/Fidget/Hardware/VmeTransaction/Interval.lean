import Fidget.Hardware.VmeTransaction
import Fidget.Lib.Lists

/-!
# Replies belong to their own upload

Whatever the network does, a stack frame that is accepted was produced by the stack of the very
attempt that accepts it: the marker in the frame is the reference of one upload only. The controller
has therefore executed the operation between the start of the call and its return.

Between any two calls to the transport, anything may happen that the controller and the network can
do: requests arrive late, twice or not at all, stacks run, and answers are lost or overtake each
other. `Consistent` is what can be said of the history of attempts in spite of that, and `Advances`
is that a call keeps it.

## Main results

- `Consistent`: every frame that was produced, and every operation that was executed, goes back to
  one upload of the history.
- `Consistent.runStack`: a stack that runs keeps it, since the memory holds an upload of the
  history.
- `advances_awaitExecution`: a frame that is accepted is one of those that were produced, and
  carries the reference it was awaited under.
- `attemptStack_reported`: an attempt that succeeds has executed its own operation since it began.
- `runStackTransaction_reported`, `vmeD16_executed`: so it is for the attempts of a transaction, and
  for reads and writes after any calls.
-/

namespace Fidget

open scoped Fidget.Lists

/-! ### What the requests do to the immediate stack

The controller has one immediate stack. An upload replaces it, and a trigger runs what is there. -/

/-- After the upload the memory holds its reference and operation. -/
theorem currentStack_after_upload (memory : UInt16 → UInt32) (superReference : UInt16)
    (stackReference : UInt32) (operation : VmeOperation) :
    currentStack (localRegistersAfter memory (requestLocalWrites
      (buildMvlcStackUploadRequest superReference stackReference operation.words))) =
        some (stackReference, operation) := by
  rw [buildMvlcStackUploadRequest, requestLocalWrites_requestWords]
  cases operation with
  | read address =>
      have hword (register : UInt16) (value : UInt32)
          (h : ((immediateStackWrites stackReference (VmeOperation.read address).words).reverse.find?
            (·.1 == register)).map (·.2) = some value) :
          localRegistersAfter memory (immediateStackWrites stackReference
            (VmeOperation.read address).words) register = value := by
        rw [localRegistersAfter_apply, h]
        rfl
      -- the six words of the stack, from its start to its end
      unfold currentStack
      rw [hword 0x2004 mvlcStackStartCommand rfl, hword 0x2008 mvlcWriteMarkerCommand rfl,
        hword 0x200C stackReference rfl, hword 0x2010 mvlcVmeReadA32D16Command rfl,
        hword 0x2014 address rfl, hword 0x2018 mvlcStackEndCommand rfl, if_pos ⟨rfl, rfl⟩,
        if_pos ⟨rfl, rfl⟩]
  | write address value =>
      have hword (register : UInt16) (word : UInt32)
          (h : ((immediateStackWrites stackReference
            (VmeOperation.write address value).words).reverse.find?
              (·.1 == register)).map (·.2) = some word) :
          localRegistersAfter memory (immediateStackWrites stackReference
            (VmeOperation.write address value).words) register = word := by
        rw [localRegistersAfter_apply, h]
        rfl
      unfold currentStack
      rw [hword 0x2004 mvlcStackStartCommand rfl, hword 0x2008 mvlcWriteMarkerCommand rfl,
        hword 0x200C stackReference rfl, hword 0x2010 mvlcVmeWriteA32D16Command rfl,
        hword 0x2014 address rfl, hword 0x2018 value.toUInt32 rfl,
        hword 0x201C mvlcStackEndCommand rfl, if_pos ⟨rfl, rfl⟩, if_neg fun h => absurd h.1 (by decide),
        if_pos ⟨rfl, rfl⟩, UInt16.toUInt16_toUInt32]

/-- The request to execute leaves them there. -/
theorem currentStack_after_execute (memory : UInt16 → UInt32) (superReference : UInt16) :
    currentStack (localRegistersAfter memory (requestLocalWrites
      (buildMvlcStackExecuteRequest superReference))) = currentStack memory := by
  rw [buildMvlcStackExecuteRequest, requestLocalWrites_requestWords]
  have hkept (register : UInt16) (h : ∀ write ∈ stackExecuteWrites, write.1 ≠ register) :=
    localRegistersAfter_of_notMem memory h
  unfold currentStack
  rw [hkept 0x2004 (by decide), hkept 0x2008 (by decide), hkept 0x200C (by decide),
    hkept 0x2010 (by decide), hkept 0x2014 (by decide), hkept 0x2018 (by decide),
    hkept 0x201C (by decide)]

/-- Uploading a stack does not run it. -/
theorem trigger_notMem_upload (superReference : UInt16) (stackReference : UInt32)
    (operation : VmeOperation) :
    (mvlcStack0TriggerRegister, mvlcImmediateTrigger) ∉ requestLocalWrites
      (buildMvlcStackUploadRequest superReference stackReference operation.words) := by
  rw [buildMvlcStackUploadRequest, requestLocalWrites_requestWords]
  intro hmem
  have haddress : mvlcStack0TriggerRegister ∈
      (immediateStackWrites stackReference operation.words).map (·.1) :=
    List.mem_map_of_mem (f := (·.1)) hmem
  have hread : mvlcStack0TriggerRegister ∉
      ([0x2004, 0x2008, 0x200C, 0x2010, 0x2014, 0x2018] : List UInt16) := by decide
  have hwrite : mvlcStack0TriggerRegister ∉
      ([0x2004, 0x2008, 0x200C, 0x2010, 0x2014, 0x2018, 0x201C] : List UInt16) := by decide
  cases operation with
  | read address => exact hread haddress
  | write address value => exact hwrite haddress

/-- It triggers the stack. -/
theorem trigger_mem_execute (superReference : UInt16) :
    (mvlcStack0TriggerRegister, mvlcImmediateTrigger) ∈ requestLocalWrites
      (buildMvlcStackExecuteRequest superReference) := by
  rw [buildMvlcStackExecuteRequest, requestLocalWrites_requestWords]
  decide

/-- The answer to a request is not a stack frame. -/
theorem superFrameType_ne : mvlcSuperFrameType ≠ mvlcStackFrameType := by decide

/-- Nor is a notification of an error. -/
theorem stackErrorFrameType_ne : mvlcStackErrorFrameType ≠ mvlcStackFrameType := by decide

/-! ### What holds between any two calls to the transport

Since each attempt has a reference of its own, a frame that carries a reference comes from the stack
of that attempt. Nothing that carries it can come back before that stack was uploaded. -/

section Consistent

variable {start : UInt32} {history : List (UInt32 × VmeOperation)} {link link' : Link}

/-- A request that uploads an operation of the history. -/
def IsUploadOf (history : List (UInt32 × VmeOperation)) (words : List UInt32) : Prop :=
  ∃ superReference reference operation, (reference, operation) ∈ history ∧
    words = buildMvlcStackUploadRequest superReference reference operation.words

/-- A request that executes what was uploaded. -/
def IsExecution (words : List UInt32) : Prop :=
  ∃ superReference, words = buildMvlcStackExecuteRequest superReference

/-- The stack in the controller is one of those uploaded. -/
def Loaded (history : List (UInt32 × VmeOperation)) (memory : UInt16 → UInt32) : Prop :=
  ∃ reference operation, (reference, operation) ∈ history ∧
    currentStack memory = some (reference, operation)

/-- The history lists the attempts made, each with its reference. Nothing is executed, and nothing
comes back, before one of their stacks has been uploaded. -/
structure Consistent (start : UInt32) (history : List (UInt32 × VmeOperation)) (link : Link) :
    Prop where
  numbered : Numbered start history
  attempts : link.attempts = history.length
  next : link.nextStackReference = start + history.length.toUInt32
  sent : ∀ words ∈ link.sent,
    IsUploadOf history words ∨ IsExecution words ∧ Loaded history link.memory
  frames : link.frames ≠ [] → Loaded history link.memory
  stackFrames : ∀ frame ∈ link.frames, frame.type = mvlcStackFrameType →
    ∃ executed ∈ link.executed, executed.outcome.failed = false ∧
      frame = executed.outcome.frame executed.reference
  executed : ∀ executed ∈ link.executed, (executed.reference, executed.operation) ∈ history

/-- What has been executed or sent back stays so. -/
def Later (link link' : Link) : Prop :=
  link.executed <:+ link'.executed ∧ link.frames <:+ link'.frames

theorem Later.refl (link : Link) : Later link link := ⟨List.suffix_refl _, List.suffix_refl _⟩

theorem Later.trans {link'' : Link} (h : Later link link') (h' : Later link' link'') :
    Later link link'' := ⟨h.1.trans h'.1, h.2.trans h'.2⟩

/-- A step keeps what is known. -/
structure Advances (start : UInt32) (history : List (UInt32 × VmeOperation)) (link link' : Link) :
    Prop where
  consistent : Consistent start history link → Consistent start history link'
  later : Later link link'

theorem Advances.trans {link'' : Link} (h : Advances start history link link')
    (h' : Advances start history link' link'') : Advances start history link link'' :=
  ⟨h'.consistent ∘ h.consistent, h.later.trans h'.later⟩

/-- Time may pass. -/
theorem advances_tick (clock : Nat) : Advances start history link { link with clock } :=
  ⟨fun h => ⟨h.numbered, h.attempts, h.next, h.sent, h.frames, h.stackFrames, h.executed⟩,
    .refl link⟩

/-- A stack that runs adds to what was executed. -/
theorem later_runStack (activity : Activity) : Later link (link.runStack activity) := by
  unfold Link.runStack
  split
  · exact ⟨List.suffix_cons _ _, List.suffix_cons _ _⟩
  · exact ⟨List.suffix_refl _, List.suffix_cons _ _⟩

/-- The stack is run: it is one of those uploaded. -/
theorem Consistent.runStack (h : Consistent start history link)
    (hloaded : Loaded history link.memory) (activity : Activity) :
    Consistent start history (link.runStack activity) := by
  obtain ⟨reference, operation, hmem, hstack⟩ := hloaded
  have hrun : link.runStack activity = { link with
      frames := activity.outcome.frame reference :: link.frames
      executed := ⟨reference, operation, activity.outcome⟩ :: link.executed } := by
    unfold Link.runStack
    rw [hstack]
  rw [hrun]
  refine ⟨h.numbered, h.attempts, h.next, h.sent, fun _ => ⟨_, _, hmem, hstack⟩, ?_, ?_⟩
  · -- the new frame answers the new execution, an older one its own
    intro frame hframe htype
    rcases List.mem_cons.mp hframe with rfl | hframe
    · refine ⟨_, List.mem_cons_self, ?_, rfl⟩
      cases hfailed : activity.outcome.failed with
      | false => rfl
      | true =>
          rw [StackOutcome.frame, hfailed] at htype
          exact absurd htype stackErrorFrameType_ne
    · obtain ⟨executed, hexecuted, hrest⟩ := h.stackFrames frame hframe htype
      exact ⟨executed, List.mem_cons_of_mem _ hexecuted, hrest⟩
  · intro executed hexecuted
    rcases List.mem_cons.mp hexecuted with rfl | hexecuted
    · exact hmem
    · exact h.executed executed hexecuted

/-- A request is answered once the controller holds a stack that was uploaded. -/
theorem Consistent.answered (h : Consistent start history link) {memory : UInt16 → UInt32}
    (hloaded : Loaded history memory) {frame : MvlcFrame}
    (htype : frame.type ≠ mvlcStackFrameType) :
    Consistent start history { link with memory, frames := frame :: link.frames } where
  numbered := h.numbered
  attempts := h.attempts
  next := h.next
  sent := fun words hwords => (h.sent words hwords).imp id fun hexecution => ⟨hexecution.1, hloaded⟩
  frames := fun _ => hloaded
  stackFrames := by
    intro other hother hstack
    rcases List.mem_cons.mp hother with rfl | hother
    · exact absurd hstack htype
    · exact h.stackFrames other hother hstack
  executed := h.executed

/-- So does anything else that goes on. -/
theorem later_execute (activity : Activity) : Later link (link.execute activity) := by
  unfold Link.execute
  split
  · exact .refl link
  · dsimp only
    split
    · refine Later.trans ?_ (later_runStack activity)
      exact ⟨List.suffix_refl _, List.suffix_cons _ _⟩
    · exact ⟨List.suffix_refl _, List.suffix_cons _ _⟩

/-- And it keeps the history. -/
theorem Consistent.execute (h : Consistent start history link) (activity : Activity) :
    Consistent start history (link.execute activity) := by
  unfold Link.execute
  split
  · exact h
  next words hwords =>
    dsimp only
    have hmem := List.mem_of_getElem? hwords
    obtain ⟨superReference, reference, operation, hhistory, rfl⟩ |
        ⟨⟨superReference, rfl⟩, hloaded⟩ := h.sent words hmem
    · rw [if_neg (trigger_notMem_upload _ _ _)]
      exact h.answered ⟨_, _, hhistory, currentStack_after_upload _ _ _ _⟩ superFrameType_ne
    · rw [if_pos (trigger_mem_execute _)]
      have hafter : Loaded history (localRegistersAfter link.memory (requestLocalWrites
          (buildMvlcStackExecuteRequest superReference))) := by
        obtain ⟨reference, operation, hhistory, hstack⟩ := hloaded
        exact ⟨reference, operation, hhistory,
          (currentStack_after_execute _ _).trans hstack⟩
      exact (h.answered hafter superFrameType_ne).runStack hafter activity

/-- Several such things. -/
theorem advances_activities (activities : List Activity) :
    Advances start history link (activities.foldl Link.execute link) := by
  induction activities generalizing link with
  | nil => exact ⟨id, .refl link⟩
  | cons activity activities ih =>
      exact Advances.trans ⟨fun h => h.execute activity, later_execute activity⟩ ih

/-! ### Calls to the transport

The three calls: asking for a cancellation, sending a request and receiving frames. A request may be
sent only if it belongs to the history. -/

variable (network : Network)

/-- Asking for a cancellation. -/
theorem advances_loadCancellation (link : Link) :
    Advances start history link (loadCancellation network link).2 := advances_tick _

/-- A request may be sent that uploads a stack of the history, or runs one after a reply. -/
theorem advances_sendWords {words : List UInt32}
    (h : IsUploadOf history words ∨ IsExecution words ∧ link.frames ≠ []) :
    Advances start history link (sendWords network words link).2 := by
  have hsent : Advances start history link
      { link with sent := words :: link.sent, clock := link.clock + 1 } := by
    refine ⟨fun hlink => { hlink with sent := ?_ }, Later.refl link⟩
    intro other hother
    rcases List.mem_cons.mp hother with rfl | hother
    · exact h.imp id fun hexecution => ⟨hexecution.1, hlink.frames hexecution.2⟩
    · exact hlink.sent other hother
  exact hsent.trans (advances_activities _)

/-- What is received has been sent back. -/
theorem advances_receiveFrames (link : Link) :
    Advances start history link (receiveFrames network link).2 ∧
      ∀ frames, (receiveFrames network link).1 = .ok frames →
        frames ⊆ (receiveFrames network link).2.frames := by
  have hadvances : Advances start history link
      ((network.activity { link with clock := link.clock + 1 }).foldl Link.execute
        { link with clock := link.clock + 1 }) := (advances_tick _).trans (advances_activities _)
  unfold receiveFrames
  dsimp only
  split
  · exact ⟨hadvances, fun frames h => (by cases h)⟩
  · refine ⟨hadvances, fun frames h => ?_⟩
    cases h
    intro frame hframe
    obtain ⟨place, -, hplace⟩ := List.mem_filterMap.mp hframe
    exact List.mem_of_getElem? hplace

/-! ### The upload

The verdict on an upload is drawn from a frame that was received, so that a successful upload has
reached the controller. -/

/-- A verdict on an upload is drawn from a frame. -/
theorem exists_mem_of_uploadVerdict {superReference : UInt16} {frames : List MvlcFrame}
    {validation : MvlcFrameValidationResult}
    (h : uploadVerdict superReference frames = some validation) : frames ≠ [] := by
  rintro rfl
  cases h

/-- An upload succeeds only with a reply. -/
theorem advances_awaitUpload (superReference : UInt16) (packets : Nat) (link : Link) :
    Advances start history link (awaitUpload network superReference packets link).2 ∧
      ((awaitUpload network superReference packets link).1 = none →
        (awaitUpload network superReference packets link).2.frames ≠ []) := by
  induction packets generalizing link with
  | zero => exact ⟨advances_loadCancellation network link, fun h => (by cases h)⟩
  | succ packets ih =>
      unfold awaitUpload
      split
      next cancelled hload =>
        have hloaded := @advances_loadCancellation start history network link
        rw [hload] at hloaded
        exact ⟨hloaded.trans (advances_loadCancellation network _), fun h => (by cases h)⟩
      next going hload =>
        have hloaded := @advances_loadCancellation start history network link
        rw [hload] at hloaded
        obtain ⟨hreceived, hframes⟩ := @advances_receiveFrames start history network going
        split
        next heq =>
          rw [heq] at hreceived
          exact ⟨hloaded.trans hreceived, fun h => (by cases h)⟩
        next frames received heq =>
          rw [heq] at hreceived hframes
          split
          -- a verdict needs a frame
          next validation hverdict =>
            refine ⟨hloaded.trans hreceived, fun _ hnone => ?_⟩
            have hempty := hframes frames rfl
            rw [show received.frames = [] from hnone] at hempty
            exact exists_mem_of_uploadVerdict hverdict (List.subset_nil.mp hempty)
          next =>
            obtain ⟨hrest, hreply⟩ := ih received
            exact ⟨(hloaded.trans hreceived).trans hrest, hreply⟩

/-- The upload of an operation of the history. -/
theorem advances_uploadStack {superReference : UInt16} {reference : UInt32}
    {operation : VmeOperation} (h : (reference, operation) ∈ history) (link : Link) :
    Advances start history link
        (uploadStack network superReference reference operation.words link).2 ∧
      ((uploadStack network superReference reference operation.words link).1 = none →
        (uploadStack network superReference reference operation.words link).2.frames ≠ []) := by
  have hsent := @advances_sendWords start history link network
    (buildMvlcStackUploadRequest superReference reference operation.words)
    (.inl ⟨_, _, _, h, rfl⟩)
  unfold uploadStack
  split
  next heq =>
    rw [heq] at hsent
    exact ⟨hsent, fun h => (by cases h)⟩
  next sent heq =>
    rw [heq] at hsent
    obtain ⟨hawaited, hreply⟩ := @advances_awaitUpload start history network superReference
      mvlcMaximumResponseDatagrams sent
    exact ⟨hsent.trans hawaited, hreply⟩

/-! ### The execution

A frame is accepted by its type, its length and its reference. If the wait ends with success, a
frame of this attempt has come back. -/

/-- The outcome has none of the flags of a failure. -/
def StackOutcome.Clean (outcome : StackOutcome) : Prop :=
  outcome.failed = false ∧ outcome.flags &&& mvlcTimeoutFlag = 0 ∧
    outcome.flags &&& mvlcBusErrorFlag = 0 ∧ outcome.flags &&& mvlcSyntaxErrorFlag = 0

/-- What a frame that is accepted looks like. -/
theorem isMatch_of_success {frame : MvlcFrame} {stackReference : UInt32}
    (h : (validateMvlcStackExecutionFrame frame stackReference).success = true) :
    frame.type = mvlcStackFrameType ∧ frame.words[1]? = some stackReference ∧
      frame.flags &&& mvlcTimeoutFlag = 0 ∧ frame.flags &&& mvlcBusErrorFlag = 0 ∧
      frame.flags &&& mvlcSyntaxErrorFlag = 0 := by
  unfold validateMvlcStackExecutionFrame at h
  split_ifs at h with herror hother htimeout hbus hsyntax
  have hmatch : isStackFrameOf frame stackReference = true := by simpa using hother
  simp only [isStackFrameOf, Bool.and_eq_true, beq_iff_eq] at hmatch
  exact ⟨hmatch.1.1, hmatch.2, not_not.mp htimeout, not_not.mp hbus, not_not.mp hsyntax⟩

/-- A stack frame that was taken in has been accepted. -/
theorem accepted_of_takeFrames {superReference : UInt16} {stackReference : UInt32}
    {frames : List MvlcFrame} {replies replies' : ExecutionReplies}
    (h : takeFrames superReference stackReference frames replies = .ok replies')
    {stackFrame : MvlcFrame} (hframe : replies'.stackFrame = some stackFrame) :
    replies.stackFrame = some stackFrame ∨ stackFrame ∈ frames ∧
      (validateMvlcStackExecutionFrame stackFrame stackReference).success = true := by
  induction frames generalizing replies with
  | nil =>
      cases h
      exact .inl hframe
  | cons frame frames ih =>
      unfold takeFrames at h
      dsimp only at h
      split_ifs at h with hsuper hsuperSuccess hmatch hsuccess
      · exact (ih h).imp id fun hlater => ⟨List.mem_cons_of_mem _ hlater.1, hlater.2⟩
      · exact (ih h).imp id fun hlater => ⟨List.mem_cons_of_mem _ hlater.1, hlater.2⟩
      · rcases ih h with htaken | hlater
        · cases htaken
          exact .inr ⟨List.mem_cons_self, hsuccess⟩
        · exact .inr ⟨List.mem_cons_of_mem _ hlater.1, hlater.2⟩

/-- Frames that end the wait with an error are no success. -/
theorem success_of_takeFrames_error {superReference : UInt16} {stackReference : UInt32}
    {frames : List MvlcFrame} {replies : ExecutionReplies} {result : StackExecutionResult}
    (h : takeFrames superReference stackReference frames replies = .error result) :
    result.success = false := by
  induction frames generalizing replies with
  | nil => cases h
  | cons frame frames ih =>
      unfold takeFrames at h
      dsimp only at h
      split_ifs at h
      · exact ih h
      · cases h
        rfl
      · exact ih h
      · exact ih h
      · cases h
        rfl
      · cases h
        rfl

/-- An execution succeeds only with an accepted frame that was sent back. -/
theorem advances_awaitExecution (superReference : UInt16) (stackReference : UInt32)
    (packets : Nat) (replies : ExecutionReplies) (link : Link)
    (hreplies : ∀ stackFrame, replies.stackFrame = some stackFrame →
      stackFrame ∈ link.frames ∧
        (validateMvlcStackExecutionFrame stackFrame stackReference).success = true) :
    Advances start history link
        (awaitExecution network superReference stackReference packets replies link).2 ∧
      ((awaitExecution network superReference stackReference packets replies link).1.success =
          true →
        (awaitExecution network superReference stackReference packets replies link).1.stackFrame ∈
            (awaitExecution network superReference stackReference packets replies
              link).2.frames ∧
          (validateMvlcStackExecutionFrame
            (awaitExecution network superReference stackReference packets replies
              link).1.stackFrame stackReference).success = true) := by
  induction packets generalizing replies link with
  | zero => exact ⟨advances_loadCancellation network link, fun h => (by cases h)⟩
  | succ packets ih =>
      unfold awaitExecution
      split
      -- cancelled, and nothing is accepted
      next cancelled hload =>
        have hloaded := @advances_loadCancellation start history network link
        rw [hload] at hloaded
        exact ⟨hloaded.trans (advances_loadCancellation network _), fun h => (by cases h)⟩
      next going hload =>
        have hloaded := @advances_loadCancellation start history network link
        rw [hload] at hloaded
        obtain ⟨hreceived, hframes⟩ := @advances_receiveFrames start history network going
        split
        next heq =>
          rw [heq] at hreceived
          exact ⟨hloaded.trans hreceived, fun h => (by cases h)⟩
        next frames received heq =>
          rw [heq] at hreceived hframes
          have hboth := hloaded.trans hreceived
          split
          next result htake =>
            refine ⟨hboth, fun hsuccess => ?_⟩
            rw [success_of_takeFrames_error htake] at hsuccess
            cases hsuccess
          next taken htake =>
            have htaken : ∀ stackFrame, taken.stackFrame = some stackFrame →
                stackFrame ∈ received.frames ∧
                  (validateMvlcStackExecutionFrame stackFrame stackReference).success = true := by
              intro stackFrame hframe
              obtain hbefore | hnow := accepted_of_takeFrames htake hframe
              · -- a frame accepted in an earlier packet, or one of this packet
                obtain ⟨hmem, hsuccess⟩ := hreplies stackFrame hbefore
                exact ⟨hboth.later.2.subset hmem, hsuccess⟩
              · exact ⟨hframes frames rfl hnow.1, hnow.2⟩
            split
            next stackFrame _ hstack => exact ⟨hboth, fun _ => htaken stackFrame hstack⟩
            next =>
              obtain ⟨hrest, haccepted⟩ := ih taken received htaken
              exact ⟨hboth.trans hrest, haccepted⟩

/-- An execution may be started after a reply to its upload. -/
theorem advances_executeStack (superReference : UInt16) (stackReference : UInt32) (link : Link)
    (hreply : link.frames ≠ []) :
    Advances start history link (executeStack network superReference stackReference link).2 ∧
      ((executeStack network superReference stackReference link).1.success = true →
        (executeStack network superReference stackReference link).1.stackFrame ∈
            (executeStack network superReference stackReference link).2.frames ∧
          (validateMvlcStackExecutionFrame
            (executeStack network superReference stackReference link).1.stackFrame
              stackReference).success = true) := by
  have hsent := @advances_sendWords start history link network
    (buildMvlcStackExecuteRequest superReference) (.inr ⟨⟨_, rfl⟩, hreply⟩)
  unfold executeStack
  split
  next heq =>
    rw [heq] at hsent
    exact ⟨hsent, fun h => (by cases h)⟩
  next sent heq =>
    rw [heq] at hsent
    obtain ⟨hawaited, haccepted⟩ := @advances_awaitExecution start history network superReference
      stackReference mvlcMaximumResponseDatagrams {} sent (fun _ h => (by cases h))
    exact ⟨hsent.trans hawaited, haccepted⟩

end Consistent

/-! ### The transaction

Attempts follow one another until one succeeds or is given up. The frame that ends the last of them
reports an operation that was executed after the call began. -/

section Transaction

variable {start : UInt32} {history : List (UInt32 × VmeOperation)} (network : Network)
  {operation : VmeOperation} {link : Link}

/-- An operation was executed without a failure, and the frame reports it. -/
def ReportedBy (operation : VmeOperation) (frame : MvlcFrame) (executed : ExecutedOperation) :
    Prop :=
  executed.operation = operation ∧ executed.outcome.Clean ∧
    frame = executed.outcome.frame executed.reference

/-- A new attempt takes the next reference into the history. -/
theorem Consistent.attempt (h : Consistent start history link) (operation : VmeOperation) :
    Consistent start ((link.nextStackReference, operation) :: history)
      { link with
        nextStackReference := link.nextStackReference + 1
        nextSuperReference := link.nextSuperReference + 1
        attempts := link.attempts + 1 } where
  numbered := ⟨h.next, h.numbered⟩
  attempts := congrArg (· + 1) h.attempts
  next := by
    show link.nextStackReference + 1 = _
    rw [h.next, List.length_cons, Nat.toUInt32_eq, Nat.toUInt32_eq, UInt32.ofNat_add, add_assoc]
    rfl
  sent := by
    intro words hwords
    obtain ⟨superReference, reference, other, hmem, heq⟩ | ⟨hexecution, hloaded⟩ :=
      h.sent words hwords
    · exact .inl ⟨superReference, reference, other, List.mem_cons_of_mem _ hmem, heq⟩
    · obtain ⟨reference, other, hmem, hstack⟩ := hloaded
      exact .inr ⟨hexecution, reference, other, List.mem_cons_of_mem _ hmem, hstack⟩
  frames := by
    intro hframes
    obtain ⟨reference, other, hmem, hstack⟩ := h.frames hframes
    exact ⟨reference, other, List.mem_cons_of_mem _ hmem, hstack⟩
  stackFrames := h.stackFrames
  executed := fun executed hexecuted => List.mem_cons_of_mem _ (h.executed executed hexecuted)

/-- What a successful attempt was answered with reports its operation, executed since it began. -/
theorem attemptStack_reported (h : Consistent start history link) :
    Consistent start ((link.nextStackReference, operation) :: history)
        (attemptStack network operation link).2 ∧
      Later link (attemptStack network operation link).2 ∧
      ((attemptStack network operation link).1.success = true →
        history.length < 2 ^ 32 →
        ∃ executed ∈ (attemptStack network operation link).2.executed,
          executed ∉ link.executed ∧
            ReportedBy operation (attemptStack network operation link).1.stackFrame executed) := by
  have hattempt := h.attempt operation
  obtain ⟨hupload, hreply⟩ := @advances_uploadStack start
    ((link.nextStackReference, operation) :: history) network link.nextSuperReference _ _
    List.mem_cons_self { link with
      nextStackReference := link.nextStackReference + 1
      nextSuperReference := link.nextSuperReference + 1
      attempts := link.attempts + 1 }
  unfold attemptStack
  dsimp only
  split
  next heq =>
    rw [heq] at hupload
    exact ⟨hupload.consistent hattempt, hupload.later, fun h => (by cases h)⟩
  next uploaded heq =>
    rw [heq] at hupload hreply
    have hcounted : Advances start ((link.nextStackReference, operation) :: history) uploaded
        { uploaded with nextSuperReference := uploaded.nextSuperReference + 1 } :=
      ⟨fun h => ⟨h.numbered, h.attempts, h.next, h.sent, h.frames, h.stackFrames, h.executed⟩,
        .refl uploaded⟩
    obtain ⟨hexecution, haccepted⟩ := @advances_executeStack start
      ((link.nextStackReference, operation) :: history) network uploaded.nextSuperReference
      link.nextStackReference
      { uploaded with nextSuperReference := uploaded.nextSuperReference + 1 } (hreply rfl)
    have hall := (hupload.trans hcounted).trans hexecution
    refine ⟨hall.consistent hattempt, hall.later, fun hsuccess hlength => ?_⟩
    obtain ⟨hmem, hvalid⟩ := haccepted hsuccess
    have hafter := hall.consistent hattempt
    obtain ⟨htype, hmarker, htimeout, hbus, hsyntax⟩ := isMatch_of_success hvalid
    obtain ⟨executed, hexecuted, hfailed, hframe⟩ := hafter.stackFrames _ hmem htype
    have hreference : executed.reference = link.nextStackReference := by
      rw [hframe] at hmarker
      exact Option.some.inj hmarker
    have hhistory := hafter.executed executed hexecuted
    rw [hreference] at hhistory
    -- the reference is this attempt's, so the operation is too, and neither was known before
    refine ⟨executed, hexecuted, fun hbefore => ?_, ?_, ?_, hframe⟩
    · have hold := h.executed executed hbefore
      rw [hreference, h.next] at hold
      exact h.numbered.next_notMem hlength hold
    · exact hafter.numbered.unique (by rw [List.length_cons]; omega) hhistory List.mem_cons_self
    · rw [hframe] at htimeout hbus hsyntax
      exact ⟨hfailed, htimeout, hbus, hsyntax⟩

/-- Giving up executes nothing. -/
theorem consistent_giveUp (h : Consistent start history link) (lastResult : StackExecutionResult) :
    Consistent start history (giveUp network lastResult link).2 ∧
      Later link (giveUp network lastResult link).2 ∧
      (lastResult.success = false → (giveUp network lastResult link).1.success = false) := by
  have hloaded := @advances_loadCancellation start history network link
  unfold giveUp
  dsimp only
  split
  · exact ⟨hloaded.consistent h, hloaded.later, id⟩
  · split
    · exact ⟨hloaded.consistent h, hloaded.later, id⟩
    · exact ⟨hloaded.consistent h, hloaded.later, id⟩

/-- So does what a successful transaction was answered with. -/
theorem runStackTransaction_reported (h : Consistent start history link) (attempts : Nat)
    {lastResult : StackExecutionResult} (hlast : lastResult.success = false) :
    ∃ history', history <:+ history' ∧
      Consistent start history' (runStackTransaction network operation attempts lastResult link).2 ∧
      Later link (runStackTransaction network operation attempts lastResult link).2 ∧
      ((runStackTransaction network operation attempts lastResult link).1.success = true →
        history'.length < 2 ^ 32 →
        ∃ executed ∈ (runStackTransaction network operation attempts lastResult link).2.executed,
          executed ∉ link.executed ∧ ReportedBy operation
            (runStackTransaction network operation attempts lastResult link).1.stackFrame
              executed) := by
  induction attempts generalizing history link lastResult with
  | zero =>
      obtain ⟨hconsistent, hlater, hfailed⟩ := consistent_giveUp network h lastResult
      refine ⟨history, List.suffix_refl _, hconsistent, hlater, fun hsuccess => ?_⟩
      rw [runStackTransaction, hfailed hlast] at hsuccess
      cases hsuccess
  | succ attempts ih =>
      unfold runStackTransaction
      split
      next cancelled hload =>
        have hloaded := @advances_loadCancellation start history network link
        rw [hload] at hloaded
        obtain ⟨hconsistent, hlater, hfailed⟩ :=
          consistent_giveUp network (hloaded.consistent h) lastResult
        refine ⟨history, List.suffix_refl _, hconsistent, hloaded.later.trans hlater,
          fun hsuccess => ?_⟩
        rw [hfailed hlast] at hsuccess
        cases hsuccess
      next going hload =>
        have hloaded := @advances_loadCancellation start history network link
        rw [hload] at hloaded
        obtain ⟨hattempted, hlater, hreported⟩ := @attemptStack_reported start history network
          operation going (hloaded.consistent h)
        have hboth := hloaded.later.trans hlater
        have hnotBefore {executed : ExecutedOperation} (hnew : executed ∉ going.executed) :
            executed ∉ link.executed := fun hmem => hnew (hloaded.later.1.subset hmem)
        dsimp only
        split
        next =>
          refine ⟨_, List.suffix_cons _ _, hattempted, hboth, fun hsuccess hlength => ?_⟩
          rw [List.length_cons] at hlength
          obtain ⟨executed, hmem, hnew, hframe⟩ := hreported hsuccess (by omega)
          exact ⟨executed, hmem, hnotBefore hnew, hframe⟩
        -- the attempt failed, and the next one has a reference of its own
        next hretry =>
          have hfailed : (attemptStack network operation going).1.success = false :=
            Bool.eq_false_iff.mpr fun hsuccess => hretry (.inl hsuccess)
          obtain ⟨history', hsuffix, hconsistent, hlater', hreported'⟩ := ih hattempted hfailed
          refine ⟨history', (List.suffix_cons _ _).trans hsuffix, hconsistent,
            hboth.trans hlater', fun hsuccess hlength => ?_⟩
          obtain ⟨executed, hmem, hnew, hframe⟩ := hreported' hsuccess hlength
          exact ⟨executed, hmem, fun hbefore => hnew (hboth.1.subset hbefore), hframe⟩

/-- The value that is returned is the one in the frame. -/
theorem data_of_parseRead {outcome : StackOutcome} {reference : UInt32} {value : UInt16}
    (h : parseMvlcVmeReadD16Reply (outcome.frame reference) = .ok value) :
    ∃ word, outcome.data = [word] ∧ value = (word &&& 0xFFFF).toUInt16 := by
  unfold parseMvlcVmeReadD16Reply at h
  split at h
  · cases h
  next hlength =>
    cases h
    obtain ⟨word, hdata⟩ : ∃ word, outcome.data = [word] := by
      rw [← List.length_eq_one_iff]
      simpa [StackOutcome.frame] using hlength
    refine ⟨word, hdata, ?_⟩
    simp [StackOutcome.frame, hdata]

/-- Calls one after the other on a network that starts empty, with any memory in the controller. -/
theorem consistent_calls (memory : UInt16 → UInt32) (superReference : UInt16)
    (stackReference : UInt32) (calls : List VmeOperation) :
    ∃ history, Consistent stackReference history
      (calls.foldl (fun link operation => callVmeD16 network operation link)
        (Link.fresh memory superReference stackReference)) := by
  have hstart : Consistent stackReference [] (Link.fresh memory superReference stackReference) :=
    ⟨trivial, rfl, (add_zero _).symm, fun _ h => (nomatch h), fun h => absurd rfl h,
      fun _ h => (nomatch h), fun _ h => (nomatch h)⟩
  -- one call, whatever it answers
  have hstep {history : List (UInt32 × VmeOperation)} {link : Link}
      (h : Consistent stackReference history link) (operation : VmeOperation) :
      ∃ history', Consistent stackReference history' (callVmeD16 network operation link) := by
    obtain ⟨history', -, hconsistent, -⟩ := @runStackTransaction_reported _ _ network operation _
      h mvlcTransactionAttemptCount {} rfl
    refine ⟨history', ?_⟩
    cases operation with
    | read address =>
        unfold callVmeD16 readVmeD16
        dsimp only
        split <;> exact hconsistent
    | write address value =>
        unfold callVmeD16 writeVmeD16
        dsimp only
        split <;> exact hconsistent
  generalize Link.fresh memory superReference stackReference = link at hstart
  generalize ([] : List (UInt32 × VmeOperation)) = history at hstart
  induction calls generalizing history link with
  | nil => exact ⟨history, hstart⟩
  | cons operation calls ih =>
      obtain ⟨history', hconsistent⟩ := hstep hstart operation
      exact ih _ history' hconsistent

/-- What a call has added to the operations executed holds one that answers it. -/
theorem exists_added {link link' : Link} (hlater : Later link link') {executed : ExecutedOperation}
    (hmem : executed ∈ link'.executed) (hnew : executed ∉ link.executed) :
    ∃ added, link'.executed = added ++ link.executed ∧ executed ∈ added := by
  obtain ⟨added, hadded⟩ := hlater.1
  rw [← hadded] at hmem
  exact ⟨added, hadded.symm, (List.mem_append.mp hmem).resolve_right hnew⟩

/-- Reads and writes after any calls on the same link. -/
theorem vmeD16_executed (memory : UInt16 → UInt32) (superReference : UInt16)
    (stackReference : UInt32) (calls : List VmeOperation) :
    let before := calls.foldl (fun link operation => callVmeD16 network operation link)
      (Link.fresh memory superReference stackReference)
    (∀ address value after, readVmeD16 network address before = (.ok value, after) →
      after.attempts < 2 ^ 32 →
      ∃ added, after.executed = added ++ before.executed ∧
        ∃ executed ∈ added, executed.operation = .read address ∧ executed.outcome.Clean ∧
          ∃ word, executed.outcome.data = [word] ∧ value = (word &&& 0xFFFF).toUInt16) ∧
    (∀ address value after, writeVmeD16 network address value before = (none, after) →
      after.attempts < 2 ^ 32 →
      ∃ added, after.executed = added ++ before.executed ∧
        ∃ executed ∈ added, executed.operation = .write address value ∧
          executed.outcome.Clean) := by
  intro before
  obtain ⟨history, hbefore⟩ := consistent_calls network memory superReference stackReference calls
  constructor
  · -- a read: the accepted frame carries the value
    intro address value after hread hattempts
    obtain ⟨history', -, hconsistent, hlater, hreported⟩ := @runStackTransaction_reported _ _
      network (.read address) _ hbefore mvlcTransactionAttemptCount {} rfl
    unfold readVmeD16 at hread
    dsimp only at hread
    split at hread
    next hsuccess =>
      obtain ⟨hvalue, rfl⟩ := Prod.mk.inj hread
      rw [hconsistent.attempts] at hattempts
      obtain ⟨executed, hmem, hnew, hoperation, hclean, hframe⟩ := hreported hsuccess hattempts
      obtain ⟨added, hadded, hin⟩ := exists_added hlater hmem hnew
      refine ⟨added, hadded, executed, hin, hoperation, hclean, ?_⟩
      rw [hframe] at hvalue
      exact data_of_parseRead hvalue
    · cases (Prod.mk.inj hread).1
  · -- a write: the accepted frame only says that it was executed
    intro address value after hwrite hattempts
    obtain ⟨history', -, hconsistent, hlater, hreported⟩ := @runStackTransaction_reported _ _
      network (.write address value) _ hbefore mvlcTransactionAttemptCount {} rfl
    unfold writeVmeD16 at hwrite
    dsimp only at hwrite
    split at hwrite
    next hsuccess =>
      obtain ⟨-, rfl⟩ := Prod.mk.inj hwrite
      rw [hconsistent.attempts] at hattempts
      obtain ⟨executed, hmem, hnew, hoperation, hclean, -⟩ := hreported hsuccess hattempts
      obtain ⟨added, hadded, hin⟩ := exists_added hlater hmem hnew
      exact ⟨added, hadded, executed, hin, hoperation, hclean⟩
    · cases (Prod.mk.inj hwrite).1

end Transaction

end Fidget
