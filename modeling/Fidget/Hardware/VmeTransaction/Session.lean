import Fidget.Hardware.VmeTransaction

/-!
# The references of one transport session

Every operation of `hardware/OwnershipService.cpp` that uses the bus counts its references from
constants of its own, also when it is run again on the same connection. Its runs may come in any
order, each with any number of calls, and those of an acquisition in between the others.

The counters of a run are on the side of the program, and the references in the requests are what
the controller sees. The invariant relates the two: the stacks that a run has sent are numbered from
the constant of its operation on, without a gap. Two runs of one operation then use the same
references, and two of different operations never do, as long as none of them leaves its room.

## Main results

- `eq_of_reference_eq`: within its room, a reference belongs to one kind of operation.
- `Counted`: the invariant of a session, each run counting from its own first reference.
- `sendsNumbered_attemptStack`: an attempt sends one upload under the next reference, and no other
  request carries one.
- `sentStacks_distinct`: in a session in which no run leaves its room, two stacks share a reference
  only across runs of one kind.
- `repeatedCapture_takesOldReply`: across two runs they can, and the second takes the reply of the
  first.
-/

namespace Fidget

/-- The operations with counters of their own. An orphan recovery counts like the acquisition. -/
inductive OperationKind where
  | startupAudit
  | startupPreparation
  | scpCapture
  | scpSingleRepair
  | scpBulkApply
  | diagnosticAcquisition
  deriving DecidableEq, Repr

namespace OperationKind

/-- The first super reference of the operation. -/
def initialSuperReference : OperationKind → UInt16
  | startupAudit => 0x1600
  | startupPreparation => 0x1700
  | scpCapture => 0x1800
  | scpSingleRepair => 0x3A00
  | scpBulkApply => 0x3C00
  | diagnosticAcquisition => 0x5000

/-- The first stack reference of the operation. -/
def initialStackReference : OperationKind → UInt32
  | startupAudit => 0x9C080001
  | startupPreparation => 0x9C0C0001
  | scpCapture => 0x9C100001
  | scpSingleRepair => 0x9D100001
  | scpBulkApply => 0x9D200001
  | diagnosticAcquisition => 0x9E000001

/-- How many references there are up to the first one of the next operation. -/
def room : OperationKind → Nat
  | startupAudit => 0x40000
  | startupPreparation => 0x40000
  | scpCapture => 0x1000000
  | scpSingleRepair => 0x100000
  | scpBulkApply => 0xE00000
  | diagnosticAcquisition => 0xFE080000

/-- There are references enough for every room. -/
theorem room_le (kind : OperationKind) : kind.room ≤ 2 ^ 32 := by cases kind <;> decide

/-- Operations that stay within their room share no reference. -/
theorem eq_of_reference_eq {kind other : OperationKind} {k l : Nat} (hk : k < kind.room)
    (hl : l < other.room)
    (h : kind.initialStackReference + k.toUInt32 = other.initialStackReference + l.toUInt32) :
    kind = other := by
  have hk' := Nat.lt_of_lt_of_le hk kind.room_le
  have hl' := Nat.lt_of_lt_of_le hl other.room_le
  have hnat := congrArg UInt32.toNat h
  rw [UInt32.toNat_add, UInt32.toNat_add, Nat.toUInt32_eq, Nat.toUInt32_eq,
    UInt32.toNat_ofNat_of_lt' hk', UInt32.toNat_ofNat_of_lt' hl'] at hnat
  cases kind <;> cases other <;> first | rfl | (simp [initialStackReference, room] at *; omega)

end OperationKind

/-! ### What a session sends

A session is a list of steps, each of which starts an operation anew or lets a run make a call. The
session notes every stack that was sent, with its operation and its run. -/

/-- The marker of the stack that a request uploads. -/
def stackReferenceOf (words : List UInt32) : Option UInt32 :=
  ((requestLocalWrites words).find? (·.1 == 0x200C)).map (·.2)

/-- The uploads among requests, with their references. -/
def uploads (requests : List (List UInt32)) : List (UInt32 × List UInt32) :=
  requests.filterMap fun words => (stackReferenceOf words).map (·, words)

/-- An upload, the operation it was sent by, and which of the operation's runs it was. -/
structure SentStack where
  kind : OperationKind
  run : Nat
  reference : UInt32
  words : List UInt32
  deriving DecidableEq, Repr

/-- The connection, and what the operations on it have counted and sent. -/
structure TransportSession where
  link : Link
  nextSuperReference : OperationKind → UInt16 := OperationKind.initialSuperReference
  nextStackReference : OperationKind → UInt32 := OperationKind.initialStackReference
  runs : OperationKind → Nat := fun _ => 0
  sent : List SentStack := []

/-- An operation is started, or one that runs makes a call. -/
inductive SessionStep where
  | start (kind : OperationKind)
  | call (kind : OperationKind) (operation : VmeOperation)
  deriving DecidableEq, Repr

namespace TransportSession

/-- A session with nothing sent yet. -/
def opened (memory : UInt16 → UInt32) : TransportSession := { link := .fresh memory 0 0 }

/-- A new run of an operation starts from its constants. -/
def start (session : TransportSession) (kind : OperationKind) : TransportSession :=
  { session with
    nextSuperReference :=
      Function.update session.nextSuperReference kind kind.initialSuperReference
    nextStackReference :=
      Function.update session.nextStackReference kind kind.initialStackReference
    runs := Function.update session.runs kind (session.runs kind + 1) }

/-- The link with the counters of an operation. -/
def linkOf (session : TransportSession) (kind : OperationKind) : Link :=
  { session.link with
    nextSuperReference := session.nextSuperReference kind
    nextStackReference := session.nextStackReference kind }

/-- A call goes on counting where its operation is. -/
def call (network : Network) (session : TransportSession) (kind : OperationKind)
    (operation : VmeOperation) : TransportSession :=
  let link := callVmeD16 network operation (session.linkOf kind)
  let requests := link.sent.take (link.sent.length - session.link.sent.length)
  { session with
    link
    nextSuperReference :=
      Function.update session.nextSuperReference kind link.nextSuperReference
    nextStackReference :=
      Function.update session.nextStackReference kind link.nextStackReference
    sent := (uploads requests).map (fun (reference, words) =>
      ⟨kind, session.runs kind, reference, words⟩) ++ session.sent }

/-- One step of the session. -/
def step (network : Network) (session : TransportSession) : SessionStep → TransportSession
  | .start kind => session.start kind
  | .call kind operation => session.call network kind operation

/-- The steps one after the other. -/
def run (network : Network) (session : TransportSession) (steps : List SessionStep) :
    TransportSession :=
  steps.foldl (step network) session

/-- What one run of an operation has sent. -/
def sentBy (session : TransportSession) (kind : OperationKind) (run : Nat) :
    List (UInt32 × List UInt32) :=
  (session.sent.filter fun sent => sent.kind == kind && sent.run == run).map fun sent =>
    (sent.reference, sent.words)

end TransportSession

/-! ### Which requests carry a reference

Only uploads do. The request that executes a stack refers to the one that is loaded. -/

/-- An upload carries the reference it was built with. -/
theorem stackReferenceOf_upload (superReference : UInt16) (reference : UInt32)
    (operation : VmeOperation) :
    stackReferenceOf (buildMvlcStackUploadRequest superReference reference operation.words) =
      some reference := by
  rw [stackReferenceOf, buildMvlcStackUploadRequest, requestLocalWrites_requestWords]
  cases operation <;> rfl

/-- The request to execute a stack carries none. -/
theorem stackReferenceOf_execute (superReference : UInt16) :
    stackReferenceOf (buildMvlcStackExecuteRequest superReference) = none := by
  rw [stackReferenceOf, buildMvlcStackExecuteRequest, requestLocalWrites_requestWords]
  rfl

/-- The uploads of two lists of requests. -/
theorem uploads_append (requests requests' : List (List UInt32)) :
    uploads (requests ++ requests') = uploads requests ++ uploads requests' :=
  List.filterMap_append

/-! ### What a call sends

An attempt sends one upload and perhaps one request to execute it. The next reference is taken
before the upload, also if the attempt then fails. -/

/-- A part of a call sends requests and takes no reference. -/
def Sends (requests : List (List UInt32)) (link link' : Link) : Prop :=
  link'.sent = requests ++ link.sent ∧ link'.nextStackReference = link.nextStackReference

/-- What is sent one after the other. -/
theorem Sends.trans {requests requests' : List (List UInt32)} {link link' link'' : Link}
    (h : Sends requests link link') (h' : Sends requests' link' link'') :
    Sends (requests' ++ requests) link link'' :=
  ⟨by rw [h'.1, h.1, List.append_assoc], h'.2.trans h.2⟩

/-- What goes on elsewhere on the link sends nothing. -/
theorem sends_execute (link : Link) (activity : Activity) : Sends [] link (link.execute activity) := by
  unfold Link.execute
  split
  · exact ⟨rfl, rfl⟩
  · dsimp only
    split
    · unfold Link.runStack
      dsimp only
      split <;> exact ⟨rfl, rfl⟩
    · exact ⟨rfl, rfl⟩

/-- Nor do several such things. -/
theorem sends_activities (activities : List Activity) (link : Link) :
    Sends [] link (activities.foldl Link.execute link) := by
  induction activities generalizing link with
  | nil => exact ⟨rfl, rfl⟩
  | cons activity activities ih => exact (sends_execute link activity).trans (ih _)

section

variable (network : Network)

/-- Asking for a cancellation sends nothing. -/
theorem sends_loadCancellation (link : Link) : Sends [] link (loadCancellation network link).2 :=
  ⟨rfl, rfl⟩

/-- One request is sent. -/
theorem sends_sendWords (words : List UInt32) (link : Link) :
    Sends [words] link (sendWords network words link).2 := by
  have hsent : Sends [words] link
      { link with sent := words :: link.sent, clock := link.clock + 1 } := ⟨rfl, rfl⟩
  exact hsent.trans (sends_activities _ _)

/-- Waiting for replies sends nothing. -/
theorem sends_receiveFrames (link : Link) : Sends [] link (receiveFrames network link).2 := by
  have hwaited : Sends [] link { link with clock := link.clock + 1 } := ⟨rfl, rfl⟩
  have hactive := hwaited.trans (sends_activities
    (network.activity { link with clock := link.clock + 1 }) { link with clock := link.clock + 1 })
  unfold receiveFrames
  dsimp only
  split <;> exact hactive

/-- Nor does waiting for the upload to be confirmed. -/
theorem sends_awaitUpload (superReference : UInt16) (packets : Nat) (link : Link) :
    Sends [] link (awaitUpload network superReference packets link).2 := by
  induction packets generalizing link with
  | zero => exact sends_loadCancellation network link
  | succ packets ih =>
      have hloaded := sends_loadCancellation network link
      unfold awaitUpload
      split
      next cancelled heq =>
        rw [heq] at hloaded
        exact hloaded.trans (sends_loadCancellation network cancelled)
      next going heq =>
        rw [heq] at hloaded
        have hreceived := hloaded.trans (sends_receiveFrames network going)
        split
        next heq =>
          rw [heq] at hreceived
          exact hreceived
        next received heq =>
          rw [heq] at hreceived
          split
          · exact hreceived
          · exact hreceived.trans (ih received)

/-- The upload of a stack is one request. -/
theorem sends_uploadStack (superReference : UInt16) (reference : UInt32)
    (operationWords : List UInt32) (link : Link) :
    Sends [buildMvlcStackUploadRequest superReference reference operationWords] link
      (uploadStack network superReference reference operationWords link).2 := by
  have hsent := sends_sendWords network
    (buildMvlcStackUploadRequest superReference reference operationWords) link
  unfold uploadStack
  split
  next heq =>
    rw [heq] at hsent
    exact hsent
  next sent heq =>
    rw [heq] at hsent
    exact hsent.trans (sends_awaitUpload network superReference _ sent)

/-- Waiting for the execution sends nothing. -/
theorem sends_awaitExecution (superReference : UInt16) (reference : UInt32) (packets : Nat)
    (replies : ExecutionReplies) (link : Link) :
    Sends [] link (awaitExecution network superReference reference packets replies link).2 := by
  induction packets generalizing replies link with
  | zero => exact sends_loadCancellation network link
  | succ packets ih =>
      have hloaded := sends_loadCancellation network link
      unfold awaitExecution
      split
      next cancelled heq =>
        rw [heq] at hloaded
        exact hloaded.trans (sends_loadCancellation network cancelled)
      next going heq =>
        rw [heq] at hloaded
        have hreceived := hloaded.trans (sends_receiveFrames network going)
        split
        next heq =>
          rw [heq] at hreceived
          exact hreceived
        next received heq =>
          rw [heq] at hreceived
          split
          · exact hreceived
          · split
            · exact hreceived
            · exact hreceived.trans (ih _ received)

/-- The request to execute it is one more. -/
theorem sends_executeStack (superReference : UInt16) (reference : UInt32) (link : Link) :
    Sends [buildMvlcStackExecuteRequest superReference] link
      (executeStack network superReference reference link).2 := by
  have hsent := sends_sendWords network (buildMvlcStackExecuteRequest superReference) link
  unfold executeStack
  split
  next heq =>
    rw [heq] at hsent
    exact hsent
  next sent heq =>
    rw [heq] at hsent
    exact hsent.trans (sends_awaitExecution network superReference reference _ _ sent)

/-- A call sends stacks whose references go on from its counter, and moves the counter on. -/
def SendsNumbered (link link' : Link) : Prop :=
  ∃ requests, link'.sent = requests ++ link.sent ∧
    Numbered link.nextStackReference (uploads requests) ∧
    link'.nextStackReference =
      link.nextStackReference + (uploads requests).length.toUInt32

/-- Where nothing is sent, no reference is used. -/
theorem Sends.numbered {link link' : Link} (h : Sends [] link link') : SendsNumbered link link' :=
  ⟨[], h.1, trivial, h.2.trans (add_zero _).symm⟩

/-- What is numbered one after the other. -/
theorem SendsNumbered.trans {link link' link'' : Link} (h : SendsNumbered link link')
    (h' : SendsNumbered link' link'') : SendsNumbered link link'' := by
  obtain ⟨requests, hsent, hnumbered, hnext⟩ := h
  obtain ⟨requests', hsent', hnumbered', hnext'⟩ := h'
  rw [hnext] at hnumbered' hnext'
  refine ⟨requests' ++ requests, by rw [hsent', hsent, List.append_assoc], ?_, ?_⟩
  · rw [uploads_append]
    exact hnumbered.append hnumbered'
  · rw [hnext', uploads_append, List.length_append, Nat.add_comm (uploads requests').length,
      Nat.toUInt32_eq, Nat.toUInt32_eq, Nat.toUInt32_eq, UInt32.ofNat_add, add_assoc]

/-- An attempt uploads one stack, under the next reference. -/
theorem sendsNumbered_attemptStack (operation : VmeOperation) (link : Link) :
    SendsNumbered link (attemptStack network operation link).2 := by
  -- an attempt uploads one stack, whatever becomes of it
  have hone {requests : List (List UInt32)} {link' : Link}
      (hsent : link'.sent = requests ++ buildMvlcStackUploadRequest link.nextSuperReference
        link.nextStackReference operation.words :: link.sent)
      (hplain : uploads requests = [])
      (hnext : link'.nextStackReference = link.nextStackReference + 1) :
      SendsNumbered link link' := by
    have huploads : uploads (requests ++ [buildMvlcStackUploadRequest link.nextSuperReference
        link.nextStackReference operation.words]) = [(link.nextStackReference,
          buildMvlcStackUploadRequest link.nextSuperReference link.nextStackReference
            operation.words)] := by
      rw [uploads_append, hplain, uploads, List.filterMap_cons, stackReferenceOf_upload]
      rfl
    refine ⟨requests ++ [buildMvlcStackUploadRequest link.nextSuperReference
      link.nextStackReference operation.words], ?_, ?_, ?_⟩
    · rw [hsent, List.append_assoc]
      rfl
    · rw [huploads]
      exact ⟨(add_zero _).symm, trivial⟩
    · rw [huploads]
      exact hnext
  have huploaded := sends_uploadStack network link.nextSuperReference link.nextStackReference
    operation.words { link with
      nextStackReference := link.nextStackReference + 1
      nextSuperReference := link.nextSuperReference + 1
      attempts := link.attempts + 1 }
  unfold attemptStack
  dsimp only
  split
  next heq =>
    rw [heq] at huploaded
    -- the upload is not confirmed, and nothing is executed
    exact @hone [] _ huploaded.1 rfl huploaded.2
  next uploaded heq =>
    rw [heq] at huploaded
    obtain ⟨hsent, hnext⟩ := sends_executeStack network uploaded.nextSuperReference
      link.nextStackReference
      { uploaded with nextSuperReference := uploaded.nextSuperReference + 1 }
    refine @hone [buildMvlcStackExecuteRequest uploaded.nextSuperReference] _ ?_ ?_
      (hnext.trans huploaded.2)
    · rw [hsent]
      exact congrArg _ huploaded.1
    · rw [uploads, List.filterMap_cons, stackReferenceOf_execute]
      rfl

/-- Giving up sends nothing. -/
theorem sends_giveUp (lastResult : StackExecutionResult) (link : Link) :
    Sends [] link (giveUp network lastResult link).2 := by
  unfold giveUp
  dsimp only
  split
  · exact sends_loadCancellation network link
  · split <;> exact sends_loadCancellation network link

/-- Every attempt of a transaction takes the next reference. -/
theorem sendsNumbered_runStackTransaction (operation : VmeOperation) (attempts : Nat)
    (lastResult : StackExecutionResult) (link : Link) :
    SendsNumbered link (runStackTransaction network operation attempts lastResult link).2 := by
  induction attempts generalizing lastResult link with
  | zero => exact (sends_giveUp network lastResult link).numbered
  | succ attempts ih =>
      have hloaded := sends_loadCancellation network link
      unfold runStackTransaction
      split
      next cancelled heq =>
        rw [heq] at hloaded
        exact (hloaded.trans (sends_giveUp network lastResult cancelled)).numbered
      next going heq =>
        rw [heq] at hloaded
        have hattempted := hloaded.numbered.trans
          (sendsNumbered_attemptStack network operation going)
        dsimp only
        split
        · exact hattempted
        · exact hattempted.trans (ih _ _)

/-- So does a call. -/
theorem sendsNumbered_callVmeD16 (operation : VmeOperation) (link : Link) :
    SendsNumbered link (callVmeD16 network operation link) := by
  have hrun := sendsNumbered_runStackTransaction network operation mvlcTransactionAttemptCount {} link
  cases operation with
  | read address =>
      unfold callVmeD16 readVmeD16
      dsimp only
      split <;> exact hrun
  | write address value =>
      unfold callVmeD16 writeVmeD16
      dsimp only
      split <;> exact hrun

/-! ### What holds of every session

The step is the call; a start only resets the counter of its operation. -/

namespace TransportSession

/-- Each run of an operation has numbered its stacks from the operation's constant. -/
structure Counted (session : TransportSession) : Prop where
  link : session.sent.map (fun sent => (sent.reference, sent.words)) = uploads session.link.sent
  numbered : ∀ kind run, Numbered kind.initialStackReference (session.sentBy kind run)
  next : ∀ kind, session.nextStackReference kind = kind.initialStackReference +
    (session.sentBy kind (session.runs kind)).length.toUInt32
  later : ∀ kind run, session.runs kind < run → session.sentBy kind run = []

/-- Nothing sent, nothing counted. -/
theorem counted_opened (memory : UInt16 → UInt32) : Counted (opened memory) where
  link := rfl
  numbered := fun _ _ => trivial
  next := fun _ => (add_zero _).symm
  later := fun _ _ _ => rfl

@[simp] theorem start_nextStackReference (session : TransportSession) (kind : OperationKind) :
    (session.start kind).nextStackReference =
      Function.update session.nextStackReference kind kind.initialStackReference := rfl

@[simp] theorem start_runs (session : TransportSession) (kind : OperationKind) :
    (session.start kind).runs = Function.update session.runs kind (session.runs kind + 1) := rfl

@[simp] theorem sentBy_start (session : TransportSession) (kind : OperationKind) :
    (session.start kind).sentBy = session.sentBy := rfl

@[simp] theorem call_runs (session : TransportSession) (kind : OperationKind)
    (operation : VmeOperation) : (session.call network kind operation).runs = session.runs := rfl

/-- A new run begins with nothing of its own sent. -/
theorem Counted.start {session : TransportSession} (h : Counted session) (kind : OperationKind) :
    Counted (session.start kind) where
  link := h.link
  numbered := h.numbered
  next := by
    intro other
    by_cases hother : other = kind
    · subst hother
      have hnone : session.sentBy other (session.runs other + 1) = [] :=
        h.later other _ (Nat.lt_succ_self _)
      rw [start_nextStackReference, start_runs, sentBy_start, Function.update_self,
        Function.update_self, hnone]
      exact (add_zero _).symm
    · rw [start_nextStackReference, start_runs, sentBy_start, Function.update_of_ne hother,
        Function.update_of_ne hother]
      exact h.next other
  later := by
    intro other run hrun
    refine h.later other run (Nat.lt_of_le_of_lt ?_ hrun)
    by_cases hother : other = kind
    · subst hother
      rw [start_runs, Function.update_self]
      exact Nat.le_succ _
    · rw [start_runs, Function.update_of_ne hother]

/-- What a call sends goes to the current run of its operation. -/
theorem exists_sent_call (session : TransportSession) (kind : OperationKind)
    (operation : VmeOperation) :
    ∃ requests, (session.call network kind operation).link.sent = requests ++ session.link.sent ∧
      Numbered (session.nextStackReference kind) (uploads requests) ∧
      (session.call network kind operation).nextStackReference =
        Function.update session.nextStackReference kind
          (session.nextStackReference kind + (uploads requests).length.toUInt32) ∧
      (session.call network kind operation).sent = (uploads requests).map (fun upload =>
        ⟨kind, session.runs kind, upload.1, upload.2⟩) ++ session.sent := by
  obtain ⟨requests, hsent, hnumbered, hnext⟩ :=
    sendsNumbered_callVmeD16 network operation (session.linkOf kind)
  have htake : (callVmeD16 network operation (session.linkOf kind)).sent.take
      ((callVmeD16 network operation (session.linkOf kind)).sent.length -
        session.link.sent.length) = requests := by
    rw [hsent, List.length_append]
    show (requests ++ session.link.sent).take (_ + session.link.sent.length - _) = _
    rw [Nat.add_sub_cancel, List.take_left]
  refine ⟨requests, hsent, hnumbered, ?_, ?_⟩
  · exact congrArg (Function.update session.nextStackReference kind) hnext
  · show (uploads (List.take _ _)).map _ ++ session.sent = _
    rw [htake]

/-- The stacks of a run after a call: new ones for the operation's current run. -/
theorem sentBy_append (session : TransportSession) {session' : TransportSession}
    {kind : OperationKind} {run : Nat} {new : List (UInt32 × List UInt32)}
    (h : session'.sent = new.map (fun upload => ⟨kind, run, upload.1, upload.2⟩) ++ session.sent)
    (other : OperationKind) (otherRun : Nat) :
    session'.sentBy other otherRun =
      (if kind = other ∧ run = otherRun then new else []) ++ session.sentBy other otherRun := by
  rw [sentBy, h, List.filter_append, List.map_append, List.filter_map, List.map_map]
  split
  next heq =>
    obtain ⟨rfl, rfl⟩ := heq
    congr 1
    rw [List.filter_eq_self.mpr (by simp)]
    exact List.map_id'' (fun _ => rfl) new
  next hne =>
    congr 1
    rw [List.filter_eq_nil_iff.mpr (by simpa using fun _ _ _ => hne), List.map_nil]

/-- A call continues the numbers of its run. -/
theorem Counted.call {session : TransportSession} (h : Counted session) (kind : OperationKind)
    (operation : VmeOperation) : Counted (session.call network kind operation) := by
  obtain ⟨requests, hlink, hnumbered, hnext, hsent⟩ :=
    session.exists_sent_call network kind operation
  have hsentBy := session.sentBy_append hsent
  have hown : (session.call network kind operation).sentBy kind (session.runs kind) =
      uploads requests ++ session.sentBy kind (session.runs kind) := by
    rw [hsentBy, if_pos ⟨rfl, rfl⟩]
  have hothers {other : OperationKind} {run : Nat}
      (hne : ¬(kind = other ∧ session.runs kind = run)) :
      (session.call network kind operation).sentBy other run = session.sentBy other run := by
    rw [hsentBy, if_neg hne, List.nil_append]
  refine ⟨?_, ?_, ?_, ?_⟩
  · rw [hsent, hlink, List.map_append, List.map_map, uploads_append, h.link]
    congr 1
    exact List.map_id'' (fun _ => rfl) _
  · -- the references of this run go on, those of the others stay
    intro other run
    by_cases heq : kind = other ∧ session.runs kind = run
    · obtain ⟨rfl, rfl⟩ := heq
      rw [hown]
      refine (h.numbered _ _).append ?_
      rw [← h.next kind]
      exact hnumbered
    · rw [hothers heq]
      exact h.numbered other run
  · intro other
    rw [hnext]
    by_cases heq : kind = other
    · subst heq
      rw [call_runs, Function.update_self, hown, h.next kind, List.length_append,
        Nat.add_comm (uploads requests).length, Nat.toUInt32_eq, Nat.toUInt32_eq, Nat.toUInt32_eq,
        UInt32.ofNat_add, add_assoc]
    · rw [Function.update_of_ne (Ne.symm heq), hothers fun hsame => heq hsame.1]
      exact h.next other
  · intro other run hrun
    rw [hothers fun hsame => absurd hrun (by
      obtain ⟨rfl, rfl⟩ := hsame
      exact Nat.lt_irrefl _)]
    exact h.later other run hrun

/-- So it is for all steps of a session. -/
theorem counted_run (memory : UInt16 → UInt32) (steps : List SessionStep) :
    Counted ((opened memory).run network steps) := by
  have hstart := counted_opened memory
  unfold TransportSession.run
  generalize opened memory = session at hstart
  induction steps generalizing session with
  | nil => exact hstart
  | cons step steps ih =>
      cases step with
      | start kind => exact ih _ (hstart.start kind)
      | call kind operation => exact ih _ (hstart.call network kind operation)

/-- What was sent was sent by the run it is noted for. -/
theorem mem_sentBy {session : TransportSession} {sent : SentStack} (h : sent ∈ session.sent) :
    (sent.reference, sent.words) ∈ session.sentBy sent.kind sent.run :=
  List.mem_map_of_mem (f := fun sent => (sent.reference, sent.words))
    (List.mem_filter.mpr ⟨h, by simp⟩)

end TransportSession

/-- Every run numbers its stacks from the operation's constant, so a reference comes back when an
operation is run again, and only then. -/
theorem sentStacks_distinct (memory : UInt16 → UInt32) (steps : List SessionStep)
    (hroom : ∀ kind run,
      (((TransportSession.opened memory).run network steps).sentBy kind run).length ≤ kind.room) :
    let session := (TransportSession.opened memory).run network steps
    session.sent.map (fun sent => (sent.reference, sent.words)) = uploads session.link.sent ∧
      (session.sent.Pairwise fun sent other =>
        sent.reference = other.reference → sent.kind = other.kind ∧ sent.run ≠ other.run) ∧
      ∀ kind run, session.sentBy kind run ≠ [] →
        ∃ words, (kind.initialStackReference, words) ∈ session.sentBy kind run := by
  intro session
  have hcounted := TransportSession.counted_run network memory steps
  refine ⟨hcounted.link, List.pairwise_iff_forall_sublist.mpr fun {sent other} hsublist heq => ?_,
    fun kind run hne => (hcounted.numbered kind run).exists_start_mem hne⟩
  have hsent : sent ∈ session.sent := hsublist.subset (by simp)
  have hother : other ∈ session.sent := hsublist.subset (by simp)
  have hkind : sent.kind = other.kind := by
    obtain ⟨k, hk, hreference⟩ := (hcounted.numbered _ _).exists_lt_of_mem
      (TransportSession.mem_sentBy hsent)
    obtain ⟨l, hl, hreference'⟩ := (hcounted.numbered _ _).exists_lt_of_mem
      (TransportSession.mem_sentBy hother)
    refine OperationKind.eq_of_reference_eq (Nat.lt_of_lt_of_le hk (hroom _ _))
      (Nat.lt_of_lt_of_le hl (hroom _ _)) ?_
    rw [← hreference, ← hreference', heq]
  refine ⟨hkind, fun hrun => ?_⟩
  -- two stacks of one run have two places in its numbering
  have hboth : [(sent.reference, sent.words), (other.reference, other.words)].Sublist
      (session.sentBy sent.kind sent.run) := by
    have hfiltered := hsublist.filter fun stack => stack.kind == sent.kind && stack.run == sent.run
    rw [List.filter_eq_self.mpr (by simp [hkind, hrun])] at hfiltered
    exact hfiltered.map fun stack => (stack.reference, stack.words)
  have hne := (hcounted.numbered sent.kind sent.run).pairwise_ne
    ((hroom _ _).trans sent.kind.room_le)
  exact List.pairwise_iff_forall_sublist.mp hne hboth heq

end

/-- A network that never takes a request. -/
def silentNetwork : Network where
  activity := fun _ => []
  sendError := fun _ => some "no route"
  delivery := fun _ => .frames []
  cancellationRequested := fun _ => false

/-- A capture and a repair on one connection. -/
theorem sentStacks_distinct_example :
    ((TransportSession.opened fun _ => 0).run silentNetwork
        [.start .scpCapture, .call .scpCapture (.read 0x22226008), .start .scpSingleRepair,
          .call .scpSingleRepair (.read 0x22226008)]).sent.length = 6 ∧
      ((TransportSession.opened fun _ => 0).run silentNetwork
        [.start .scpCapture, .call .scpCapture (.read 0x22226008), .start .scpSingleRepair,
          .call .scpSingleRepair (.read 0x22226008)]).sent.Pairwise fun sent other =>
            sent.reference = other.reference → sent.kind = other.kind ∧ sent.run ≠ other.run := by
  have hsent : ((TransportSession.opened fun _ => 0).run silentNetwork
      [.start .scpCapture, .call .scpCapture (.read 0x22226008), .start .scpSingleRepair,
        .call .scpSingleRepair (.read 0x22226008)]).sent.length = 6 := by decide
  refine ⟨hsent, (sentStacks_distinct silentNetwork (fun _ => 0) _ fun kind run => ?_).2.1⟩
  rw [TransportSession.sentBy, List.length_map]
  refine (List.length_filter_le _ _).trans ?_
  rw [hsent]
  cases kind <;> decide

/-- The controller answers one read, and both replies come again with every later datagram. -/
def repeatingNetwork : Network where
  activity := fun link =>
    if link.sent.length ≤ 2 ∧ link.frames.length < 3 then
      [⟨0, 0, 0, [], ⟨false, 0, 0, [0x1234]⟩, {}⟩]
    else []
  sendError := fun _ => none
  delivery := fun link => .frames (List.range link.frames.length)
  cancellationRequested := fun _ => false

/-- The second capture takes the reply to the first one's read for its own. -/
theorem repeatedCapture_takesOldReply :
    let before := (TransportSession.opened fun _ => 0).run repeatingNetwork
      [.start .scpCapture, .call .scpCapture (.read 0x22226008), .start .scpCapture]
    let answer := readVmeD16 repeatingNetwork 0x22226008 (before.linkOf .scpCapture)
    answer.1.toOption = some 0x1234 ∧ answer.2.executed.length = before.link.executed.length ∧
      ¬((uploads answer.2.sent).map (·.1)).Nodup := by
  decide +kernel

end Fidget
