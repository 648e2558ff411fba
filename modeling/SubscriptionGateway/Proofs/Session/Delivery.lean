import SubscriptionGateway.Proofs.Outbound.Delivery
import SubscriptionGateway.Proofs.Session.Silence

/-! What a connection delivers: the texts that its queue has accepted, from the first on and in
their order, and one close frame behind the last of them if the server closes in time. -/
namespace SubscriptionGateway

def CloseReason.frame (reason : CloseReason) : CloseFrame := ⟨reason.code, reason.text⟩

namespace Session

def ClosesFor (s : Session) (reason : CloseReason) : Prop :=
  (∃ deadline, s.stage = .closing reason deadline) ∨ s.stage = .ended (.serverClosed reason)

/-- The writer has its order to close from a connection that is closing, and the connection does not
end before it has stopped. -/
structure Delivers (past : List Event) (s : Session) (w : Writer) (closed : Option CloseFrame) :
    Prop where
  present : s.writer = some w
  conveys : w.Conveys s.queue (acceptedTexts past) (deliveredFrames past) closed
  ordered : w.activity ≠ .stopped → ∀ frame, w.IsOrdered frame →
    ∃ reason deadline, s.stage = .closing reason deadline ∧ frame = reason.frame
  announced : ∀ frame ∈ closed, ∃ reason, s.ClosesFor reason ∧ frame = reason.frame
  isOver : ∀ outcome, s.stage = .ended outcome → w.activity = .stopped

variable {past events : List Event} {s after : Session} {w : Writer} {closed : Option CloseFrame}

theorem not_closesFor_of_running (running : s.stage = .running) (reason : CloseReason) :
    ¬ s.ClosesFor reason := by
  rintro (⟨deadline, closing⟩ | ended) <;> simp_all

theorem agreed_of_closing {reason other : CloseReason} {deadline : Nat}
    (waiting : s.stage = .closing reason deadline) (closes : s.ClosesFor other) :
    Outcome.serverClosed reason = .serverClosed other := by
  rcases closes with ⟨_, closing⟩ | ended <;> simp_all

theorem Delivers.feed (h : Delivers past s w closed) (feeds : s.queue.Feeds events after.queue)
    (writer : after.writer = s.writer) (stage : after.stage = s.stage) :
    Delivers (past ++ events) after w closed where
  present := writer.trans h.present
  conveys := by
    rw [acceptedTexts_append, deliveredFrames_append]
    exact h.conveys.feed feeds
  ordered := by rw [stage]; exact h.ordered
  announced := by simpa only [ClosesFor, stage] using h.announced
  isOver := by rw [stage]; exact h.isOver

theorem Delivers.same (h : Delivers past s w closed) (queue : after.queue = s.queue)
    (writer : after.writer = s.writer) (stage : after.stage = s.stage)
    (unaccepted : acceptedTexts events = []) (silent : deliveredFrames events = []) :
    Delivers (past ++ events) after w closed :=
  h.feed (.of_same (by rw [queue]) (by rw [queue]) unaccepted silent) writer stage

theorem Delivers.close (h : Delivers past s w closed) (running : s.stage = .running)
    (reason : CloseReason) :
    Delivers (past ++ [.closing reason]) (s.close reason).1 (w.orderClose reason.frame) closed where
  present := by
    simp [Session.close, Relay.orderClose, windDown, Relay.closeRegistry, h.present,
      CloseReason.frame]
  conveys := by
    have conveys := h.conveys.of_activity (w.orderClose reason.frame) rfl
    simpa [Event.acceptedText?, Event.delivered?, Session.close, Relay.orderClose, windDown,
      Relay.closeRegistry] using conveys
  ordered going frame isOrdered := by
    refine ⟨reason, s.now + s.config.closeTimeout, rfl, ?_⟩
    rcases isOrdered with given | earlier
    · exact (Option.some.inj given).symm
    · -- An earlier order would come from a connection that is closing.
      obtain ⟨other, deadline, closing, -⟩ := h.ordered going frame (.inr earlier)
      simp [closing] at running
  announced frame found := by
    obtain ⟨other, closes, -⟩ := h.announced frame found
    exact absurd closes (not_closesFor_of_running running other)
  isOver := by simp [Session.close]

theorem Delivers.finish (h : Delivers past s w closed) (stopped : w.activity = .stopped)
    {outcome : Outcome}
    (agreed : ∀ reason, s.ClosesFor reason → outcome = .serverClosed reason) :
    Delivers (past ++ [.ended outcome]) (s.finish outcome).1 w closed where
  present := h.present
  conveys := by simpa [Event.acceptedText?, Event.delivered?, Session.finish] using h.conveys
  ordered going := absurd stopped going
  announced frame found := by
    obtain ⟨reason, closes, same⟩ := h.announced frame found
    exact ⟨reason, .inr (congrArg Stage.ended (agreed reason closes)), same⟩
  isOver _ _ := stopped

theorem Delivers.abort (h : Delivers past s w closed) (relay : Relay)
    (writer : relay.writer = s.writer) (queue : relay.queue = s.queue) :
    Delivers past { s with toRelay := relay.abortWriter } (w.stop s.queue []).writer closed where
  present := by simp [Relay.abortWriter, writer, h.present, queue]
  conveys := by simpa [Relay.abortWriter, writer, h.present, queue] using h.conveys.stop
  ordered going := absurd rfl going
  announced := h.announced
  isOver _ _ := rfl

theorem Delivers.endWith (h : Delivers past s w closed) (running : s.stage = .running)
    (outcome : Outcome) :
    Delivers (past ++ [.ended outcome]) (s.endWith outcome).1 (w.stop s.queue []).writer
      closed := by
  have torn : Delivers past s.windDown w closed :=
    ⟨h.present, h.conveys, h.ordered, h.announced, h.isOver⟩
  have aborted := torn.abort s.windDown.toRelay rfl rfl
  refine aborted.finish rfl fun reason closes => ?_
  exact absurd closes (not_closesFor_of_running running reason)

theorem Delivers.takes (h : Delivers past s w closed) (running : s.stage = .running)
    {item : InboundItem} (taken : s.Takes item events after) :
    ∃ w closed, Delivers (past ++ events) after w closed := by
  cases taken with
  | parts => exact ⟨_, _, h.endWith running _⟩
  | breaks cause => exact ⟨_, _, h.endWith running _⟩
  | rejects unreadable => exact ⟨_, _, h.close running _⟩
  | objects decoded forbidden => exact ⟨_, _, h.close running _⟩
  | @greets frame payload =>
    let context := s.interceptors.apply (.new s.connectionId payload)
    have initialized : Delivers (past ++ [.initialized context]) s w closed :=
      h.same rfl rfl rfl rfl rfl
    have feeds := s.queue.feeds_enqueue .connection (.connectionAck none)
    have greeted : Delivers _ (s.handshake payload).1 w closed := initialized.feed feeds rfl rfl
    rw [List.append_assoc] at greeted
    exact ⟨w, closed, greeted⟩
  | enrols => exact ⟨w, closed, h.same rfl rfl rfl rfl rfl⟩
  | @cancels frame id =>
    have queue := s.toRelay.queue_cancelId id
    have writer := s.toRelay.writer_cancelId id
    exact ⟨w, closed, h.same queue writer rfl rfl rfl⟩
  | replies => exact ⟨w, closed, h.feed (s.queue.feeds_enqueue .connection _) rfl rfl⟩
  | ignores => exact ⟨w, closed, by simpa using h⟩

theorem Delivers.step (h : Delivers past s w closed) (does : s.Does events after) :
    ∃ w closed, Delivers (past ++ events) after w closed := by
  cases does with
  | @writes writer taken present turned =>
    obtain rfl : writer = w := Option.some.inj (present.symm.trans h.present)
    obtain ⟨closed', conveys, isOrdered⟩ := turned.conveys h.conveys
    have going := turned.going
    refine ⟨taken.writer, closed', rfl, by simpa using conveys, ?_, ?_, ?_⟩
    · exact fun _ frame ordered => h.ordered going frame (turned.ordered ordered)
    · intro frame found
      obtain ⟨reason, deadline, closing, same⟩ := h.ordered going frame (isOrdered frame found)
      exact ⟨reason, .inl ⟨deadline, closing⟩, same⟩
    · exact fun outcome ended => absurd (h.isOver outcome ended) going
  | produces found turned => exact ⟨w, closed, h.feed turned.feeds rfl rfl⟩
  | overflows running | timesOut running | goesAway running => exact ⟨_, _, h.close running _⟩
  | hears running room next taken =>
    rename_i item rest inner
    have heard : Delivers (past ++ [.arrived (some item)]) { s with inbound := rest } w closed :=
      h.same rfl rfl rfl rfl rfl
    simpa using heard.takes running taken
  | hearsEnd running =>
    have heard : Delivers (past ++ [.arrived none]) s w closed := h.same rfl rfl rfl rfl rfl
    exact ⟨_, _, by simpa using heard.endWith running .peerClosed⟩
  | ticks running =>
    exact ⟨w, closed, h.feed (s.queue.feeds_enqueue .connection _) rfl rfl⟩
  | @finishes reason deadline waiting stopped =>
    have isStopped : w.activity = .stopped := by
      simpa [Relay.writerStopped, h.present, Writer.isStopped] using stopped
    exact ⟨w, closed, h.finish isStopped fun _ => agreed_of_closing waiting⟩
  | @givesUp reason deadline waiting =>
    have aborted := h.abort s.toRelay rfl rfl
    exact ⟨_, closed, aborted.finish rfl fun _ => agreed_of_closing waiting⟩
  | isStirred cause =>
    cases cause with
    | losePeer =>
      let lost : Writer := { w with half := { w.half with peerGone := true } }
      refine ⟨lost, closed, ?_, ?_, h.ordered, h.announced, h.isOver⟩
      · simp [stimulate, losePeer, h.present, lost]
      · have conveys := h.conveys.of_activity lost rfl
        simpa [stimulate, losePeer] using conveys
    | deliver | disconnect | requestShutdown | closeRegistry | changeEngine | clock =>
      exact ⟨w, closed, h.same rfl rfl rfl rfl rfl⟩

/-- The end of a connection, once it has come, is the last that is heard of it by the peer. -/
def Concluded (past : List Event) (s : Session) : Prop :=
  ∀ first outcome later, past = first ++ .ended outcome :: later →
    s.stage = .ended outcome ∧ deliveredFrames later = []

theorem Does.stage_of_ended (does : s.Does events after) {outcome : Outcome}
    (ended : s.stage = .ended outcome) : after.stage = .ended outcome := by
  cases does with
  | writes | produces => exact ended
  | overflows running | hears running | hearsEnd running | timesOut running | goesAway running
  | ticks running => simp [ended] at running
  | finishes waiting | givesUp waiting => simp [ended] at waiting
  | isStirred cause => cases cause <;> exact ended

theorem Takes.ends {item : InboundItem} (taken : s.Takes item events after) {outcome : Outcome}
    (ended : .ended outcome ∈ events) :
    after.stage = .ended outcome ∧ deliveredFrames events = [] := by
  cases taken with
  | parts | breaks =>
    cases List.mem_singleton.mp ended
    exact ⟨rfl, rfl⟩
  | greets =>
    have sent := (List.mem_cons.mp ended).resolve_left (by simp)
    simpa using OutboundQueue.mem_enqueue sent
  | replies => simpa using OutboundQueue.mem_enqueue ended
  | rejects | objects | enrols | cancels | ignores => simp at ended

theorem Does.ends (does : s.Does events after) {outcome : Outcome}
    (ended : .ended outcome ∈ events) :
    after.stage = .ended outcome ∧ deliveredFrames events = [] := by
  cases does with
  | writes present turned =>
    obtain ⟨frame, made⟩ := turned.delivered _ ended
    cases made
  | produces found turned => cases turned.causes _ ended
  | hears running room next taken =>
    obtain ⟨stage, silent⟩ := taken.ends ((List.mem_cons.mp ended).resolve_left (by simp))
    exact ⟨stage, by simp [silent, Event.delivered?]⟩
  | hearsEnd =>
    obtain rfl : outcome = .peerClosed := by simpa using ended
    exact ⟨rfl, rfl⟩
  | finishes | givesUp =>
    cases List.mem_singleton.mp ended
    exact ⟨rfl, rfl⟩
  | ticks => simpa using OutboundQueue.mem_enqueue ended
  | overflows | timesOut | goesAway | isStirred => simp at ended

theorem Delivers.silent_of_ended (h : Delivers past s w closed) (does : s.Does events after)
    {outcome : Outcome} (ended : s.stage = .ended outcome) : deliveredFrames events = [] := by
  cases does with
  | writes present turned =>
    cases Option.some.inj (present.symm.trans h.present)
    exact absurd (h.isOver outcome ended) turned.going
  | produces found turned => exact turned.feeds.silent
  | overflows running | hears running | hearsEnd running | timesOut running | goesAway running
  | ticks running => simp [ended] at running
  | finishes waiting | givesUp waiting => simp [ended] at waiting
  | isStirred => rfl

theorem Concluded.step (concluded : Concluded past s) (h : Delivers past s w closed)
    (does : s.Does events after) : Concluded (past ++ events) after := by
  intro first outcome later split
  rcases append_eq_append_cons split with ⟨middle, old, rfl⟩ | ⟨middle, rfl, new⟩
  · -- The end is from the past, so that the writer has stopped.
    obtain ⟨ended, silent⟩ := concluded first outcome middle old
    refine ⟨does.stage_of_ended ended, ?_⟩
    rw [deliveredFrames_append, silent, h.silent_of_ended does ended]
    rfl
  · have member : .ended outcome ∈ events := by simp [new]
    obtain ⟨ended, silent⟩ := does.ends member
    rw [new, deliveredFrames_append] at silent
    exact ⟨ended, (List.append_eq_nil_iff.mp silent).2⟩

theorem delivers_new (config : SessionConfig) (connectionId : String) (engine : Engine)
    (interceptors : InterceptorChain) (half : WriteHalf) (now : Nat) (shutdown : Bool) :
    Delivers [] (.new config connectionId engine interceptors half now shutdown) (.new half)
      none where
  present := rfl
  conveys :=
    .serves (by simp [Writer.new]) rfl (show _ = ([] : List String).map OutboundFrame.text from rfl)
      rfl
  ordered _ frame isOrdered := by simp [Writer.IsOrdered, Writer.new] at isOrdered
  announced := by simp
  isOver := by simp [Session.new]

theorem delivers_of_reaches {config : SessionConfig} {connectionId : String} {engine : Engine}
    {interceptors : InterceptorChain} {half : WriteHalf} {now : Nat} {shutdown : Bool}
    (run : Reaches (.new config connectionId engine interceptors half now shutdown) events s) :
    (∃ w closed, Delivers events s w closed) ∧ Concluded events s := by
  have orderly := orderly_new config connectionId engine interceptors half now shutdown
  have start := delivers_new config connectionId engine interceptors half now shutdown
  refine run.history (P := fun past s => (∃ w closed, Delivers past s w closed) ∧ Concluded past s)
    (fun _ ⟨⟨w, closed, h⟩, concluded⟩ does => ⟨h.step does, concluded.step h does⟩) orderly
    ⟨⟨_, _, start⟩, ?_⟩
  intro first outcome later split
  simp at split

theorem Delivers.frames (h : Delivers events s w closed) :
    (∃ texts, texts <+: acceptedTexts events ∧ deliveredFrames events = texts.map .text) ∨
      ∃ reason : CloseReason, s.ClosesFor reason ∧ deliveredFrames events =
        (acceptedTexts events).map .text ++ [.close reason.code reason.text] := by
  have conveys := h.conveys
  cases conveys with
  | serves going isOpen delivered whole =>
    exact .inl ⟨_, whole ▸ List.prefix_append _ _, delivered⟩
  | isStopped stopped shut delivered begun => exact .inl ⟨_, begun, delivered⟩
  | @hasClosed frame stopped shut delivered =>
    obtain ⟨reason, closes, rfl⟩ := h.announced frame rfl
    exact .inr ⟨reason, closes, delivered⟩

/-- In every run the delivered frames are the texts of accepted messages, from the first on and in
their order: either so far, or all that have been accepted in the whole run and behind them the one
close frame, with the code and the text of the reason for which the server is closing or has closed.
Once a connection has ended nothing is delivered, and a connection that has ended in another way has
delivered no close frame. -/
theorem delivery_is_faithful {config : SessionConfig} {connectionId : String} {engine : Engine}
    {interceptors : InterceptorChain} {half : WriteHalf} {now : Nat} {shutdown : Bool}
    (run : Reaches (.new config connectionId engine interceptors half now shutdown) events s) :
    ((∃ texts, texts <+: acceptedTexts events ∧ deliveredFrames events = texts.map .text) ∨
      ∃ reason : CloseReason, s.ClosesFor reason ∧ deliveredFrames events =
        (acceptedTexts events).map .text ++ [.close reason.code reason.text]) ∧
    (∀ first outcome later, events = first ++ .ended outcome :: later →
      s.stage = .ended outcome ∧ deliveredFrames later = [] ∧
      ∀ code text, .delivered (.close code text) ∈ events →
        ∃ reason, outcome = .serverClosed reason ∧ code = reason.code ∧ text = reason.text) := by
  obtain ⟨⟨w, closed, h⟩, concluded⟩ := delivers_of_reaches run
  have frames := h.frames
  refine ⟨frames, fun first outcome later split => ?_⟩
  obtain ⟨ended, silent⟩ := concluded first outcome later split
  refine ⟨ended, silent, fun code text delivered => ?_⟩
  have isFrame : .close code text ∈ deliveredFrames events :=
    List.mem_filterMap.mpr ⟨_, delivered, rfl⟩
  rcases frames with ⟨texts, -, onlyTexts⟩ | ⟨reason, closes, whole⟩
  · simp [onlyTexts] at isFrame
  · have same : code = reason.code ∧ text = reason.text := by simpa [whole] using isFrame
    refine ⟨reason, ?_, same⟩
    rcases closes with ⟨deadline, closing⟩ | isOver
    · simp [ended] at closing
    · exact Stage.ended.inj (ended.symm.trans isOver)

/-- A second handshake closes a connection that has not written anything yet. -/
theorem delivery_of_second_handshake :
    let start := single 256 .direct
    let texts := [Message.encode (.connectionAck none), Message.encode (.pong none)]
    ∃ events last, Reaches start events last ∧
      last.stage = .ended (.serverClosed .tooManyInitRequests) ∧ acceptedTexts events = texts ∧
      deliveredFrames events =
        texts.map .text ++ [.close 4429 "Too many initialisation requests"] := by
  intro start texts
  obtain ⟨events, last, run, seen⟩ := exists_reaches_of_play start
    (hearing (.connectionInit none) ++ hearing (.ping none) ++ hearing (.connectionInit none) ++
      List.replicate 6 (.turn (.relay .writer)) ++ [.turn .connection])
    (fun events last =>
      decide (last.stage = .ended (.serverClosed .tooManyInitRequests)) &&
        decide (deliveredFrames events =
          texts.map .text ++ [.close 4429 "Too many initialisation requests"]))
    (by decide +kernel)
  simp only [Bool.and_eq_true, decide_eq_true_eq] at seen
  obtain ⟨ended, frames⟩ := seen
  refine ⟨events, last, run, ended, ?_, frames⟩
  rcases (delivery_is_faithful run).1 with ⟨others, -, onlyTexts⟩ | ⟨reason, -, whole⟩
  · rw [frames] at onlyTexts
    have isText : OutboundFrame.close 4429 "Too many initialisation requests" ∈
        others.map OutboundFrame.text := by
      rw [← onlyTexts]
      simp
    simp at isText
  · rw [frames] at whole
    have same := (List.append_inj' whole rfl).1
    exact ((List.map_inj_right fun _ _ => OutboundFrame.text.inj).mp same).symm

end Session

end SubscriptionGateway
