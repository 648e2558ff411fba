import SubscriptionGateway.Proofs.Session.Closings
import SubscriptionGateway.Proofs.Session.Delivery
import SubscriptionGateway.Proofs.Session.Refusals
import SubscriptionGateway.Proofs.Wire.RoundTrip
import SubscriptionGateway.Server.Socket

/-! The texts of close frames, and whether a close frame can carry them. All of them are short but
the one that repeats an id, and an id is as long as the client likes. -/
namespace SubscriptionGateway

namespace CloseReason

theorem size_subscriberExists (id : String) :
    (subscriberExists id).text.utf8ByteSize = 30 + id.utf8ByteSize := by
  have before : "Subscriber for ".utf8ByteSize = 15 := by decide
  have behind : " already exists".utf8ByteSize = 15 := by decide
  show ("Subscriber for " ++ id ++ " already exists").utf8ByteSize = 30 + id.utf8ByteSize
  rw [String.utf8ByteSize_append, String.utf8ByteSize_append, before, behind]
  omega

/-- A close frame can carry the text of every reason, unless that repeats an id of more than 93
bytes. -/
theorem size_text_le_iff (reason : CloseReason) :
    reason.text.utf8ByteSize ≤ closeTextLimit ↔
      ∀ id, reason = .subscriberExists id → id.utf8ByteSize ≤ 93 := by
  cases reason with
  | subscriberExists id =>
    rw [size_subscriberExists, closeTextLimit, controlLimit]
    constructor
    · rintro fits _ ⟨⟩
      omega
    · intro short
      have := short id rfl
      omega
  | _ => exact iff_of_true (by decide) (by simp)

end CloseReason

namespace Session

variable {past events : List Event} {s after : Session}

def Asked (events : List Event) (id : String) : Prop :=
  ∃ frame payload, .arrived (some (.ok frame)) ∈ events ∧
    frame.message? = some (.subscribe id payload)

theorem message_of_subscriberExists {message : Message} {id : String}
    (forbidden : s.objection? message = some (.subscriberExists id)) :
    ∃ payload, message = .subscribe id payload := by
  unfold objection? at forbidden
  split at forbidden
  · cases forbidden
  · cases forbidden
  · cases forbidden
  · split at forbidden
    · cases forbidden
      exact ⟨_, rfl⟩
    · cases forbidden
  · cases forbidden
  · cases forbidden
  · cases forbidden
  · cases forbidden

theorem rejection_ne_subscriberExists (phase : Phase) (error : DecodeError) (id : String) :
    rejection phase error ≠ .subscriberExists id := by
  unfold rejection
  split
  · split <;> simp
  · simp

theorem Takes.asked {item : InboundItem} (taken : s.Takes item events after) {id : String}
    (closing : .closing (.subscriberExists id) ∈ events) :
    ∃ frame payload, item = .ok frame ∧ frame.message? = some (.subscribe id payload) := by
  cases taken with
  | rejects =>
    have same := Event.closing.inj (List.mem_singleton.mp closing)
    exact absurd same.symm (rejection_ne_subscriberExists _ _ _)
  | @objects frame message reason decoded forbidden =>
    obtain rfl := Event.closing.inj (List.mem_singleton.mp closing)
    obtain ⟨payload, rfl⟩ := message_of_subscriberExists forbidden
    exact ⟨frame, payload, rfl, decoded⟩
  | greets =>
    have sent := (List.mem_cons.mp closing).resolve_left (by simp)
    simpa using OutboundQueue.mem_enqueue sent
  | replies => simpa using OutboundQueue.mem_enqueue closing
  | parts | breaks | enrols | cancels | ignores => simp at closing

theorem Does.asked (does : s.Does events after) {id : String}
    (closing : .closing (.subscriberExists id) ∈ events) : Asked events id := by
  cases does with
  | hears running room next taken =>
    obtain ⟨frame, payload, rfl, decoded⟩ :=
      taken.asked ((List.mem_cons.mp closing).resolve_left (by simp))
    exact ⟨frame, payload, List.mem_cons_self, decoded⟩
  | writes present turned =>
    obtain ⟨frame, made⟩ := turned.delivered _ closing
    cases made
  | produces found turned => cases turned.causes _ closing
  | ticks => simpa using OutboundQueue.mem_enqueue closing
  | overflows | timesOut | goesAway | hearsEnd | finishes | givesUp | isStirred => simp at closing

theorem asked_of_closing {start : Session} (run : Reaches start events s) (orderly : start.Orderly)
    {id : String} (closing : .closing (.subscriberExists id) ∈ events) : Asked events id := by
  induction run with
  | refl => cases closing
  | step head tail ih =>
    have does := does_of_step orderly head
    rcases List.mem_append.mp closing with now | later
    · obtain ⟨frame, payload, arrived, decoded⟩ := does.asked now
      exact ⟨frame, payload, List.mem_append_left _ arrived, decoded⟩
    · obtain ⟨frame, payload, arrived, decoded⟩ := ih (does.orderly orderly) later
      exact ⟨frame, payload, List.mem_append_right _ arrived, decoded⟩

theorem closing_of_closesFor (told : Told events s) {reason : CloseReason}
    (closes : s.ClosesFor reason) : .closing reason ∈ events := by
  refine mem_closings.mp ?_
  rw [told.closings]
  rcases closes with ⟨deadline, closing⟩ | ended
  · simp [closing, Stage.reason?]
  · simp [ended, Stage.reason?]

/-- In every run, a close frame that is handed to the transport has the code and the text of a
reason for which the server has decided to close. A close frame can carry that text exactly if it
does not repeat an id of more than 93 bytes, and an id that it repeats is one with which the client
has sent a `subscribe`. -/
theorem close_frame_fits_iff {config : SessionConfig} {connectionId : String} {engine : Engine}
    {interceptors : InterceptorChain} {half : WriteHalf} {now : Nat} {shutdown : Bool}
    (run : Reaches (.new config connectionId engine interceptors half now shutdown) events s)
    {code : Nat} {text : String} (delivered : .delivered (.close code text) ∈ events) :
    ∃ reason, .closing reason ∈ events ∧ code = reason.code ∧ text = reason.text ∧
      (text.utf8ByteSize ≤ closeTextLimit ↔
        ∀ id, reason = .subscriberExists id → id.utf8ByteSize ≤ 93) ∧
      ∀ id, reason = .subscriberExists id → Asked events id := by
  obtain ⟨⟨w, closed, delivers⟩, -⟩ := delivers_of_reaches run
  have isFrame : .close code text ∈ deliveredFrames events :=
    List.mem_filterMap.mpr ⟨_, delivered, rfl⟩
  rcases delivers.frames with ⟨texts, -, onlyTexts⟩ | ⟨reason, closes, whole⟩
  · simp [onlyTexts] at isFrame
  · obtain ⟨rfl, rfl⟩ : code = reason.code ∧ text = reason.text := by
      simpa [whole] using isFrame
    have closing := closing_of_closesFor (told_of_reaches run) closes
    refine ⟨reason, closing, rfl, rfl, reason.size_text_le_iff, ?_⟩
    rintro id rfl
    exact asked_of_closing run (orderly_new ..) closing

theorem decode_subscribing (id : String) :
    Message.decode (subscribing id).encode = .ok (subscribing id) := by
  have canonical : (subscribing id).Canonical := by constructor <;> simp
  have depth : (subscribing id).toJson.depth = 2 := rfl
  exact Message.decode_of_shallow canonical (by rw [depth]; decide)

/-- What hearing a message does to a connection that has nothing else to hear. -/
theorem reaches_hearing {message : Message} (running : s.stage = .running)
    (room : s.queue.overflowed = false) (quiet : s.inbound = .empty)
    (decodes : Message.decode message.encode = .ok message) :
    Reaches s (.arrived (some (.ok (.text message.encode))) :: (s.takeMessage message).2)
      (s.takeMessage message).1 := by
  have next : (s.stimulate (.deliver (.ok (.text message.encode)))).inbound.next =
      .item (.ok (.text message.encode)) .empty := by
    simp [stimulate, quiet, Inbound.deliver, Inbound.empty, Inbound.next]
  have heard : { s.stimulate (.deliver (.ok (.text message.encode))) with
      inbound := Inbound.empty } = s := by
    rw [← quiet]
    rfl
  have turned := connectionTurn_of_next
    (s := s.stimulate (.deliver (.ok (.text message.encode)))) running room next
  rw [heard, takeItem, decodes, takeDecoded] at turned
  have taken := Step.task (show turn _ .connection = _ from turned)
  simpa [withArrival] using Reaches.step (.stimulus s _) (.step taken (.refl _))

/-- A client that sends a `subscribe` twice gets a close frame with its id, whatever that is. -/
theorem exists_close_of_taken_id (id : String) : ∃ events s,
    Reaches (single 256 .direct) events s ∧
      .delivered (.close 4409 (CloseReason.subscriberExists id).text) ∈ events := by
  let greeted := ((single 256 .direct).takeMessage (.connectionInit none)).1
  let asked := (greeted.takeMessage (subscribing id)).1
  have taken : asked.takeMessage (subscribing id) = asked.close (.subscriberExists id) := by
    have held : Registry.register ⟨[(id, 1)], 1, false, []⟩ id = .error (.alreadyExists id) := by
      simp [Registry.register, Registry.contains, Registry.seq?]
    have refused : asked.registry.register id = .error (.alreadyExists id) := held
    show asked.subscribe id _ = _
    rw [subscribe, refused]
  have greets : Reaches (single 256 .direct) _ greeted :=
    reaches_hearing rfl rfl rfl (by decide +kernel)
  have asks : Reaches greeted _ asked := reaches_hearing rfl rfl rfl (decode_subscribing id)
  have asksAgain : Reaches asked _ (asked.takeMessage (subscribing id)).1 :=
    reaches_hearing rfl rfl rfl (decode_subscribing id)
  rw [taken] at asksAgain
  have writes : Reaches (asked.close (.subscriberExists id)).1
      [.delivered (.text (Message.connectionAck none).encode),
        .delivered (.close 4409 (CloseReason.subscriberExists id).text)] _ :=
    reaches_of_play (show play (List.replicate 4 (.turn (.relay .writer))) _ = some (_, _) from rfl)
  refine ⟨_, _, ((greets.trans asks).trans asksAgain).trans writes, List.mem_append_right _ ?_⟩
  exact List.mem_cons_of_mem _ (List.mem_singleton_self _)

/-- The theorem at an id of 94 bytes: its close frame is too long for the transport. -/
theorem close_frame_of_long_id :
    let text := (CloseReason.subscriberExists (String.ofList (List.replicate 94 'x'))).text
    ∃ events s, Reaches (single 256 .direct) events s ∧ .delivered (.close 4409 text) ∈ events ∧
      ∃ id, Asked events id ∧ 93 < id.utf8ByteSize := by
  intro text
  obtain ⟨events, s, run, delivered⟩ := exists_close_of_taken_id (String.ofList (.replicate 94 'x'))
  have long : ¬ text.utf8ByteSize ≤ closeTextLimit := by decide +kernel
  obtain ⟨reason, -, -, -, fits, asked⟩ := close_frame_fits_iff run delivered
  obtain ⟨id, same, size⟩ : ∃ id, reason = .subscriberExists id ∧ ¬ id.utf8ByteSize ≤ 93 := by
    simpa using mt fits.mpr long
  exact ⟨events, s, run, delivered, id, asked id same, Nat.lt_of_not_le size⟩

/-- An id of 47 characters, each of two bytes: the text has 77 characters, which are 124 bytes, and
the client does not see the close frame. -/
theorem close_frame_is_lost :
    let text := (CloseReason.subscriberExists (String.ofList (List.replicate 47 'é'))).text
    ∃ events s, Reaches (single 256 .direct) events s ∧ .delivered (.close 4409 text) ∈ events ∧
      text.length = 77 ∧ text.utf8ByteSize = 124 ∧ closeTextLimit < text.utf8ByteSize ∧
      ClientView.ofEvent? (.delivered (.close 4409 text)) = none := by
  intro text
  obtain ⟨events, s, run, delivered⟩ := exists_close_of_taken_id (String.ofList (.replicate 47 'é'))
  have size : text.utf8ByteSize = 124 := by decide +kernel
  have long : closeTextLimit < text.utf8ByteSize := by rw [size]; decide
  have unseen : ClientView.ofEvent? (.delivered (.close 4409 text)) = none := by
    simp only [ClientView.ofEvent?, if_pos long]
  exact ⟨events, s, run, delivered, by decide +kernel, size, long, unseen⟩

end Session

end SubscriptionGateway
