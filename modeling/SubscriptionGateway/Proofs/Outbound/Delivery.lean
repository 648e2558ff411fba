import SubscriptionGateway.Proofs.Outbound.Room

/-! Texts on their way from the queue to the transport. Between two turns every text that the queue
has accepted is delivered, in the hands of the writer, or still queued, in this order; the close
frame is written by a writer that has none left. -/
namespace SubscriptionGateway

namespace Event

def acceptedText? : Event → Option String
  | .accepted _ message => some message.encode
  | _ => none

end Event

def acceptedTexts (events : List Event) : List String := events.filterMap Event.acceptedText?

def deliveredFrames (events : List Event) : List OutboundFrame :=
  events.filterMap Event.delivered?

section Lists

variable (e : Event) (first second : List Event)

@[simp] theorem acceptedTexts_nil : acceptedTexts [] = [] := rfl

@[simp] theorem deliveredFrames_nil : deliveredFrames [] = [] := rfl

@[simp] theorem acceptedTexts_cons :
    acceptedTexts (e :: first) = e.acceptedText?.toList ++ acceptedTexts first := by
  cases h : e.acceptedText? <;> simp [acceptedTexts, h]

@[simp] theorem deliveredFrames_cons :
    deliveredFrames (e :: first) = e.delivered?.toList ++ deliveredFrames first := by
  cases h : e.delivered? <;> simp [deliveredFrames, h]

@[simp] theorem acceptedTexts_append :
    acceptedTexts (first ++ second) = acceptedTexts first ++ acceptedTexts second :=
  List.filterMap_append

@[simp] theorem deliveredFrames_append :
    deliveredFrames (first ++ second) = deliveredFrames first ++ deliveredFrames second :=
  List.filterMap_append

end Lists

theorem acceptedTexts_of_unoffered {events : List Event}
    (unoffered : ∀ e ∈ events, ¬ e.IsOffer) : acceptedTexts events = [] := by
  refine List.filterMap_eq_nil_iff.mpr fun e member => ?_
  cases e with
  | accepted => exact absurd trivial (unoffered _ member)
  | _ => rfl

namespace OutboundQueue

structure Feeds (q : OutboundQueue) (events : List Event) (after : OutboundQueue) : Prop where
  messages : after.messages = q.messages ++ acceptedTexts events
  isOpen : after.isOpen = q.isOpen
  shut : q.isOpen = false → acceptedTexts events = []
  silent : deliveredFrames events = []

variable {q after : OutboundQueue} {source : Source} {message : Message} {events : List Event}

theorem Feeds.of_same (messages : after.messages = q.messages) (isOpen : after.isOpen = q.isOpen)
    (unaccepted : acceptedTexts events = []) (silent : deliveredFrames events = []) :
    q.Feeds events after :=
  ⟨by simp [messages, unaccepted], isOpen, fun _ => unaccepted, silent⟩

theorem Offers.feeds {why : Option Refusal}
    (offers : q.Offers source message (after, why, events)) : q.Feeds events after := by
  cases offers with
  | accepted isOpen =>
    exact ⟨by simp [Event.acceptedText?], rfl, by simp [isOpen], by simp [Event.delivered?]⟩
  | overflow =>
    refine .of_same rfl rfl ?_ ?_ <;> split <;> simp [Event.acceptedText?, Event.delivered?]
  | closed => exact .of_same rfl rfl (by simp [Event.acceptedText?]) (by simp [Event.delivered?])

theorem feeds_enqueue (q : OutboundQueue) (source : Source) (message : Message) :
    q.Feeds (q.enqueue source message).2.2 (q.enqueue source message).1 :=
  (q.offers_enqueue source message).feeds

theorem Offered.feeds (offered : q.Offered source message events after)
    (silent : deliveredFrames events = []) : q.Feeds events after := by
  cases offered with
  | @among _ before made rest offers whole apart =>
    obtain ⟨earlier, later⟩ := List.forall_mem_append.mp apart
    have accepted : acceptedTexts events = acceptedTexts made := by
      simp [whole, acceptedTexts_of_unoffered earlier, acceptedTexts_of_unoffered later]
    have feeds := offers.feeds
    exact ⟨by rw [accepted, feeds.messages], feeds.isOpen,
      fun gone => accepted.trans (feeds.shut gone), silent⟩

end OutboundQueue

theorem Producer.Turns.feeds {p : Producer} {engine : Engine} {now : Nat} {registry : Registry}
    {queue : OutboundQueue} {taken : ProducerTurn}
    (turned : p.Turns engine now registry queue taken) :
    queue.Feeds taken.events taken.queue := by
  have silent : deliveredFrames taken.events = [] := by
    refine List.filterMap_eq_nil_iff.mpr fun e member => ?_
    cases turned.causes e member <;> rfl
  rcases turned.offers with ⟨-, message, offered⟩ | ⟨same, unoffered⟩
  · exact offered.feeds silent
  · rw [same]
    exact .of_same rfl rfl (acceptedTexts_of_unoffered unoffered) silent

namespace Writer

def inHand (w : Writer) : List String :=
  match w.activity with
  | .writing text _ _ => [text]
  | _ => []

/-- Whether the writer is to close with the frame, from the order on until it stops. -/
def IsOrdered (w : Writer) (frame : CloseFrame) : Prop :=
  w.closeOrder = some frame ∨ w.activity = .flushing frame ∨
    ∃ text due, w.activity = .writing text due (some frame)

/-- Where the texts are: the queue is open just as long as the writer has not stopped. Until then
the accepted texts are those delivered, the one in hand and those queued. A writer that was stopped
has delivered a beginning of them; one that has closed has delivered all, and then its frame. -/
inductive Conveys (w : Writer) (q : OutboundQueue) (accepted : List String)
    (frames : List OutboundFrame) : Option CloseFrame → Prop where
  | serves {texts : List String} (going : w.activity ≠ .stopped) (isOpen : q.isOpen = true)
      (delivered : frames = texts.map .text)
      (whole : accepted = texts ++ (w.inHand ++ q.messages)) : Conveys w q accepted frames none
  | isStopped {texts : List String} (stopped : w.activity = .stopped) (shut : q.isOpen = false)
      (delivered : frames = texts.map .text) (begun : texts <+: accepted) :
      Conveys w q accepted frames none
  | hasClosed {frame : CloseFrame} (stopped : w.activity = .stopped) (shut : q.isOpen = false)
      (delivered : frames = accepted.map .text ++ [.close frame.code frame.reason]) :
      Conveys w q accepted frames (some frame)

variable {w : Writer} {q : OutboundQueue} {accepted : List String} {frames : List OutboundFrame}
  {closed : Option CloseFrame}

theorem Conveys.feed (h : w.Conveys q accepted frames closed) {events : List Event}
    {after : OutboundQueue} (feeds : q.Feeds events after) :
    w.Conveys after (accepted ++ acceptedTexts events) (frames ++ deliveredFrames events)
      closed := by
  rw [feeds.silent, List.append_nil]
  cases h with
  | serves going isOpen delivered whole =>
    refine .serves going (feeds.isOpen.trans isOpen) delivered ?_
    rw [whole, feeds.messages]
    simp only [List.append_assoc]
  | isStopped stopped shut delivered begun =>
    rw [feeds.shut shut, List.append_nil]
    exact .isStopped stopped (feeds.isOpen.trans shut) delivered begun
  | hasClosed stopped shut delivered =>
    rw [feeds.shut shut, List.append_nil]
    exact .hasClosed stopped (feeds.isOpen.trans shut) delivered

theorem Conveys.of_activity (h : w.Conveys q accepted frames closed) (after : Writer)
    (same : after.activity = w.activity) : after.Conveys q accepted frames closed := by
  have inHand : after.inHand = w.inHand := by rw [inHand, inHand, same]
  cases h with
  | serves going isOpen delivered whole =>
    exact .serves (same ▸ going) isOpen delivered (inHand ▸ whole)
  | isStopped stopped shut delivered begun =>
    exact .isStopped (same.trans stopped) shut delivered begun
  | hasClosed stopped shut delivered => exact .hasClosed (same.trans stopped) shut delivered

theorem Conveys.stop (h : w.Conveys q accepted frames closed) :
    (w.stop q []).writer.Conveys (w.stop q []).queue accepted frames closed := by
  cases h with
  | serves going isOpen delivered whole =>
    exact .isStopped rfl rfl delivered (whole ▸ List.prefix_append _ _)
  | isStopped stopped shut delivered begun => exact .isStopped rfl rfl delivered begun
  | hasClosed stopped shut delivered => exact .hasClosed rfl rfl delivered

theorem messages_of_take {text : String} {rest : OutboundQueue}
    (h : q.take? = some (text, rest)) :
    q.messages = text :: rest.messages ∧ rest.isOpen = q.isOpen := by
  unfold OutboundQueue.take? at h
  split at h
  · cases h
  · next found => cases h; exact ⟨found, rfl⟩

theorem messages_of_take_none (h : q.take? = none) : q.messages = [] := by
  unfold OutboundQueue.take? at h
  split at h
  · assumption
  · cases h

theorem inHand_of_ready {closing : Option CloseFrame} (ready : w.activity = afterWrite closing) :
    w.inHand = [] ∧ w.activity ≠ .stopped := by
  cases closing <;> simp [inHand, ready, afterWrite]

theorem Turns.going {now : Nat} {taken : WriterTurn} (turned : w.Turns now q taken) :
    w.activity ≠ .stopped := by
  cases turned with
  | begins ready => exact (inHand_of_ready ready).2
  | heeds active | delivers active | fails active | isDeserted active | closes active =>
    simp [active]

/-- A turn of the writer moves a text on, closes behind the last one, or stops. -/
theorem Turns.conveys {now : Nat} {taken : WriterTurn} (turned : w.Turns now q taken)
    (h : w.Conveys q accepted frames closed) :
    ∃ closed, taken.writer.Conveys taken.queue (accepted ++ acceptedTexts taken.events)
        (frames ++ deliveredFrames taken.events) closed ∧
      ∀ frame ∈ closed, w.IsOrdered frame := by
  have going := turned.going
  cases h with
  | isStopped stopped | hasClosed stopped => exact absurd stopped going
  | @serves texts _ isOpen delivered whole =>
    subst delivered
    have unchanged := List.append_nil (texts.map OutboundFrame.text)
    cases turned with
    | heeds serving ordered =>
      refine ⟨none, .serves (by simp) isOpen unchanged ?_, by simp⟩
      simpa [inHand, serving] using whole
    | @begins text rest closing ready taken =>
      obtain ⟨split, stays⟩ := messages_of_take taken
      rw [(inHand_of_ready ready).1, split] at whole
      refine ⟨none, .serves (by simp) (stays.trans isOpen) unchanged ?_, by simp⟩
      simpa [inHand] using whole
    | @delivers text due closing writing =>
      have goesOn : afterWrite closing ≠ .stopped := by cases closing <;> simp [afterWrite]
      have empty : (w.complete text closing q).writer.inHand = [] := by
        cases closing <;> rfl
      have delivered : texts.map OutboundFrame.text ++ [.text text] =
          (texts ++ [text]).map OutboundFrame.text := by simp
      refine ⟨none, .serves goesOn isOpen delivered ?_, by simp⟩
      rw [empty]
      simpa [complete, Event.acceptedText?, inHand, writing] using whole
    | fails writing | isDeserted serving =>
      refine ⟨none, ?_, by simp⟩
      have stopped := Conveys.stop (.serves going isOpen rfl whole)
      simpa [Writer.stop] using stopped
    | @closes frame flushing empty =>
      -- Nothing is in hand or queued, so that the frame comes behind all texts.
      have last := messages_of_take_none empty
      have all : accepted = texts := by simpa [inHand, flushing, last] using whole
      subst all
      unfold sendClose
      split
      · refine ⟨some frame, .hasClosed rfl rfl ?_, ?_⟩
        · simp [stop, Event.delivered?, Event.acceptedText?]
        · intro other same
          cases same
          exact .inr (.inl flushing)
      · refine ⟨none, ?_, by simp⟩
        have stopped := Conveys.stop (.serves going isOpen rfl whole)
        simpa [Writer.stop] using stopped

theorem Turns.ordered {now : Nat} {taken : WriterTurn} (turned : w.Turns now q taken)
    {frame : CloseFrame} (h : taken.writer.IsOrdered frame) : w.IsOrdered frame := by
  cases turned with
  | @heeds heeded serving ordered =>
    obtain rfl : heeded = frame := by simpa [IsOrdered] using h
    exact .inl ordered
  | @begins text rest closing ready taken =>
    cases closing <;> simp_all [IsOrdered, afterWrite]
  | @delivers text due closing writing =>
    cases closing <;> simp_all [IsOrdered, complete, afterWrite]
  | fails | isDeserted => exact .inl (by simpa [IsOrdered, stop] using h)
  | closes => exact .inl (by unfold sendClose at h; split at h <;> simpa [IsOrdered, stop] using h)

end Writer

end SubscriptionGateway
