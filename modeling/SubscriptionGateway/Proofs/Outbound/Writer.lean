import SubscriptionGateway.Outbound.Writer

/-! All that a turn of a writer can do. -/
namespace SubscriptionGateway.Writer

inductive Turns (w : Writer) (now : Nat) (q : OutboundQueue) : WriterTurn → Prop where
  | heeds {frame : CloseFrame} (serving : w.activity = .serving)
      (ordered : w.closeOrder = some frame) :
      Turns w now q ⟨{ w with activity := .flushing frame, closeOrder := none }, q, []⟩
  | begins {text : String} {rest : OutboundQueue} {closing : Option CloseFrame}
      (ready : w.activity = afterWrite closing) (taken : q.take? = some (text, rest)) :
      Turns w now q
        ⟨{ w with activity := .writing text (now + w.half.nextFate.delay) closing }, rest, []⟩
  | delivers {text : String} {due : Nat} {closing : Option CloseFrame}
      (writing : w.activity = .writing text due closing) (late : due ≤ now)
      (fate : w.half.nextFate.outcome = .delivered) : Turns w now q (w.complete text closing q)
  | fails {text : String} {due : Nat} {closing : Option CloseFrame}
      (writing : w.activity = .writing text due closing) (late : due ≤ now)
      (fate : w.half.nextFate.outcome = .failed) : Turns w now q (w.stop q [])
  | isDeserted (serving : w.activity = .serving) (alone : q.hasProducers = false) :
      Turns w now q (w.stop q [])
  | closes {frame : CloseFrame} (flushing : w.activity = .flushing frame)
      (empty : q.take? = none) : Turns w now q (w.sendClose frame q)

variable {w : Writer} {now : Nat} {q : OutboundQueue} {taken : WriterTurn}

theorem turns_begin (closing : Option CloseFrame) (ready : w.activity = afterWrite closing)
    (h : w.begin? now q closing = some taken) : w.Turns now q taken := by
  obtain ⟨⟨text, rest⟩, next, rfl⟩ := Option.map_eq_some_iff.mp h
  exact .begins ready next

theorem turns_of_turn (h : w.turn now q = some taken) : w.Turns now q taken := by
  unfold turn at h
  split at h
  · next serving =>
    split at h
    · next frame ordered => cases h; exact .heeds serving ordered
    · split at h
      · next begun => cases h; exact turns_begin none serving begun
      · split at h
        · cases h
        · next alone => cases h; exact .isDeserted serving (by simpa using alone)
  · next text due closing writing =>
    split at h
    · cases h
    · next late =>
      split at h
      · next fate => cases h; exact .delivers writing (by omega) fate
      · next fate => cases h; exact .fails writing (by omega) fate
      · cases h
  · next frame flushing =>
    split at h
    · next begun => cases h; exact turns_begin (some frame) flushing begun
    · next empty => cases h; exact .closes flushing (by simpa [begin?] using empty)
  · cases h

/-- All that a writer tells of is what it has delivered. -/
theorem Turns.delivered (h : w.Turns now q taken) :
    ∀ e ∈ taken.events, ∃ frame, e = .delivered frame := by
  cases h with
  | heeds | begins | fails | isDeserted => simp [stop]
  | delivers => simp [complete]
  | closes => unfold sendClose; split <;> simp [stop]

end SubscriptionGateway.Writer
