import EventGateway.Command.Message
import EventGateway.Event.Frame
import Mathlib.Tactic.Lemma

/-!
# How frames begin

What a frame is can be told from its first characters: an event with its payload, the placeholder of a
comment, the greeting and a reply all begin differently.
-/

namespace EventGateway

open Json

/-- The first characters of a frame that tell what it is. -/
def frameStart (frame : String) : List Char := frame.toList.take 8

lemma chars_op : stringChars "op" = ['"', 'o', 'p', '"'] := by decide

lemma frameStart_frame (e : Event) :
    frameStart e.frame = ['{', '"', 'o', 'p', '"', ':', '"', 'e'] := by
  have hevent : stringChars "event" = ['"', 'e', 'v', 'e', 'n', 't', '"'] := by decide
  simp [frameStart, Event.frame, chars_op, hevent]

lemma frameStart_hiddenFrame (e : Event) :
    frameStart e.hiddenFrame = ['{', '"', 'd', '"', ':', '{', '"', 'c'] := by
  have hd : stringChars "d" = ['"', 'd', '"'] := by decide
  have hcomments : stringChars "comments" =
      ['"', 'c', 'o', 'm', 'm', 'e', 'n', 't', 's', '"'] := by decide
  simp [frameStart, Event.hiddenFrame, Event.hiddenComment, Value.render, Value.chars, hd, hcomments]

lemma frameStart_helloFrame (id : String) (interval : Nat) :
    frameStart (helloFrame id interval) = ['{', '"', 'o', 'p', '"', ':', '"', 'h'] := by
  have hhello : stringChars "hello" = ['"', 'h', 'e', 'l', 'l', 'o', '"'] := by decide
  simp [frameStart, helloFrame, Value.render, Value.chars, chars_op, hhello]

lemma frameStart_renderReply (reference : Option UInt64)
    (result : Except CommandError (List (String × Value))) :
    frameStart (renderReply reference result) = ['{', '"', 'o', 'p', '"', ':', '"', 'r'] := by
  have hreply : stringChars "reply" = ['"', 'r', 'e', 'p', 'l', 'y', '"'] := by decide
  simp [frameStart, renderReply, replyFrame, Value.render, Value.chars, chars_op, hreply]

/-- Is the text one of the frames of an event? -/
def IsEventFrame (text : String) : Prop := ∃ e : Event, text = e.frame ∨ text = e.hiddenFrame

/-- The payload is never taken for the placeholder. -/
lemma frame_ne_hiddenFrame (e e' : Event) : e.frame ≠ e'.hiddenFrame := by
  intro h
  have := congrArg frameStart h
  rw [frameStart_frame, frameStart_hiddenFrame] at this
  simp at this

lemma not_isEventFrame_helloFrame (id : String) (interval : Nat) :
    ¬ IsEventFrame (helloFrame id interval) := by
  rintro ⟨e, h | h⟩
  · simpa [frameStart_frame, frameStart_helloFrame] using congrArg frameStart h
  · simpa [frameStart_hiddenFrame, frameStart_helloFrame] using congrArg frameStart h

lemma not_isEventFrame_renderReply (reference : Option UInt64)
    (result : Except CommandError (List (String × Value))) :
    ¬ IsEventFrame (renderReply reference result) := by
  rintro ⟨e, h | h⟩
  · simpa [frameStart_frame, frameStart_renderReply] using congrArg frameStart h
  · simpa [frameStart_hiddenFrame, frameStart_renderReply] using congrArg frameStart h

end EventGateway
