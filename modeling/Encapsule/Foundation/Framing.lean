import Mathlib.Data.List.Basic

/-!
# Streams of frames

A reader takes one message off the front of a stream and leaves the rest.  `readFrames` reads as
many as there are.  If a reader undoes a way of writing one frame, whatever follows it, then it
undoes a whole sequence of frames (`readFrames_flatMap`).
-/

namespace Framing

variable {α M : Type*}

/-- Reads `n` messages in a row. -/
def readFrames (read : List α → Option (M × List α)) : ℕ → List α → Option (List M × List α)
  | 0, stream => some ([], stream)
  | n + 1, stream =>
    match read stream with
    | none => none
    | some (msg, stream) =>
      match readFrames read n stream with
      | none => none
      | some (msgs, stream) => some (msg :: msgs, stream)

/-- A reader that undoes each of the frames undoes their concatenation. -/
theorem readFrames_flatMap {read : List α → Option (M × List α)} {frame : M → List α}
    {msgs : List M} (h : ∀ msg ∈ msgs, ∀ rest, read (frame msg ++ rest) = some (msg, rest))
    (rest : List α) :
    readFrames read msgs.length (msgs.flatMap frame ++ rest) = some (msgs, rest) := by
  induction msgs with
  | nil => rfl
  | cons msg msgs ih =>
    have hfirst := h msg List.mem_cons_self (msgs.flatMap frame ++ rest)
    have hothers := ih fun msg hmsg => h msg (List.mem_cons_of_mem _ hmsg)
    rw [List.flatMap_cons, List.append_assoc, List.length_cons, readFrames]
    simp only [hfirst, hothers]

end Framing
