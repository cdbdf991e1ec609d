import Mathlib.Data.List.Induction
import Mathlib.Data.List.Nodup

/-!
# What has held since

A history is a list of events, oldest first.  `Since starts ends history` says that one of the
events starts something, and that no later one ends it.  A history decides it from its end
(`since_concat`), so that a state which is kept up to date event by event can be compared with it.
-/

variable {ε : Type*} {starts ends : ε → Prop} {history : List ε} {e : ε}

/-- Something was started and has not been ended since. -/
def Since (starts ends : ε → Prop) (history : List ε) : Prop :=
  ∃ pre e post, history = pre ++ e :: post ∧ starts e ∧ ∀ later ∈ post, ¬ ends later

/-- Nothing has been started before the first event. -/
lemma not_since_nil : ¬ Since starts ends ([] : List ε) := by
  rintro ⟨pre, e, post, heq, -⟩
  simp at heq

/-- One more event: it starts what is asked for, or it does not end it. -/
lemma since_concat :
    Since starts ends (history ++ [e]) ↔ starts e ∨ (¬ ends e ∧ Since starts ends history) := by
  constructor
  · rintro ⟨pre, first, post, heq, hstarts, hends⟩
    rcases List.eq_nil_or_concat post with rfl | ⟨post, last, rfl⟩
    · obtain ⟨-, hlast⟩ := List.append_inj' heq rfl
      exact Or.inl (List.head_eq_of_cons_eq hlast ▸ hstarts)
    · have hassoc : history ++ [e] = (pre ++ first :: post) ++ [last] := by simpa using heq
      obtain ⟨rfl, hlast⟩ := List.append_inj' hassoc rfl
      obtain rfl : e = last := List.head_eq_of_cons_eq hlast
      refine Or.inr ⟨hends e (by simp), pre, first, post, rfl, hstarts, fun later hlater => ?_⟩
      exact hends later (by simp [hlater])
  · rintro (hstarts | ⟨hlast, pre, first, post, rfl, hstarts, hends⟩)
    · exact ⟨history, e, [], rfl, hstarts, fun later hlater => by cases hlater⟩
    · refine ⟨pre, first, post ++ [e], by simp, hstarts, fun later hlater => ?_⟩
      rcases List.mem_append.mp hlater with hold | hnew
      · exact hends later hold
      · rw [List.mem_singleton.mp hnew]
        exact hlast

/-- What an event that happens only once has started is over if one of the events after it ends it.
-/
lemma not_since_of_ended {pre post : List ε} (hpre : e ∉ pre) (hpost : e ∉ post)
    (hended : ∃ later ∈ post, ends later) : ¬ Since (· = e) ends (pre ++ e :: post) := by
  rintro ⟨pre', first, post', heq, rfl, hends⟩
  obtain ⟨rfl, -, rfl⟩ := (List.append_cons_inj_of_notMem hpre hpost).mp heq
  obtain ⟨later, hlater, hend⟩ := hended
  exact hends later hlater hend
