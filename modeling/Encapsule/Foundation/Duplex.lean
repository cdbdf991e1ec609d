import Mathlib.Logic.Relation
import Mathlib.Order.GameAdd
import Encapsule.Foundation.Interaction

/-!
# Two programs on a connection

Two programs talk to each other over a connection: each writes to the other, and reads what the
other has written, in order.  A read takes as much as it asks for; while there is less it waits,
and when the other end has ended it takes what is left.  The two ends take their turns in any order
(`Duplex.Steps`).

The order does not matter: the turns of the two ends commute (`Duplex.diamond`), so a conversation
that can end in one way ends in no other, whatever has happened so far (`Duplex.reaches_end`); and
it does not go on for ever (`Duplex.wellFounded_steps`).  What the end is can therefore be worked
out along one order of turns, with the rules `Reaches.left` and `Reaches.right`.
-/

namespace Interaction

variable {O α β : Type}

/-- What an end of a connection does with it. -/
inductive StreamCall (O : Type) where
  | write (buf : List O)
  | read (len : ℕ)
  deriving DecidableEq

/-- What it gets: a read is answered with what has arrived, at most as much as was asked for. -/
abbrev StreamCall.Answer : StreamCall O → Type
  | .write _ => Unit
  | .read _ => List O

/-- The program of one end. -/
abbrev Endpoint (O α : Type) : Type := Prog (@StreamCall.Answer O) α

namespace Endpoint

/-- The program has ended, and with it this end of the connection. -/
def ended : Endpoint O α → Bool
  | .ret _ => true
  | .call _ _ => false

/-- One call, with what has arrived and whether the other end has ended: the rest of the program,
what is left of what has arrived, and what is written. -/
def turn (inbox : List O) (closed : Bool) :
    Endpoint O α → Option (Endpoint O α × List O × List O)
  | .ret _ => none
  | .call (.write buf) k => some (k (), inbox, buf)
  | .call (.read len) k =>
    if len ≤ inbox.length then some (k (inbox.take len), inbox.drop len, [])
    else if closed then some (k inbox, [], [])
    else none

/-- The rest of a program after one call. -/
inductive Follows : Endpoint O α → Endpoint O α → Prop
  | mk {c : StreamCall O} {k : c.Answer → Endpoint O α} (x : c.Answer) :
    Follows (k x) (.call c k)

/-- A program does not go on for ever: by induction on it. -/
lemma wellFounded_follows : WellFounded (@Follows O α) := by
  refine ⟨fun p => ?_⟩
  induction p with
  | ret a => exact ⟨_, fun q h => nomatch h⟩
  | call c k ih =>
    refine ⟨_, fun q h => ?_⟩
    cases h with
    | mk x => exact ih x

variable {p q : Endpoint O α} {inbox inbox' out : List O} {closed : Bool}

/-- The turn of a reader. -/
lemma turn_read_eq_some {len : ℕ} {k : List O → Endpoint O α} :
    turn inbox closed (.call (.read len) k) = some (q, inbox', out) ↔
      len ≤ inbox.length ∧ q = k (inbox.take len) ∧ inbox' = inbox.drop len ∧ out = [] ∨
        inbox.length < len ∧ closed = true ∧ q = k inbox ∧ inbox' = [] ∧ out = [] := by
  have hread : turn inbox closed (.call (.read len) k) =
      if len ≤ inbox.length then some (k (inbox.take len), inbox.drop len, [])
      else if closed then some (k inbox, [], []) else none := rfl
  rw [hread]
  split_ifs with hlen hclosed
  · simp [hlen, not_lt.mpr hlen, eq_comm]
  · simp [hlen, not_le.mp hlen, hclosed, eq_comm]
  · simp [hlen, hclosed]

/-- A turn leaves the rest of the program. -/
lemma follows_of_turn (h : turn inbox closed p = some (q, inbox', out)) : Follows q p := by
  cases p with
  | ret a => cases h
  | call c k =>
    cases c with
    | write buf =>
      cases h
      exact Follows.mk (c := .write _) ()
    | read len =>
      rcases turn_read_eq_some.mp h with ⟨-, rfl, -⟩ | ⟨-, -, rfl, -⟩
      · exact Follows.mk (c := .read len) _
      · exact Follows.mk (c := .read len) _

/-- Who takes a turn has not ended. -/
lemma ended_of_turn (h : turn inbox closed p = some (q, inbox', out)) : p.ended = false := by
  cases p with
  | ret a => cases h
  | call c k => rfl

/-- A turn that does not need the other end to have ended is the same when more has arrived. -/
lemma turn_append (h : turn inbox false p = some (q, inbox', out)) (more : List O)
    (closed : Bool) : turn (inbox ++ more) closed p = some (q, inbox' ++ more, out) := by
  cases p with
  | ret a => cases h
  | call c k =>
    cases c with
    | write buf =>
      cases h
      rfl
    | read len =>
      rcases turn_read_eq_some.mp h with ⟨hlen, rfl, rfl, rfl⟩ | ⟨-, hclosed, -⟩
      · have hmore : len ≤ (inbox ++ more).length := by
          rw [List.length_append]
          omega
        refine turn_read_eq_some.mpr (Or.inl ⟨hmore, ?_, ?_, rfl⟩)
        · rw [List.take_append_of_le_length hlen]
        · rw [List.drop_append_of_le_length hlen]
      · cases hclosed

/-- A program that writes. -/
def write (buf : List O) : Endpoint O Unit := Prog.ask (StreamCall.write buf)

/-- A program that reads. -/
def read (len : ℕ) : Endpoint O (List O) := Prog.ask (StreamCall.read len)

variable {f : List O → Endpoint O α} {len : ℕ}

/-- The turn of a program that begins by writing. -/
lemma turn_write_bind {f : Unit → Endpoint O α} (buf : List O) :
    turn inbox closed ((write buf).bind f) = some (f (), inbox, buf) := rfl

/-- The turn of a program that begins by reading what has arrived. -/
lemma turn_read_bind {octets : List O} (hlen : octets.length = len) (rest : List O) :
    turn (octets ++ rest) closed ((read len).bind f) = some (f octets, rest, []) := by
  have hle : len ≤ (octets ++ rest).length := by
    rw [List.length_append]
    omega
  refine turn_read_eq_some.mpr (Or.inl ⟨hle, ?_, ?_, rfl⟩)
  · rw [List.take_left' hlen]
    rfl
  · rw [List.drop_left' hlen]

/-- The turn of a program that begins by reading more than ever will arrive. -/
lemma turn_read_bind_closed (hshort : inbox.length < len) :
    turn inbox true ((read len).bind f) = some (f inbox, [], []) :=
  turn_read_eq_some.mpr (Or.inr ⟨hshort, rfl, rfl, rfl, rfl⟩)

end Endpoint

/-- Two programs on a connection, with what is on the way in either direction. -/
structure Duplex (O α β : Type) where
  left : Endpoint O α
  right : Endpoint O β
  rightward : List O := []
  leftward : List O := []

/-- The two ends. -/
inductive Side where
  | left
  | right
  deriving DecidableEq

namespace Duplex

open Endpoint

/-- The turn of one end, unless it has to wait or has ended. -/
def step (s : Duplex O α β) : Side → Option (Duplex O α β)
  | .left => (turn s.leftward s.right.ended s.left).map fun (p, inbox, out) =>
    { s with left := p, leftward := inbox, rightward := s.rightward ++ out }
  | .right => (turn s.rightward s.left.ended s.right).map fun (p, inbox, out) =>
    { s with right := p, rightward := inbox, leftward := s.leftward ++ out }

/-- One of the two ends takes its turn. -/
def Steps (s t : Duplex O α β) : Prop := ∃ side, s.step side = some t

/-- The ends take turns in some order. -/
def Reaches : Duplex O α β → Duplex O α β → Prop := Relation.ReflTransGen Steps

/-- Both programs have ended. -/
def Ended (s : Duplex O α β) : Prop := s.left.ended = true ∧ s.right.ended = true

variable {s t d : Duplex O α β}

/-- The turn of the left end. -/
lemma step_left_eq_some :
    s.step .left = some t ↔ ∃ p inbox out,
      turn s.leftward s.right.ended s.left = some (p, inbox, out) ∧
        { s with left := p, leftward := inbox, rightward := s.rightward ++ out } = t := by
  simp only [step, Option.map_eq_some_iff, Prod.exists]

/-- The turn of the right end. -/
lemma step_right_eq_some :
    s.step .right = some t ↔ ∃ p inbox out,
      turn s.rightward s.left.ended s.right = some (p, inbox, out) ∧
        { s with right := p, rightward := inbox, leftward := s.leftward ++ out } = t := by
  simp only [step, Option.map_eq_some_iff, Prod.exists]

/-- The turns of the two ends commute: either only needs what has arrived already. -/
lemma commute {a b : Duplex O α β} (ha : s.step .left = some a) (hb : s.step .right = some b) :
    ∃ c, a.step .right = some c ∧ b.step .left = some c := by
  obtain ⟨p, inbox, out, hleft, rfl⟩ := step_left_eq_some.mp ha
  obtain ⟨q, inbox', out', hright, rfl⟩ := step_right_eq_some.mp hb
  have hl := hleft
  have hr := hright
  rw [ended_of_turn hright] at hl
  rw [ended_of_turn hleft] at hr
  refine ⟨⟨p, q, inbox' ++ out, inbox ++ out'⟩, ?_, ?_⟩
  · exact step_right_eq_some.mpr ⟨q, _, out', turn_append hr out _, rfl⟩
  · exact step_left_eq_some.mpr ⟨p, _, out, turn_append hl out' _, rfl⟩

/-- Two turns from one state are the same, or one turn apart from a common state. -/
lemma diamond {a b : Duplex O α β} (ha : Steps s a) (hb : Steps s b) :
    ∃ c, Relation.ReflGen Steps a c ∧ Relation.ReflTransGen Steps b c := by
  obtain ⟨i, ha⟩ := ha
  obtain ⟨j, hb⟩ := hb
  have hsame (h : i = j) : ∃ c, Relation.ReflGen Steps a c ∧ Relation.ReflTransGen Steps b c := by
    rw [h, hb] at ha
    obtain rfl := Option.some.inj ha
    exact ⟨_, .refl, .refl⟩
  cases i with
  | left =>
    cases j with
    | left => exact hsame rfl
    | right =>
      obtain ⟨c, hac, hbc⟩ := commute ha hb
      exact ⟨c, .single ⟨.right, hac⟩, .single ⟨.left, hbc⟩⟩
  | right =>
    cases j with
    | right => exact hsame rfl
    | left =>
      obtain ⟨c, hbc, hac⟩ := commute hb ha
      exact ⟨c, .single ⟨.left, hac⟩, .single ⟨.right, hbc⟩⟩

/-- Nobody takes a turn when both have ended. -/
lemma Ended.not_steps (h : s.Ended) : ¬Steps s t := by
  rintro ⟨side, hstep⟩
  cases side with
  | left =>
    obtain ⟨p, inbox, out, hturn, -⟩ := step_left_eq_some.mp hstep
    exact Bool.false_ne_true ((ended_of_turn hturn).symm.trans h.1)
  | right =>
    obtain ⟨p, inbox, out, hturn, -⟩ := step_right_eq_some.mp hstep
    exact Bool.false_ne_true ((ended_of_turn hturn).symm.trans h.2)

/-- A conversation that can end in one way always can, whatever has happened so far. -/
theorem reaches_end (hd : Reaches s d) (hend : d.Ended) (ht : Reaches s t) : Reaches t d := by
  obtain ⟨c, htc, hdc⟩ := Relation.church_rosser (fun _ _ _ => diamond) ht hd
  rcases Relation.ReflTransGen.cases_head hdc with rfl | ⟨next, hsteps, -⟩
  · exact htc
  · exact absurd hsteps hend.not_steps

/-- Where nobody can take a turn, the conversation has ended in that way. -/
lemma eq_end_of_not_steps (hd : Reaches s d) (hend : d.Ended) (ht : Reaches s t)
    (hstuck : ∀ next, ¬Steps t next) : t = d := by
  rcases Relation.ReflTransGen.cases_head (reaches_end hd hend ht) with h | ⟨next, hsteps, -⟩
  · exact h
  · exact absurd hsteps (hstuck next)

/-- A conversation does not go on for ever: each turn takes one call off one of the programs. -/
theorem wellFounded_steps : WellFounded fun t s : Duplex O α β => Steps s t := by
  have hpair := (wellFounded_follows (O := O) (α := α)).prod_gameAdd
    (wellFounded_follows (O := O) (α := β))
  refine Subrelation.wf (fun {t s} hsteps => ?_)
    (InvImage.wf (fun s : Duplex O α β => (s.left, s.right)) hpair)
  obtain ⟨side, hstep⟩ := hsteps
  cases side with
  | left =>
    obtain ⟨p, inbox, out, hturn, rfl⟩ := step_left_eq_some.mp hstep
    exact .fst (follows_of_turn hturn)
  | right =>
    obtain ⟨p, inbox, out, hturn, rfl⟩ := step_right_eq_some.mp hstep
    exact .snd (follows_of_turn hturn)

variable {l p : Endpoint O α} {r q : Endpoint O β} {rightward leftward inbox out : List O}

/-- A turn of the left end, and the rest of the conversation. -/
lemma Reaches.left (hturn : turn leftward r.ended l = some (p, inbox, out))
    (h : Reaches ⟨p, r, rightward ++ out, inbox⟩ t) : Reaches ⟨l, r, rightward, leftward⟩ t :=
  .head ⟨.left, step_left_eq_some.mpr ⟨p, inbox, out, hturn, rfl⟩⟩ h

/-- A turn of the right end, and the rest of the conversation. -/
lemma Reaches.right (hturn : turn rightward l.ended r = some (q, inbox, out))
    (h : Reaches ⟨l, q, inbox, leftward ++ out⟩ t) : Reaches ⟨l, r, rightward, leftward⟩ t :=
  .head ⟨.right, step_right_eq_some.mpr ⟨q, inbox, out, hturn, rfl⟩⟩ h

end Duplex

end Interaction
