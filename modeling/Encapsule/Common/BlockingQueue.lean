import Mathlib.Algebra.BigOperators.Group.List.Basic
import Mathlib.Algebra.Ring.Nat
import Encapsule.Foundation.LossyFifo

/-!
# The blocking queue

`blocking_queue` of `queue.hpp`: items under a lock, and a channel of tokens that wakes those who
wait for an item.  The two are changed at different moments, by different threads.

* `BlockingQueue`: the items, the counter of drops and the channel, with the critical sections and
  the channel operations as functions.
* `ChannelLaws`: what is used of the channel operations.
* `QueueRun.step`: the steps of any number of `push`, `pop` and `cancel` calls, in any order.
* `report_accounting`: no item is invented, repeated or reordered, and all are accounted for.
* `no_lost_wakeup`: there are tokens, or sends of tokens, for all items.
-/

namespace Encapsule

/-- A `pop` that is in progress. -/
abbrev PopId := ℕ

/-- `blocking_queue`.  The last three fields are the channel: the tokens in its buffer, the number
of sends that wait for room in the buffer, and the receives that wait for a token. -/
structure BlockingQueue (α : Type*) where
  max : ℕ
  capacity : ℕ
  items : List α := []
  drops : ℕ := 0
  tokens : ℕ := 0
  sends : ℕ := 0
  receives : List PopId := []

namespace BlockingQueue

variable {α : Type*}

/-- The critical section of `push`, and whether a token is needed. -/
def pushItem (q : BlockingQueue α) (item : α) : BlockingQueue α × Bool :=
  if q.capacity ≠ 0 ∧ q.capacity ≤ q.items.length then
    ({ q with items := q.items.tail ++ [item], drops := q.drops + 1 }, false)
  else ({ q with items := q.items ++ [item] }, true)

/-- `async_send` on the channel, and the receive that it completes. -/
def asyncSend (q : BlockingQueue α) : BlockingQueue α × Option PopId :=
  match q.receives with
  | p :: receives => ({ q with receives }, some p)
  | [] =>
    if q.tokens < q.max then ({ q with tokens := q.tokens + 1 }, none)
    else ({ q with sends := q.sends + 1 }, none)

/-- `async_receive` on the channel, and whether it completes without waiting.  A send that waits
takes the place of the token that is handed out. -/
def asyncReceive (q : BlockingQueue α) (p : PopId) : BlockingQueue α × Bool :=
  match q.sends, q.tokens with
  | sends + 1, _ => ({ q with sends }, true)
  | 0, tokens + 1 => ({ q with tokens }, true)
  | 0, 0 => ({ q with receives := q.receives ++ [p] }, false)

/-- The critical section of `pop`. -/
def takeItem (q : BlockingQueue α) : BlockingQueue α × Option α :=
  match q.items with
  | [] => (q, none)
  | item :: items => ({ q with items }, some item)

/-- `chan.cancel()`: sends and receives that wait are aborted, tokens in the buffer stay. -/
def abort (q : BlockingQueue α) : BlockingQueue α × List PopId :=
  ({ q with sends := 0, receives := [] }, q.receives)

/-- The critical section of `cancel`, and the number of items it removed. -/
def drain (q : BlockingQueue α) : BlockingQueue α × ℕ := ({ q with items := [] }, q.items.length)

end BlockingQueue

/-- A queue and the calls on it that are in progress. -/
structure QueueRun (α : Type*) where
  queue : BlockingQueue α
  /-- The sends that `push` calls have asked for and that have not started. -/
  spawned : ℕ := 0
  /-- The pops that have a token and have not entered their critical section with it. -/
  granted : List PopId := []
  /-- The pops whose receive was aborted and that have not thrown yet. -/
  aborted : List PopId := []
  /-- The number of `cancel` calls between their abort and their drain. -/
  aborting : ℕ := 0
  /-- The `cancel` calls between their drain and their update of the counter: what each drained. -/
  draining : List ℕ := []

/-- A step of one of the calls. -/
inductive QueueAction (α : Type*) where
  /-- The critical section of a `push`. -/
  | push (item : α)
  /-- A token send starts. -/
  | send
  /-- A `pop` is called. -/
  | pop (p : PopId)
  /-- A `pop` with a token runs its critical section, and waits again if there is no item. -/
  | take (p : PopId)
  /-- A `pop` that was aborted throws. -/
  | unwind (p : PopId)
  /-- The first half of a `cancel`. -/
  | abort
  /-- The second half of a `cancel`, up to the end of its critical section. -/
  | drain
  /-- A `cancel` adds what it drained to the counter. -/
  | count (i : ℕ)

namespace QueueRun

variable {α : Type*}

/-- A queue that nobody has used. -/
def start (α : Type*) (max capacity : ℕ) : QueueRun α := { queue := { max, capacity } }

/-- A `pop` receives from the channel. -/
def receive (s : QueueRun α) (p : PopId) : QueueRun α :=
  let (queue, now) := s.queue.asyncReceive p
  { s with queue, granted := if now then s.granted ++ [p] else s.granted }

/-- One step, and the item that a `pop` returns with. -/
def step (s : QueueRun α) : QueueAction α → QueueRun α × Option α
  | .push item =>
    let (queue, tokenNeeded) := s.queue.pushItem item
    ({ s with queue, spawned := if tokenNeeded then s.spawned + 1 else s.spawned }, none)
  | .send =>
    match s.spawned with
    | 0 => (s, none)
    | spawned + 1 =>
      let (queue, receiver) := s.queue.asyncSend
      ({ s with queue, spawned, granted := s.granted ++ receiver.toList }, none)
  | .pop p => (s.receive p, none)
  | .take p =>
    if p ∈ s.granted then
      let s := { s with granted := s.granted.erase p }
      match s.queue.takeItem with
      | (_, none) => (s.receive p, none)
      | (queue, some item) => ({ s with queue }, some item)
    else (s, none)
  | .unwind p => ({ s with aborted := s.aborted.erase p }, none)
  | .abort =>
    let (queue, aborted) := s.queue.abort
    ({ s with queue, aborted := s.aborted ++ aborted, aborting := s.aborting + 1 }, none)
  | .drain =>
    match s.aborting with
    | 0 => (s, none)
    | aborting + 1 =>
      let (queue, stranded) := s.queue.drain
      ({ s with queue, aborting, draining := s.draining ++ [stranded] }, none)
  | .count i =>
    match s.draining[i]? with
    | none => (s, none)
    | some stranded =>
      ({ s with
        queue := { s.queue with drops := s.queue.drops + stranded }
        draining := s.draining.eraseIdx i }, none)

end QueueRun

/-! ## What the operations do -/

namespace BlockingQueue

variable {α : Type*}

/-- What the channel documents of its operations, on the tokens in its buffer and the sends and the
receives that wait. -/
structure ChannelLaws (send : BlockingQueue α → BlockingQueue α × Option PopId)
    (receive : BlockingQueue α → PopId → BlockingQueue α × Bool)
    (cancel : BlockingQueue α → BlockingQueue α × List PopId) : Prop where
  /-- A send completes the receive that has waited longest. -/
  send_completes : ∀ q p receives, q.receives = p :: receives →
    send q = ({ q with receives }, some p)
  /-- A send that no receive waits for leaves one token more, in the buffer or in front of it. -/
  send_leaves : ∀ q, q.receives = [] → ∃ tokens sends,
    tokens + sends = q.tokens + q.sends + 1 ∧ send q = ({ q with tokens, sends }, none)
  /-- A receive waits where there is neither token nor send, behind those that wait already. -/
  receive_waits : ∀ q p, q.tokens = 0 → q.sends = 0 →
    receive q p = ({ q with receives := q.receives ++ [p] }, false)
  /-- A receive takes one token where there is any. -/
  receive_takes : ∀ q p, 0 < q.tokens + q.sends → ∃ tokens sends,
    tokens + sends + 1 = q.tokens + q.sends ∧ receive q p = ({ q with tokens, sends }, true)
  /-- What waits is aborted, and the tokens in the buffer stay. -/
  cancel_aborts : ∀ q, cancel q = ({ q with sends := 0, receives := [] }, q.receives)

/-- The operations of the channel keep its laws. -/
lemma channelLaws : ChannelLaws (asyncSend : BlockingQueue α → _) asyncReceive abort where
  send_completes q p receives hreceives := by simp only [asyncSend, hreceives]
  send_leaves q hnone := by
    simp only [asyncSend, hnone]
    by_cases hroom : q.tokens < q.max
    · exact ⟨q.tokens + 1, q.sends, by omega, if_pos hroom⟩
    · exact ⟨q.tokens, q.sends + 1, by omega, if_neg hroom⟩
  receive_waits q p htokens hsends := by simp only [asyncReceive, htokens, hsends]
  receive_takes q p hany := by
    obtain ⟨max, capacity, items, drops, tokens, sends, receives⟩ := q
    cases sends with
    | succ sends => exact ⟨tokens, sends, by simp only; omega, rfl⟩
    | zero =>
      cases tokens with
      | succ tokens => exact ⟨tokens, 0, rfl, rfl⟩
      | zero => exact absurd hany (Nat.lt_irrefl 0)
  cancel_aborts _ := rfl

/-- A send completes a receive that waits, or leaves a token or a send behind. -/
lemma asyncSend_cases (q : BlockingQueue α) :
    (∃ p receives, q.receives = p :: receives ∧ q.asyncSend = ({ q with receives }, some p)) ∨
      q.receives = [] ∧ ∃ tokens sends, tokens + sends = q.tokens + q.sends + 1 ∧
        q.asyncSend = ({ q with tokens, sends }, none) := by
  cases hreceives : q.receives with
  | cons p receives =>
    exact Or.inl ⟨p, receives, rfl, channelLaws.send_completes q p receives hreceives⟩
  | nil =>
    obtain ⟨tokens, sends, hsum, heq⟩ := channelLaws.send_leaves q hreceives
    exact Or.inr ⟨rfl, tokens, sends, hsum, by rw [heq, hreceives]⟩

/-- A receive waits where there is neither token nor send, or takes one. -/
lemma asyncReceive_cases (q : BlockingQueue α) (p : PopId) :
    (q.tokens = 0 ∧ q.sends = 0 ∧
        q.asyncReceive p = ({ q with receives := q.receives ++ [p] }, false)) ∨
      ∃ tokens sends, tokens + sends + 1 = q.tokens + q.sends ∧
        q.asyncReceive p = ({ q with tokens, sends }, true) := by
  by_cases hany : 0 < q.tokens + q.sends
  · exact Or.inr (channelLaws.receive_takes q p hany)
  · have htokens : q.tokens = 0 := by omega
    have hsends : q.sends = 0 := by omega
    exact Or.inl ⟨htokens, hsends, channelLaws.receive_waits q p htokens hsends⟩

end BlockingQueue

namespace QueueRun

variable {α : Type*}

/-- A `pop` waits where there is neither token nor send, or is granted one. -/
lemma receive_cases (s : QueueRun α) (p : PopId) :
    (s.queue.tokens = 0 ∧ s.queue.sends = 0 ∧ s.receive p =
        { s with queue := { s.queue with receives := s.queue.receives ++ [p] } }) ∨
      ∃ tokens sends, tokens + sends + 1 = s.queue.tokens + s.queue.sends ∧ s.receive p =
        { s with queue := { s.queue with tokens, sends }, granted := s.granted ++ [p] } := by
  unfold receive
  rcases s.queue.asyncReceive_cases p with ⟨htokens, hsends, heq⟩ | ⟨tokens, sends, hsum, heq⟩
  · exact Or.inl ⟨htokens, hsends, by rw [heq]; rfl⟩
  · exact Or.inr ⟨tokens, sends, hsum, by rw [heq]; rfl⟩

/-- A send that starts grants its token to a `pop` that waits, or leaves it behind. -/
lemma step_send_cases (s : QueueRun α) :
    (s.spawned = 0 ∧ s.step .send = (s, none)) ∨
      ∃ spawned, s.spawned = spawned + 1 ∧
        ((∃ p receives, s.queue.receives = p :: receives ∧ s.step .send =
            ({ s with queue := { s.queue with receives }, spawned, granted := s.granted ++ [p] },
              none)) ∨
          s.queue.receives = [] ∧
            ∃ tokens sends, tokens + sends = s.queue.tokens + s.queue.sends + 1 ∧
              s.step .send =
                ({ s with queue := { s.queue with tokens, sends }, spawned }, none)) := by
  cases hspawned : s.spawned with
  | zero => exact Or.inl ⟨rfl, by simp only [step, hspawned]⟩
  | succ spawned =>
    refine Or.inr ⟨spawned, rfl, ?_⟩
    rcases s.queue.asyncSend_cases with ⟨p, receives, hreceives, heq⟩ | ⟨hnone, t, n, hsum, heq⟩
    · exact Or.inl ⟨p, receives, hreceives, by simp only [step, hspawned, heq]; rfl⟩
    · refine Or.inr ⟨hnone, t, n, hsum, ?_⟩
      simp only [step, hspawned, heq, Option.toList_none, List.append_nil]

/-- A `pop` in its critical section takes the first item, or waits again. -/
lemma step_take_cases (s : QueueRun α) (p : PopId) :
    (p ∉ s.granted ∧ s.step (.take p) = (s, none)) ∨
      p ∈ s.granted ∧
        ((s.queue.items = [] ∧ s.step (.take p) =
            (({ s with granted := s.granted.erase p } : QueueRun α).receive p, none)) ∨
          ∃ item items, s.queue.items = item :: items ∧ s.step (.take p) =
            ({ s with queue := { s.queue with items }, granted := s.granted.erase p },
              some item)) := by
  by_cases hgranted : p ∈ s.granted
  · refine Or.inr ⟨hgranted, ?_⟩
    simp only [step, if_pos hgranted, BlockingQueue.takeItem]
    cases hitems : s.queue.items with
    | nil => exact Or.inl ⟨rfl, rfl⟩
    | cons item items => exact Or.inr ⟨item, items, rfl, rfl⟩
  · exact Or.inl ⟨hgranted, by simp only [step, if_neg hgranted]⟩

/-- A `cancel` aborts the sends and the receives that wait. -/
lemma step_abort (s : QueueRun α) : s.step .abort =
    ({ s with
      queue := { s.queue with sends := 0, receives := [] }
      aborted := s.aborted ++ s.queue.receives
      aborting := s.aborting + 1 }, none) := by
  simp only [step, BlockingQueue.channelLaws.cancel_aborts]

/-- A `cancel` removes all items, and remembers how many. -/
lemma step_drain_cases (s : QueueRun α) :
    (s.aborting = 0 ∧ s.step .drain = (s, none)) ∨
      ∃ aborting, s.aborting = aborting + 1 ∧ s.step .drain =
        ({ s with
          queue := { s.queue with items := [] }
          aborting
          draining := s.draining ++ [s.queue.items.length] }, none) := by
  cases haborting : s.aborting with
  | zero => exact Or.inl ⟨rfl, by simp only [step, haborting]⟩
  | succ aborting =>
    exact Or.inr ⟨aborting, rfl, by simp only [step, haborting, BlockingQueue.drain]⟩

/-- A `cancel` adds to the counter what it remembered. -/
lemma step_count_cases (s : QueueRun α) (i : ℕ) :
    s.step (.count i) = (s, none) ∨
      ∃ stranded, s.draining[i]? = some stranded ∧ s.step (.count i) =
        ({ s with
          queue := { s.queue with drops := s.queue.drops + stranded }
          draining := s.draining.eraseIdx i }, none) := by
  cases hstranded : s.draining[i]? with
  | none => exact Or.inl (by simp only [step, hstranded])
  | some stranded => exact Or.inr ⟨stranded, rfl, by simp only [step, hstranded]⟩

/-! ## Accounting -/

/-- The items that a step pushes. -/
def pushes (_ : QueueRun α) : QueueAction α → List α
  | .push item => [item]
  | _ => []

/-- The items that a step returns from a `pop`. -/
def takes (s : QueueRun α) (action : QueueAction α) : List α := (s.step action).2.toList

/-- The items that are in the queue, and those that were thrown away. -/
def leftover (s : QueueRun α) : ℕ := s.queue.items.length + s.queue.drops + s.draining.sum

/-- Receiving is no business of the items. -/
lemma receive_items (s : QueueRun α) (p : PopId) :
    (s.receive p).queue.items = s.queue.items ∧ (s.receive p).leftover = s.leftover ∧
      (s.receive p).queue.capacity = s.queue.capacity := by
  rcases s.receive_cases p with ⟨-, -, heq⟩ | ⟨tokens, sends, -, heq⟩ <;> rw [heq]
  · exact ⟨rfl, rfl, rfl⟩
  · exact ⟨rfl, rfl, rfl⟩

/-- Sending is no business of the items. -/
lemma step_send_items (s : QueueRun α) :
    (s.step .send).1.queue.items = s.queue.items ∧ (s.step .send).1.leftover = s.leftover ∧
      (s.step .send).1.queue.capacity = s.queue.capacity ∧ s.takes .send = [] := by
  unfold takes
  rcases s.step_send_cases with ⟨-, heq⟩ | ⟨n, -, ⟨p, receives, -, heq⟩ | ⟨-, t, m, -, heq⟩⟩ <;>
    rw [heq]
  · exact ⟨rfl, rfl, rfl, rfl⟩
  · exact ⟨rfl, rfl, rfl, rfl⟩
  · exact ⟨rfl, rfl, rfl, rfl⟩

/-- A push into a queue that is full removes the oldest item and no other. -/
lemma step_push_full {s : QueueRun α} (hcapacity : s.queue.capacity ≠ 0)
    (hfull : s.queue.capacity ≤ s.queue.items.length) (item : α) :
    (s.step (.push item)).1 = { s with
      queue := { s.queue with
        items := s.queue.items.tail ++ [item]
        drops := s.queue.drops + 1 } } := by
  simp [step, BlockingQueue.pushItem, hcapacity, hfull]

/-- A push into a queue with room removes nothing. -/
lemma step_push_room {s : QueueRun α}
    (hroom : ¬ (s.queue.capacity ≠ 0 ∧ s.queue.capacity ≤ s.queue.items.length)) (item : α) :
    (s.step (.push item)).1 = { s with
      queue := { s.queue with items := s.queue.items ++ [item] }, spawned := s.spawned + 1 } := by
  simp only [step, BlockingQueue.pushItem, if_neg hroom, if_true]

/-- No step changes the capacity, and none leaves more items than it allows. -/
lemma bounded_step (s : QueueRun α) (action : QueueAction α) (c : ℕ)
    (h : s.queue.capacity = c ∧ (c ≠ 0 → s.queue.items.length ≤ c)) :
    (s.step action).1.queue.capacity = c ∧ (c ≠ 0 → (s.step action).1.queue.items.length ≤ c) := by
  obtain ⟨rfl, hbound⟩ := h
  cases action with
  | push item =>
    by_cases hfull : s.queue.capacity ≠ 0 ∧ s.queue.capacity ≤ s.queue.items.length
    · rw [step_push_full hfull.1 hfull.2]
      refine ⟨rfl, fun hcapacity => ?_⟩
      have hlen := hbound hcapacity
      simp only [List.length_append, List.length_tail, List.length_singleton]
      omega
    · rw [step_push_room hfull]
      refine ⟨rfl, fun hcapacity => ?_⟩
      have hlen : ¬ s.queue.capacity ≤ s.queue.items.length := fun hle => hfull ⟨hcapacity, hle⟩
      rw [List.length_append, List.length_singleton]
      omega
  | send =>
    obtain ⟨hitems, -, hcapacity, -⟩ := s.step_send_items
    rw [hitems, hcapacity]
    exact ⟨rfl, hbound⟩
  | pop p =>
    obtain ⟨hitems, -, hcapacity⟩ := s.receive_items p
    exact ⟨hcapacity, by rw [← hitems] at hbound; exact hbound⟩
  | take p =>
    rcases s.step_take_cases p with ⟨-, heq⟩ | ⟨-, ⟨-, heq⟩ | ⟨item, items, hitems, heq⟩⟩ <;>
      rw [heq]
    · exact ⟨rfl, hbound⟩
    · obtain ⟨hitems, -, hcapacity⟩ :=
        ({ s with granted := s.granted.erase p } : QueueRun α).receive_items p
      exact ⟨hcapacity, by rw [hitems]; exact hbound⟩
    · refine ⟨rfl, fun hcapacity => ?_⟩
      have hlen := hbound hcapacity
      rw [hitems, List.length_cons] at hlen
      exact Nat.le_of_succ_le hlen
  | unwind p => exact ⟨rfl, hbound⟩
  | abort =>
    rw [step_abort]
    exact ⟨rfl, hbound⟩
  | drain =>
    rcases s.step_drain_cases with ⟨-, heq⟩ | ⟨aborting, -, heq⟩ <;> rw [heq]
    · exact ⟨rfl, hbound⟩
    · exact ⟨rfl, fun _ => Nat.zero_le _⟩
  | count i =>
    rcases s.step_count_cases i with heq | ⟨stranded, -, heq⟩ <;> rw [heq]
    · exact ⟨rfl, hbound⟩
    · exact ⟨rfl, hbound⟩

/-- Each step hands on the items: it takes from the front, adds at the back, and may lose some. -/
lemma passes_step (s : QueueRun α) (action : QueueAction α) :
    LossyFifo.Passes s.queue.items (s.pushes action) (s.takes action)
      (s.step action).1.queue.items := by
  cases action with
  | push item =>
    by_cases hfull : s.queue.capacity ≠ 0 ∧ s.queue.capacity ≤ s.queue.items.length
    · rw [step_push_full hfull.1 hfull.2]
      have hdrop := LossyFifo.Passes.of_sublist s.queue.items.tail_sublist
      exact hdrop.trans (LossyFifo.Passes.push _ item)
    · rw [step_push_room hfull]
      exact LossyFifo.Passes.push _ item
  | send =>
    obtain ⟨hitems, -, -, htakes⟩ := s.step_send_items
    rw [hitems, htakes]
    exact LossyFifo.Passes.refl _
  | pop p =>
    have hitems := (s.receive_items p).1
    change LossyFifo.Passes _ _ _ (s.receive p).queue.items
    rw [hitems]
    exact LossyFifo.Passes.refl _
  | take p =>
    unfold takes
    rcases s.step_take_cases p with ⟨-, heq⟩ | ⟨-, ⟨-, heq⟩ | ⟨item, items, hitems, heq⟩⟩ <;>
      rw [heq]
    · exact LossyFifo.Passes.refl _
    · rw [(receive_items _ p).1]
      exact LossyFifo.Passes.refl _
    · rw [hitems]
      exact LossyFifo.Passes.pop item items
  | unwind p => exact LossyFifo.Passes.refl _
  | abort =>
    rw [takes, step_abort]
    exact LossyFifo.Passes.refl _
  | drain =>
    unfold takes
    rcases s.step_drain_cases with ⟨-, heq⟩ | ⟨aborting, -, heq⟩ <;> rw [heq]
    · exact LossyFifo.Passes.refl _
    · exact LossyFifo.Passes.clear _
  | count i =>
    unfold takes
    rcases s.step_count_cases i with heq | ⟨stranded, -, heq⟩ <;> rw [heq]
    · exact LossyFifo.Passes.refl _
    · exact LossyFifo.Passes.refl _

/-- Each step adds what it pushes to the items that are there or were thrown away, and takes away
what it returns. -/
lemma leftover_step (s : QueueRun α) (action : QueueAction α) :
    (s.step action).1.leftover + (s.takes action).length =
      s.leftover + (s.pushes action).length := by
  cases action with
  | push item =>
    change (s.step (.push item)).1.leftover + 0 = s.leftover + 1
    by_cases hfull : s.queue.capacity ≠ 0 ∧ s.queue.capacity ≤ s.queue.items.length
    · have hpos : 0 < s.queue.items.length := by omega
      rw [step_push_full hfull.1 hfull.2]
      simp only [leftover, List.length_append, List.length_tail, List.length_singleton]
      omega
    · rw [step_push_room hfull]
      simp only [leftover, List.length_append, List.length_singleton]
      omega
  | send =>
    obtain ⟨-, hleftover, -, htakes⟩ := s.step_send_items
    rw [hleftover, htakes]
    rfl
  | pop p =>
    have hleftover := (s.receive_items p).2.1
    change (s.receive p).leftover + 0 = s.leftover + 0
    rw [hleftover]
  | take p =>
    change _ = s.leftover + 0
    unfold takes
    rcases s.step_take_cases p with ⟨-, heq⟩ | ⟨-, ⟨-, heq⟩ | ⟨item, items, hitems, heq⟩⟩ <;>
      rw [heq]
    · rfl
    · exact (receive_items _ p).2.1
    · simp only [leftover, hitems, List.length_cons, Option.toList_some, List.length_nil]
      omega
  | unwind p => rfl
  | abort =>
    rw [takes, step_abort]
    rfl
  | drain =>
    change _ = s.leftover + 0
    unfold takes
    rcases s.step_drain_cases with ⟨-, heq⟩ | ⟨aborting, -, heq⟩ <;> rw [heq]
    · rfl
    · simp only [leftover, List.sum_append, List.sum_singleton, List.length_nil, Option.toList_none]
      omega
  | count i =>
    change _ = s.leftover + 0
    unfold takes
    rcases s.step_count_cases i with heq | ⟨stranded, hstranded, heq⟩ <;> rw [heq]
    · rfl
    · obtain ⟨hi, hget⟩ := List.getElem?_eq_some_iff.mp hstranded
      have hsum : stranded + (s.draining.eraseIdx i).sum = s.draining.sum := by
        rw [← hget, ← List.sum_cons]
        exact (List.getElem_cons_eraseIdx_perm hi).sum_eq
      simp only [leftover, Option.toList_none, List.length_nil]
      omega

/-- In every state of every run a bounded queue holds no more than its capacity; what pops have
returned is a subsequence of what was pushed; an overflow removes the oldest item, and where there
is room nothing is removed; and unless a `cancel` has yet to update the counter, everything that was
pushed was returned, is queued or is counted as dropped. -/
theorem report_accounting (max capacity : ℕ) (actions : List (QueueAction α)) :
    let s := Mealy.run step (start α max capacity) actions
    let pushed := Mealy.collect step pushes (start α max capacity) actions
    let taken := Mealy.collect step takes (start α max capacity) actions
    (capacity ≠ 0 → s.queue.items.length ≤ capacity) ∧
      taken.Sublist pushed ∧
      (∀ item, capacity ≠ 0 → s.queue.items.length = capacity → ∃ oldest items,
        s.queue.items = oldest :: items ∧ (s.step (.push item)).1 = { s with
          queue := { s.queue with items := items ++ [item], drops := s.queue.drops + 1 } }) ∧
      (∀ item, ¬ (capacity ≠ 0 ∧ s.queue.items.length = capacity) →
        (s.step (.push item)).1 = { s with
          queue := { s.queue with items := s.queue.items ++ [item] }
          spawned := s.spawned + 1 }) ∧
      (s.draining = [] →
        pushed.length = taken.length + s.queue.items.length + s.queue.drops) := by
  intro s pushed taken
  obtain ⟨hcapacity, hbound⟩ : s.queue.capacity = capacity ∧
      (capacity ≠ 0 → s.queue.items.length ≤ capacity) :=
    Mealy.run_invariant (fun s action => bounded_step s action capacity)
      ⟨rfl, fun _ => Nat.zero_le _⟩ actions
  have hpasses : LossyFifo.Passes [] pushed taken s.queue.items :=
    LossyFifo.Passes.run passes_step (start α max capacity) actions
  have hbalance : s.leftover + taken.length = 0 + pushed.length :=
    Mealy.balance (P := fun _ => True) (fun _ _ _ => trivial)
      (fun s action _ => leftover_step s action) trivial actions
  refine ⟨hbound, hpasses.outs_sublist, ?_, ?_, ?_⟩
  · intro item hbounded hfull
    have hpos : s.queue.items ≠ [] := by
      intro hnil
      rw [hnil, List.length_nil] at hfull
      exact hbounded hfull.symm
    obtain ⟨oldest, items, hitems⟩ := List.exists_cons_of_ne_nil hpos
    refine ⟨oldest, items, hitems, ?_⟩
    rw [step_push_full (by omega) (by omega), hitems, List.tail_cons]
  · intro item hroom
    refine step_push_room (fun h => hroom ⟨by omega, ?_⟩) item
    have hle := hbound (by omega)
    omega
  · intro hdraining
    unfold leftover at hbalance
    rw [hdraining, List.sum_nil] at hbalance
    omega

/-! ## Wakeups -/

/-- The tokens there are, and the sends and the pops that stand for one. -/
def supply (s : QueueRun α) : ℕ :=
  s.queue.tokens + s.queue.sends + s.spawned + s.granted.length

/-- There is a token for each item, unless a `cancel` has aborted sends and is about to drain the
items they stood for; and receives wait only where there is neither token nor send. -/
structure Woken (s : QueueRun α) : Prop where
  covered : s.aborting = 0 → s.queue.items.length ≤ s.supply
  settled : s.queue.receives ≠ [] → s.queue.tokens = 0 ∧ s.queue.sends = 0

variable {s : QueueRun α}

/-- A receive passes on the token it takes. -/
lemma Woken.receive (h : s.Woken) (p : PopId) : (s.receive p).Woken := by
  obtain ⟨hcovered, hsettled⟩ := h
  unfold supply at hcovered
  rcases s.receive_cases p with ⟨htokens, hsends, heq⟩ | ⟨tokens, sends, hsum, heq⟩ <;> rw [heq]
  · exact ⟨hcovered, fun _ => ⟨htokens, hsends⟩⟩
  · refine ⟨fun hnone => ?_, fun hwait => ?_⟩
    · have hle := hcovered hnone
      simp only [supply, List.length_append, List.length_singleton]
      omega
    · have hzero := hsettled hwait
      simp only
      omega

/-- A pop gives up its token when it finds no item. -/
lemma Woken.forgo (h : s.Woken) (hitems : s.queue.items = []) (p : PopId) :
    ({ s with granted := s.granted.erase p } : QueueRun α).Woken := by
  refine ⟨fun _ => ?_, h.settled⟩
  rw [hitems, List.length_nil]
  exact Nat.zero_le _

/-- The tokens keep up with the items in every step. -/
lemma woken_step (s : QueueRun α) (action : QueueAction α) (h : s.Woken) :
    (s.step action).1.Woken := by
  have ⟨hcovered, hsettled⟩ := h
  unfold supply at hcovered
  cases action with
  | push item =>
    by_cases hfull : s.queue.capacity ≠ 0 ∧ s.queue.capacity ≤ s.queue.items.length
    · rw [step_push_full hfull.1 hfull.2]
      refine ⟨fun hnone => ?_, hsettled⟩
      have hle := hcovered hnone
      simp only [supply, List.length_append, List.length_tail, List.length_singleton]
      omega
    · rw [step_push_room hfull]
      refine ⟨fun hnone => ?_, hsettled⟩
      have hle := hcovered hnone
      simp only [supply, List.length_append, List.length_singleton]
      omega
  | send =>
    rcases s.step_send_cases with
      ⟨-, heq⟩ | ⟨n, hn, ⟨p, receives, hwait, heq⟩ | ⟨hwait, t, m, hsum, heq⟩⟩ <;> rw [heq]
    · exact h
    · -- A receive was waiting, so the buffer is empty and stays so.
      refine ⟨fun hnone => ?_, fun _ => hsettled (hwait ▸ List.cons_ne_nil _ _)⟩
      have hle := hcovered hnone
      simp only [supply, List.length_append, List.length_singleton]
      omega
    · refine ⟨fun hnone => ?_, fun hne => absurd hwait hne⟩
      have hle := hcovered hnone
      simp only [supply]
      omega
  | pop p => exact h.receive p
  | take p =>
    rcases s.step_take_cases p with
      ⟨-, heq⟩ | ⟨hp, ⟨hitems, heq⟩ | ⟨item, items, hitems, heq⟩⟩ <;> rw [heq]
    · exact h
    · exact (h.forgo hitems p).receive p
    · refine ⟨fun hnone => ?_, hsettled⟩
      have hle := hcovered hnone
      have hpos := List.length_pos_of_mem hp
      rw [hitems, List.length_cons] at hle
      simp only [supply, List.length_erase_of_mem hp]
      omega
  | unwind p => exact ⟨hcovered, hsettled⟩
  | abort =>
    rw [step_abort]
    exact ⟨fun hnone => absurd hnone (Nat.succ_ne_zero _), fun hne => absurd rfl hne⟩
  | drain =>
    rcases s.step_drain_cases with ⟨-, heq⟩ | ⟨aborting, -, heq⟩ <;> rw [heq]
    · exact h
    · exact ⟨fun _ => Nat.zero_le _, hsettled⟩
  | count i =>
    rcases s.step_count_cases i with heq | ⟨stranded, -, heq⟩ <;> rw [heq]
    · exact h
    · exact ⟨hcovered, hsettled⟩

/-- In every state of every run in which no `cancel` is between its abort and its drain, the tokens
in the buffer, the sends that wait or have not started and the pops that have a token are at least
as many as the items.  So there are no items where no send is outstanding, no pop has a token and
some pop waits. -/
theorem no_lost_wakeup (max capacity : ℕ) (actions : List (QueueAction α)) :
    let s := Mealy.run step (start α max capacity) actions
    s.aborting = 0 →
      s.queue.items.length ≤
          s.queue.tokens + s.queue.sends + s.spawned + s.granted.length ∧
        (s.queue.sends = 0 → s.spawned = 0 → s.granted = [] → s.queue.receives ≠ [] →
          s.queue.items = []) := by
  intro s hnone
  have hwoken : s.Woken :=
    Mealy.run_invariant (P := Woken) (fun s action h => woken_step s action h)
      ⟨fun _ => Nat.zero_le _, fun hne => absurd rfl hne⟩ actions
  have hcovered := hwoken.covered hnone
  refine ⟨hcovered, fun hsends hspawned hgranted hwait => ?_⟩
  have htokens := (hwoken.settled hwait).1
  unfold supply at hcovered
  rw [htokens, hsends, hspawned, hgranted, List.length_nil] at hcovered
  exact List.length_eq_zero_iff.mp (Nat.le_zero.mp hcovered)

/-- A push after a `cancel` that drained another item, before its token is sent. -/
theorem no_lost_wakeup_push_after_cancel :
    let s := Mealy.run step (start ℕ 1 4) [.push 1, .send, .abort, .drain, .push 2, .pop 0]
    s.queue.items = [2] ∧ s.aborting = 0 ∧
      s.queue.items.length ≤
        s.queue.tokens + s.queue.sends + s.spawned + s.granted.length := by
  intro s
  have haborting : s.aborting = 0 := rfl
  exact ⟨rfl, haborting, (no_lost_wakeup 1 4
    [.push 1, .send, .abort, .drain, .push 2, .pop 0] haborting).1⟩

end QueueRun

end Encapsule
