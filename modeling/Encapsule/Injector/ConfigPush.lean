import Mathlib.Data.List.Perm.Basic
import Encapsule.Common.AsyncIo
import Encapsule.Foundation.Mealy

/-!
# Pushing configurations to a session

Every `config` coroutine of a session writes one message to the socket of the session, with
`async_write_message`: the length, a suspension, the body.  `broadcast_config` and `process` start
such coroutines whenever they like, and nothing orders the writes of two of them.

* `ConfigPushes.step`: a coroutine is started, or resumed until its next write.
* `ConfigPushes.stream_of_exclusive`: the stream is whole frames if no coroutine starts to write
  while another one is between its two writes.
-/

namespace Encapsule

/-- Where a `config` coroutine is suspended. -/
inductive WriteStage where
  /-- Before the write of the length. -/
  | length
  /-- Between the two writes. -/
  | body
  | done
  /-- The length does not fit: the buffer of a negative length throws. -/
  | failed
  deriving DecidableEq

/-- A `config` coroutine. -/
structure ConfigWriter where
  cfg : InjectorConfig
  stage : WriteStage
  deriving DecidableEq

/-- The `config` coroutines of a session and the octets written to its socket. -/
structure ConfigPushes where
  writers : List ConfigWriter := []
  stream : Bytes := []
  deriving DecidableEq

/-- What the executor of a session does. -/
inductive PushAction where
  | spawn (cfg : InjectorConfig)
  | resume (i : ℕ)
  deriving DecidableEq

namespace ConfigPushes

variable (coder : MessageCoder InjectorMessage)

/-- The encoded message of a configuration. -/
def body (cfg : InjectorConfig) : Bytes := coder.encode (createConfigMessage cfg)

/-- Where a coroutine goes from a stage, and the octets it writes on the way. -/
def advance (cfg : InjectorConfig) : WriteStage → WriteStage × Bytes
  | .length =>
    if (body coder cfg).length < int32Bound then (.body, lengthOctets (body coder cfg).length)
    else (.failed, [])
  | .body => (.done, body coder cfg)
  | .done => (.done, [])
  | .failed => (.failed, [])

/-- One action, and the octets it writes. -/
def step (s : ConfigPushes) : PushAction → ConfigPushes × Bytes
  | .spawn cfg => ({ s with writers := s.writers ++ [⟨cfg, .length⟩] }, [])
  | .resume i =>
    match s.writers[i]? with
    | none => (s, [])
    | some w =>
      let (stage, octets) := advance coder w.cfg w.stage
      ({ writers := s.writers.set i ⟨w.cfg, stage⟩, stream := s.stream ++ octets }, octets)

/-- The configurations that a list of actions pushes. -/
def pushed (actions : List PushAction) : List InjectorConfig :=
  actions.filterMap fun
    | .spawn cfg => some cfg
    | .resume _ => none

/-- The length field can announce the message of a configuration. -/
def Fits (cfg : InjectorConfig) : Prop := (body coder cfg).length < int32Bound

/-- The action does not start a write while a coroutine is between its two writes, and starts none
of a message that is too long. -/
def Exclusive (s : ConfigPushes) : PushAction → Prop
  | .spawn _ => True
  | .resume i => ∀ w ∈ s.writers[i]?, w.stage = .length →
    (∀ w' ∈ s.writers, w'.stage ≠ .body) ∧ Fits coder w.cfg

instance (cfg : InjectorConfig) : Decidable (Fits coder cfg) :=
  inferInstanceAs (Decidable ((body coder cfg).length < int32Bound))

instance (s : ConfigPushes) (action : PushAction) : Decidable (Exclusive coder s action) :=
  match action with
  | .spawn _ => instDecidableTrue
  | .resume i => inferInstanceAs (Decidable (∀ w ∈ s.writers[i]?, w.stage = .length →
      (∀ w' ∈ s.writers, w'.stage ≠ .body) ∧ Fits coder w.cfg))

/-! ## The invariant -/

/-- The frame of a configuration. -/
def frameOf (cfg : InjectorConfig) : Bytes := coder.frame (createConfigMessage cfg)

/-- The stream is the frames of the finished coroutines, in the order `order`, followed by the
length in front of the body of the coroutine that is between its writes, if there is one. -/
inductive Framed (s : ConfigPushes) (order : List InjectorConfig) : Prop
  | whole (rest : List ConfigWriter) (writers : s.writers.Perm (order.map (⟨·, .done⟩) ++ rest))
      (waiting : ∀ w ∈ rest, w.stage = .length) (fits : ∀ cfg ∈ order, Fits coder cfg)
      (stream : s.stream = order.flatMap (frameOf coder))
  | cut (cfg : InjectorConfig) (rest : List ConfigWriter)
      (writers : s.writers.Perm (order.map (⟨·, .done⟩) ++ ⟨cfg, .body⟩ :: rest))
      (waiting : ∀ w ∈ rest, w.stage = .length) (fits : ∀ cfg' ∈ order ++ [cfg], Fits coder cfg')
      (stream : s.stream = order.flatMap (frameOf coder) ++ lengthOctets (body coder cfg).length)

variable {coder} {s : ConfigPushes} {order : List InjectorConfig}

/-- A coroutine of the pool in front of the others, before and after it moves on. -/
lemma perm_of_getElem? {l : List ConfigWriter} {i : ℕ} {w : ConfigWriter} (h : l[i]? = some w)
    (w' : ConfigWriter) : l.Perm (w :: l.eraseIdx i) ∧ (l.set i w').Perm (w' :: l.eraseIdx i) := by
  obtain ⟨hi, rfl⟩ := List.getElem?_eq_some_iff.mp h
  exact ⟨(List.getElem_cons_eraseIdx_perm hi).symm, List.set_perm_cons_eraseIdx hi w'⟩

/-- What is left of a pool when one coroutine is taken out of its unfinished part. -/
lemma perm_rest {others done rest rest' : List ConfigWriter} {w : ConfigWriter}
    (hwriters : (w :: others).Perm (done ++ rest)) (hrest : rest.Perm (w :: rest')) :
    others.Perm (done ++ rest') := by
  have hfront : (w :: others).Perm (w :: (done ++ rest')) :=
    (hwriters.trans (hrest.append_left done)).trans List.perm_middle
  exact hfront.cons_inv

/-- An unfinished coroutine of the pool is in its unfinished part. -/
lemma mem_rest {l rest : List ConfigWriter} {w : ConfigWriter}
    (hwriters : l.Perm (order.map (⟨·, .done⟩) ++ rest)) (hw : w ∈ l) (hstage : w.stage ≠ .done) :
    w ∈ rest := by
  rcases List.mem_append.mp (hwriters.mem_iff.mp hw) with hdone | hrest
  · obtain ⟨cfg, -, rfl⟩ := List.mem_map.mp hdone
    exact absurd rfl hstage
  · exact hrest

/-- A new coroutine waits. -/
lemma Framed.spawn (h : Framed coder s order) (cfg : InjectorConfig) :
    Framed coder (step coder s (.spawn cfg)).1 order := by
  have hwaiting {rest : List ConfigWriter} (h : ∀ w ∈ rest, w.stage = .length) :
      ∀ w ∈ rest ++ [⟨cfg, .length⟩], w.stage = .length := by
    intro w hw
    rcases List.mem_append.mp hw with hw | hw
    · exact h w hw
    · rw [List.mem_singleton.mp hw]
  cases h with
  | whole rest writers waiting fits stream =>
    refine .whole (rest ++ [⟨cfg, .length⟩]) ?_ (hwaiting waiting) fits stream
    rw [← List.append_assoc]
    exact writers.append_right _
  | cut cfg' rest writers waiting fits stream =>
    refine .cut cfg' (rest ++ [⟨cfg, .length⟩]) ?_ (hwaiting waiting) fits stream
    rw [← List.cons_append, ← List.append_assoc]
    exact writers.append_right _

/-- A coroutine writes a length after whole frames. -/
lemma Framed.writeLength (h : Framed coder s order) {i : ℕ} {cfg : InjectorConfig}
    (hi : s.writers[i]? = some ⟨cfg, .length⟩) (hexclusive : Exclusive coder s (.resume i)) :
    Framed coder (step coder s (.resume i)).1 order := by
  obtain ⟨hnone, hfits⟩ := hexclusive _ hi rfl
  obtain ⟨hbefore, hafter⟩ := perm_of_getElem? hi ⟨cfg, .body⟩
  simp only [step, hi, advance, if_pos (show (body coder cfg).length < int32Bound from hfits)]
  cases h with
  | whole rest writers waiting fits stream =>
    have hmem : ⟨cfg, .length⟩ ∈ rest :=
      mem_rest writers (List.mem_of_getElem? hi) (by simp)
    have hrest := List.perm_cons_erase hmem
    have hothers := perm_rest (hbefore.symm.trans writers) hrest
    refine .cut cfg (rest.erase ⟨cfg, .length⟩) ?_ ?_ ?_ (by rw [stream])
    · exact (hafter.trans (hothers.cons _)).trans List.perm_middle.symm
    · intro w hw
      exact waiting w (List.mem_of_mem_erase hw)
    · intro cfg' hcfg'
      rcases List.mem_append.mp hcfg' with horder | hlast
      · exact fits cfg' horder
      · rw [List.mem_singleton.mp hlast]
        exact hfits
  | cut cfg' rest writers waiting fits stream =>
    have hmem : ⟨cfg', .body⟩ ∈ s.writers := writers.mem_iff.mpr (by simp)
    exact absurd rfl (hnone _ hmem)

/-- A coroutine writes the body that belongs to the last length. -/
lemma Framed.writeBody (h : Framed coder s order) {i : ℕ} {cfg : InjectorConfig}
    (hi : s.writers[i]? = some ⟨cfg, .body⟩) :
    Framed coder (step coder s (.resume i)).1 (order ++ [cfg]) := by
  obtain ⟨hbefore, hafter⟩ := perm_of_getElem? hi ⟨cfg, .done⟩
  simp only [step, hi, advance]
  cases h with
  | whole rest writers waiting fits stream =>
    have hmem : ⟨cfg, .body⟩ ∈ rest := mem_rest writers (List.mem_of_getElem? hi) (by simp)
    cases waiting _ hmem
  | cut cfg' rest writers waiting fits stream =>
    have hmem := mem_rest writers (List.mem_of_getElem? hi) (by simp)
    obtain rfl : cfg = cfg' := by
      rcases List.mem_cons.mp hmem with heq | hrest
      · exact congrArg ConfigWriter.cfg heq
      · cases waiting _ hrest
    have hothers := perm_rest (hbefore.symm.trans writers) (List.Perm.refl _)
    refine .whole rest ?_ waiting fits ?_
    · rw [List.map_append, List.map_singleton, List.append_assoc, List.singleton_append]
      exact (hafter.trans (hothers.cons _)).trans List.perm_middle.symm
    · rw [stream, List.flatMap_append, List.flatMap_singleton, List.append_assoc]
      rfl

/-- A finished or failed coroutine is not resumed to any effect. -/
lemma step_resume_of_ended {i : ℕ} {w : ConfigWriter} (hi : s.writers[i]? = some w)
    (hended : w.stage = .done ∨ w.stage = .failed) : (step coder s (.resume i)).1 = s := by
  obtain ⟨cfg, stage⟩ := w
  obtain ⟨hlt, hget⟩ := List.getElem?_eq_some_iff.mp hi
  have hset : s.writers.set i ⟨cfg, stage⟩ = s.writers := by rw [← hget, List.set_getElem_self]
  rcases hended with rfl | rfl
  · simp only [step, hi, advance, hset, List.append_nil]
  · simp only [step, hi, advance, hset, List.append_nil]

/-- The invariant is kept by every action that is exclusive. -/
lemma framed_step {action : PushAction} (hexclusive : Exclusive coder s action)
    (h : ∃ order, Framed coder s order) : ∃ order, Framed coder (step coder s action).1 order := by
  obtain ⟨order, h⟩ := h
  cases action with
  | spawn cfg => exact ⟨order, h.spawn cfg⟩
  | resume i =>
    cases hi : s.writers[i]? with
    | none =>
      refine ⟨order, ?_⟩
      simpa only [step, hi] using h
    | some w =>
      obtain ⟨cfg, stage⟩ := w
      cases stage with
      | length => exact ⟨order, h.writeLength hi hexclusive⟩
      | body => exact ⟨order ++ [cfg], h.writeBody hi⟩
      | done =>
        rw [step_resume_of_ended hi (Or.inl rfl)]
        exact ⟨order, h⟩
      | failed =>
        rw [step_resume_of_ended hi (Or.inr rfl)]
        exact ⟨order, h⟩

/-- A coroutine keeps its configuration, and a new one is added for each that is pushed. -/
lemma map_cfg_step (s : ConfigPushes) (action : PushAction) :
    (step coder s action).1.writers.map ConfigWriter.cfg =
      s.writers.map ConfigWriter.cfg ++ pushed [action] := by
  cases action with
  | spawn cfg => simp [step, pushed]
  | resume i =>
    cases hi : s.writers[i]? with
    | none => simp [step, pushed, hi]
    | some w =>
      obtain ⟨hlt, hget⟩ := List.getElem?_eq_some_iff.mp hi
      have hset : s.writers.set i w = s.writers := by rw [← hget, List.set_getElem_self]
      have hcfg := congrArg (List.map ConfigWriter.cfg) hset
      rw [List.map_set] at hcfg
      simpa only [step, hi, pushed, List.filterMap_cons, List.filterMap_nil, List.append_nil,
        List.map_set] using hcfg

/-- There is one coroutine for each configuration that was pushed. -/
lemma map_cfg_run (s : ConfigPushes) (actions : List PushAction) :
    (Mealy.run (step coder) s actions).writers.map ConfigWriter.cfg =
      s.writers.map ConfigWriter.cfg ++ pushed actions := by
  induction actions generalizing s with
  | nil => simp [pushed]
  | cons action actions ih =>
    rw [Mealy.run_cons, ih, map_cfg_step, List.append_assoc]
    congr 1
    exact (List.filterMap_append (l := [action])).symm

/-! ## Whole runs -/

lemma framed_empty : Framed coder {} [] := 
  .whole [] (List.Perm.refl []) (by simp) (by simp) rfl

/-- Every run whose actions are all exclusive is framed. -/
lemma framed_run {actions : List PushAction}
    (hexclusive : Mealy.Along (step coder) (Exclusive coder) {} actions) :
    ∃ order, Framed coder (Mealy.run (step coder) {} actions) order :=
  Mealy.run_invariant_of (P := fun s => ∃ order, Framed coder s order)
    (fun _ _ hexclusive h => framed_step hexclusive h) ⟨[], framed_empty⟩ hexclusive

/-- The frames of configurations are read one after the other. -/
lemma readFrames_frames (hround : ∀ cfg ∈ order,
      coder.decode (coder.encode (createConfigMessage cfg)) = some (createConfigMessage cfg))
    (hfits : ∀ cfg ∈ order, Fits coder cfg) (rest : Bytes) :
    Framing.readFrames coder.asyncReadMessage order.length
      (order.flatMap (frameOf coder) ++ rest) = some (order.map createConfigMessage, rest) := by
  have hread : ∀ msg ∈ order.map createConfigMessage, ∀ rest,
      coder.asyncReadMessage (coder.frame msg ++ rest) = some (msg, rest) := by
    intro msg hmsg rest
    obtain ⟨cfg, hcfg, rfl⟩ := List.mem_map.mp hmsg
    exact MessageCoder.asyncReadMessage_frame ⟨hfits cfg hcfg, hround cfg hcfg⟩ rest
  have hframes := Framing.readFrames_flatMap hread rest
  rwa [List.length_map, List.flatMap_map] at hframes

/-- The finished coroutines of a pool whose unfinished part is known. -/
lemma filter_done {l rest : List ConfigWriter}
    (hwriters : l.Perm (order.map (⟨·, .done⟩) ++ rest)) (hrest : ∀ w ∈ rest, w.stage ≠ .done) :
    ((l.filter fun w => w.stage = .done).map ConfigWriter.cfg).Perm order := by
  have hdone : (order.map fun cfg => (⟨cfg, .done⟩ : ConfigWriter)).filter
      (fun w => w.stage = .done) = order.map (⟨·, .done⟩) := by
    rw [List.filter_eq_self]
    intro w hw
    obtain ⟨cfg, -, rfl⟩ := List.mem_map.mp hw
    simp
  have hnone : rest.filter (fun w => w.stage = .done) = [] := by
    rw [List.filter_eq_nil_iff]
    intro w hw
    simpa using hrest w hw
  have hfilter := (hwriters.filter fun w => w.stage = .done).map ConfigWriter.cfg
  rw [List.filter_append, hdone, hnone, List.append_nil, List.map_map] at hfilter
  simpa [Function.comp_def] using hfilter

/-- In every run in which no coroutine starts to write while another one is between its two writes,
and no message is too long, the stream is the whole frames of the finished coroutines, and perhaps
the length of the next one.  The peer reads their configurations, and when all coroutines are
finished it has read every configuration that was pushed, each once. -/
theorem stream_of_exclusive (coder : MessageCoder InjectorMessage) (actions : List PushAction)
    (hround : ∀ cfg ∈ pushed actions,
      coder.decode (coder.encode (createConfigMessage cfg)) = some (createConfigMessage cfg))
    (hexclusive : Mealy.Along (step coder) (Exclusive coder) {} actions) :
    let s := Mealy.run (step coder) {} actions
    ∃ order rest,
      ((s.writers.filter fun w => w.stage = .done).map ConfigWriter.cfg).Perm order ∧
      s.stream = order.flatMap (frameOf coder) ++ rest ∧
      Framing.readFrames coder.asyncReadMessage order.length s.stream =
        some (order.map createConfigMessage, rest) ∧
      (rest = [] ∨
        ∃ cfg, ⟨cfg, .body⟩ ∈ s.writers ∧ rest = lengthOctets (body coder cfg).length) ∧
      ((∀ w ∈ s.writers, w.stage = .done) → rest = [] ∧ order.Perm (pushed actions)) := by
  intro s
  obtain ⟨order, hframed⟩ := framed_run hexclusive
  have hconfigs : s.writers.map ConfigWriter.cfg = pushed actions := map_cfg_run {} actions
  have hpushed (hdone : ∀ w ∈ s.writers, w.stage = .done)
      (hperm : ((s.writers.filter fun w => w.stage = .done).map ConfigWriter.cfg).Perm order) :
      order.Perm (pushed actions) := by
    rw [List.filter_eq_self.mpr (by simpa using hdone), hconfigs] at hperm
    exact hperm.symm
  have hround' (hperm : ((s.writers.filter fun w => w.stage = .done).map ConfigWriter.cfg).Perm
      order) : ∀ cfg ∈ order, coder.decode (coder.encode (createConfigMessage cfg)) =
        some (createConfigMessage cfg) := by
    intro cfg hcfg
    refine hround cfg ?_
    rw [← hconfigs]
    have hmem := hperm.mem_iff.mpr hcfg
    exact List.map_subset _ (List.filter_subset_self _) hmem
  cases hframed with
  | whole rest writers waiting fits stream =>
    have hperm := filter_done writers fun w hw => by rw [waiting w hw]; decide
    refine ⟨order, [], hperm, ?_, ?_, Or.inl rfl, fun hdone => ⟨rfl, hpushed hdone hperm⟩⟩
    · rw [List.append_nil]
      exact stream
    · rw [← readFrames_frames (hround' hperm) fits [], List.append_nil]
      exact congrArg _ stream
  | cut cfg rest writers waiting fits stream =>
    have hmem : ⟨cfg, .body⟩ ∈ s.writers := writers.mem_iff.mpr (by simp)
    have hperm := filter_done writers fun w hw => by
      rcases List.mem_cons.mp hw with rfl | hw
      · exact WriteStage.noConfusion
      · rw [waiting w hw]
        decide
    refine ⟨order, lengthOctets (body coder cfg).length, hperm, stream, ?_,
      Or.inr ⟨cfg, hmem, rfl⟩, fun hdone => ?_⟩
    · have hfits := fun cfg' h => fits cfg' (List.mem_append_left _ h)
      rw [← readFrames_frames (hround' hperm) hfits _]
      exact congrArg _ stream
    · cases hdone _ hmem

/-- The coder on the configurations that say whether to log and nothing else. -/
def logCoder : MessageCoder InjectorMessage :=
  let octets (flag : UInt8) : Bytes :=
    [0x0a, 6, 0x63, 0x6f, 0x6e, 0x66, 0x69, 0x67, 0x12, 2, 0x10, flag]
  let msg (flag : Bool) : InjectorMessage := createConfigMessage { log := some flag }
  { encode := fun m => octets (if m = msg true then 1 else 0)
    decode := fun body =>
      if body = octets 1 then some (msg true)
      else if body = octets 0 then some (msg false) else none }

/-- Two configurations that differ in the log switch, one after the other. -/
theorem stream_of_exclusive_log_on_log_off :
    let on : InjectorConfig := { log := some true }
    let off : InjectorConfig := { log := some false }
    let actions : List PushAction :=
      [.spawn on, .spawn off, .resume 0, .resume 0, .resume 1, .resume 1]
    let s := Mealy.run (step logCoder) {} actions
    ∃ order : List InjectorConfig, order.Perm [on, off] ∧
      Framing.readFrames logCoder.asyncReadMessage 2 s.stream =
        some (order.map createConfigMessage, []) := by
  intro on off actions s
  have hround : ∀ cfg ∈ pushed actions, logCoder.decode
      (logCoder.encode (createConfigMessage cfg)) = some (createConfigMessage cfg) := by
    decide
  have hexclusive : Mealy.Along (step logCoder) (Exclusive logCoder) {} actions := by
    decide
  obtain ⟨order, rest, -, -, hread, -, hdone⟩ :=
    stream_of_exclusive logCoder actions hround hexclusive
  obtain ⟨rfl, hperm⟩ := hdone (by decide)
  have hlength : order.length = 2 := hperm.length_eq
  rw [hlength] at hread
  exact ⟨order, hperm, hread⟩

/-- The same two configurations, written in turns: all four writes are done, and the stream is not
whole frames. -/
theorem not_frames_log_on_log_off :
    let on : InjectorConfig := { log := some true }
    let off : InjectorConfig := { log := some false }
    let actions : List PushAction :=
      [.spawn on, .spawn off, .resume 0, .resume 1, .resume 0, .resume 1]
    let s := Mealy.run (step logCoder) {} actions
    (∀ w ∈ s.writers, w.stage = .done) ∧
      ∀ order : List InjectorConfig, order.Perm (pushed actions) →
        s.stream ≠ order.flatMap (frameOf logCoder) := by
  intro on off actions s
  refine ⟨by decide, fun order hperm => ?_⟩
  have hmem (cfg : InjectorConfig) (h : cfg ∈ order) : cfg = on ∨ cfg = off := by
    simpa [actions, pushed] using hperm.mem_iff.mp h
  obtain ⟨first, second, rfl⟩ := List.length_eq_two.mp hperm.length_eq
  rcases hmem first (by simp) with rfl | rfl <;> rcases hmem second (by simp) with rfl | rfl <;>
    decide

end ConfigPushes

end Encapsule
