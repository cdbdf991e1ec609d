import Encapsule.Foundation.Mealy
import Encapsule.Foundation.Since
import Encapsule.Injector.Kept

/-!
# The tokens of racing injections

The static records of the injector are shared by all threads that inject.  `publish` overwrites the
records of its process in one critical section, and the rollback of a load that fails erases them in
another, unless a later `publish` has replaced them.

* `TokenStore.answers_latest`: in every interleaving a token is accepted exactly if it is the one of
  the latest `publish` of its process, and that one was not taken back or forgotten since.
* `InjectorServer.sameTokens_iff`: what is overwritten does not come back, and so an injection that
  fails changes the tokens that are accepted if its process had one and `publish` got as far as
  overwriting it.
-/

namespace Encapsule

/-! ## The interleavings -/

/-- A thread that calls the injector. -/
abbrev ThreadId := ℕ

/-- What a thread does to the records, each in one critical section. -/
inductive TokenCall where
  | publish (pid : DWORD) (port : UInt16) (host : InjectHost)
  /-- The load that follows a publish has failed. -/
  | rollback
  | forgetToken (pid : DWORD)

/-- What has happened to the records. -/
inductive TokenEvent where
  | published (pid : DWORD) (token : Bytes)
  /-- `forget_bootstrap` was called, and returned `done`. -/
  | rolledBack (pid : DWORD) (token : Bytes) (done : Bool)
  | forgotten (pid : DWORD)
  deriving DecidableEq

/-- The token that is minted. -/
def TokenEvent.minted : TokenEvent → Option Bytes
  | .published _ token => some token
  | _ => none

/-- The records, and what each thread may still roll back. -/
structure TokenStore where
  injector : Injector := {}
  held : ThreadId → Option (DWORD × Bytes) := fun _ => none

namespace TokenStore

/-- One critical section of a thread. -/
def step (s : TokenStore) : ThreadId × TokenCall → TokenStore × Option TokenEvent
  | (thread, .publish pid port host) =>
    match s.injector.publish pid port host with
    | (injector, none) => ({ s with injector }, none)
    | (injector, some token) =>
      ({ injector, held := Function.update s.held thread (some (pid, token)) },
        some (.published pid token))
  | (thread, .rollback) =>
    match s.held thread with
    | none => (s, none)
    | some (pid, token) =>
      let (injector, done) := s.injector.forgetBootstrap pid token
      ({ injector, held := Function.update s.held thread none },
        some (.rolledBack pid token done))
  | (_, .forgetToken pid) =>
    ({ s with injector := s.injector.forgetToken pid }, some (.forgotten pid))

/-- What has happened in an interleaving. -/
def history (s : TokenStore) (schedule : List (ThreadId × TokenCall)) : List TokenEvent :=
  (Mealy.log step s schedule).filterMap Prod.snd

end TokenStore

/-- The event replaces a publish, takes it back, or forgets its process. -/
def TokenEvent.Supersedes (pid : DWORD) (token : Bytes) (e : TokenEvent) : Prop :=
  (∃ token', e = .published pid token') ∨ (∃ done, e = .rolledBack pid token done) ∨
    e = .forgotten pid

/-- The token is the one of the latest publish of the process, and was not forgotten since. -/
def LatestToken (history : List TokenEvent) (pid : DWORD) (token : Bytes) : Prop :=
  Since (· = .published pid token) (TokenEvent.Supersedes pid token) history

/-- Another publish of the process came after the one that minted the token. -/
def SupersededToken (history : List TokenEvent) (pid : DWORD) (token : Bytes) : Prop :=
  ∃ pre post token', history = pre ++ .published pid token :: post ∧
    .published pid token' ∈ post

namespace TokenStore

variable {s : TokenStore} {past : List TokenEvent} {pid : DWORD} {token : Bytes}

/-- A thread that injects alone does what `inject` does: it publishes, and rolls back if the load
fails. -/
lemma run_inject (s : TokenStore) (thread : ThreadId) {pid : DWORD} {port : UInt16}
    {host : InjectHost} (h : host.Publishes) :
    let calls := (thread, .publish pid port host) ::
      if (s.injector.inject pid port host).2.1 then [] else [(thread, .rollback)]
    (Mealy.run step s calls).injector = (s.injector.inject pid port host).1 := by
  intro calls
  obtain ⟨payload, hpublish, hinject⟩ := s.injector.inject_eq_of_publishes pid port h
  have hfirst : s.step (thread, .publish pid port host) =
      ({ injector := s.injector.record pid payload
         held := Function.update s.held thread (some (pid, payload.injectionToken)) },
        some (.published pid payload.injectionToken)) := by
    simp only [step, hpublish]
  have hlast : step { injector := s.injector.record pid payload
                      held := Function.update s.held thread (some (pid, payload.injectionToken)) }
      (thread, .rollback) =
      ({ injector := (s.injector.record pid payload).forgetToken pid
         held := Function.update
          (Function.update s.held thread (some (pid, payload.injectionToken))) thread none },
        some (.rolledBack pid payload.injectionToken true)) := by
    simp only [step, Function.update_self, Injector.forgetBootstrap_record]
  cases hok : (s.injector.inject pid port host).2.1 with
  | true =>
    simp only [calls, hok, if_true, Mealy.run_cons, Mealy.run_nil, hfirst]
    rw [hinject] at hok ⊢
    exact (Injector.loadInto_of_ok hok).symm
  | false =>
    simp only [calls, hok, Bool.false_eq_true, if_false]
    rw [Mealy.run_cons, hfirst, Mealy.run_cons, hlast, Mealy.run_nil]
    rw [hinject] at hok ⊢
    rw [Injector.loadInto_of_failed hok, Injector.forgetBootstrap_record]

/-- The tokens of the records are those of the latest publishes. -/
def Answers (past : List TokenEvent) (s : TokenStore) : Prop :=
  ∀ pid token, s.injector.tokens.lookup pid = some token ↔ LatestToken past pid token

/-- Another publish of the process supersedes the ones before it, and is the latest. -/
lemma latestToken_concat_published {pid' : DWORD} {token' : Bytes} :
    LatestToken (past ++ [.published pid' token']) pid token ↔
      (pid = pid' ∧ token = token') ∨ (pid ≠ pid' ∧ LatestToken past pid token) := by
  unfold LatestToken TokenEvent.Supersedes
  rw [since_concat]
  simp only [TokenEvent.published.injEq, reduceCtorEq, exists_false, or_false, not_exists]
  constructor
  · rintro (⟨rfl, rfl⟩ | ⟨hother, hlatest⟩)
    · exact Or.inl ⟨rfl, rfl⟩
    · refine Or.inr ⟨?_, hlatest⟩
      rintro rfl
      exact hother token' ⟨rfl, rfl⟩
  · rintro (⟨rfl, rfl⟩ | ⟨hne, hlatest⟩)
    · exact Or.inl ⟨rfl, rfl⟩
    · exact Or.inr ⟨fun _ heq => hne heq.1.symm, hlatest⟩

/-- A rollback supersedes the publish it takes back. -/
lemma latestToken_concat_rolledBack {pid' : DWORD} {token' : Bytes} {done : Bool} :
    LatestToken (past ++ [.rolledBack pid' token' done]) pid token ↔
      ¬ (pid = pid' ∧ token = token') ∧ LatestToken past pid token := by
  unfold LatestToken TokenEvent.Supersedes
  rw [since_concat]
  simp [eq_comm]

/-- A process that is forgotten has no latest token. -/
lemma latestToken_concat_forgotten {pid' : DWORD} :
    LatestToken (past ++ [.forgotten pid']) pid token ↔
      pid ≠ pid' ∧ LatestToken past pid token := by
  unfold LatestToken TokenEvent.Supersedes
  rw [since_concat]
  simp [eq_comm]

/-- A critical section keeps the records up to date. -/
lemma Answers.step (h : Answers past s) (call : ThreadId × TokenCall) :
    Answers (past ++ (s.step call).2.toList) (s.step call).1 := by
  obtain ⟨thread, call⟩ := call
  cases call with
  | publish pid port host =>
    rcases s.injector.publish_cases pid port host with hpublish | ⟨payload, hpublish⟩
    · simp only [TokenStore.step, hpublish, Option.toList_none, List.append_nil]
      exact h
    · simp only [TokenStore.step, hpublish, Option.toList_some]
      intro pid' token
      rw [Injector.lookup_record_iff, latestToken_concat_published, h]
  | rollback =>
    cases hheld : s.held thread with
    | none =>
      simp only [TokenStore.step, hheld, Option.toList_none, List.append_nil]
      exact h
    | some publish =>
      simp only [TokenStore.step, hheld, Option.toList_some]
      intro pid' token
      rw [Injector.lookup_forgetBootstrap_iff, latestToken_concat_rolledBack, h]
  | forgetToken pid =>
    intro pid' token
    simp only [TokenStore.step, Option.toList_some]
    rw [Injector.lookup_forgetToken_iff, latestToken_concat_forgotten, h]

/-- The records answer for the latest publishes in every interleaving. -/
lemma answers_run (schedule : List (ThreadId × TokenCall)) :
    Answers (history {} schedule) (Mealy.run TokenStore.step {} schedule) := by
  refine Mealy.log_invariant (P := fun log s => Answers (log.filterMap Prod.snd) s) ?_ ?_ schedule
  · intro pid token
    exact iff_of_false (by simp) not_since_nil
  · intro log s call h
    have hstep := h.step call
    rw [List.filterMap_append]
    cases hevent : (s.step call).2 with
    | none =>
      rw [hevent] at hstep
      exact hstep
    | some event =>
      rw [hevent] at hstep
      exact hstep

/-- A token that is minted once is not the latest any more when its process is published again. -/
lemma not_latestToken (hminted : (past.filterMap TokenEvent.minted).Nodup)
    (h : SupersededToken past pid token) : ¬ LatestToken past pid token := by
  obtain ⟨pre, post, token', rfl, hlater⟩ := h
  have hsplit : (pre ++ .published pid token :: post).filterMap TokenEvent.minted =
      pre.filterMap TokenEvent.minted ++ token :: post.filterMap TokenEvent.minted := by
    rw [List.filterMap_append, List.filterMap_cons]
    rfl
  have hmem {events : List TokenEvent} (hevent : .published pid token ∈ events) :
      token ∈ events.filterMap TokenEvent.minted := List.mem_filterMap.mpr ⟨_, hevent, rfl⟩
  rw [hsplit, List.nodup_append, List.nodup_cons] at hminted
  refine not_since_of_ended (fun hpre => ?_) (fun hpost => ?_)
    ⟨.published pid token', hlater, Or.inl ⟨token', rfl⟩⟩
  · exact hminted.2.2 token (hmem hpre) token List.mem_cons_self rfl
  · exact hminted.2.1.1 (hmem hpost)

/-- In every interleaving of publishes, rollbacks and calls of `forget_token` by any threads, when
no token is minted twice: a process has a token exactly if it has a mapping; a token that is
presented is accepted exactly if it is the one of the latest publish of the process, and that one
was not forgotten since; and the rollback of a publish that was superseded returns false and changes
nothing. -/
theorem answers_latest (schedule : List (ThreadId × TokenCall))
    (hminted : ((history {} schedule).filterMap TokenEvent.minted).Nodup) :
    let s := Mealy.run TokenStore.step {} schedule
    (∀ pid, pid ∈ s.injector.tokens ↔ pid ∈ s.injector.mappings) ∧
      (∀ pid presented, s.injector.tokenMatches pid presented = true ↔
        ∃ token, presented = some token ∧ LatestToken (history {} schedule) pid token) ∧
      ∀ pid token, SupersededToken (history {} schedule) pid token →
        s.injector.forgetBootstrap pid token = (s.injector, false) := by
  intro s
  have hanswers : Answers (history {} schedule) s := answers_run schedule
  refine ⟨s.injector.agree, fun pid presented => ?_, fun pid token hsuperseded => ?_⟩
  · rw [Injector.tokenMatches_iff]
    simp only [hanswers pid]
  · refine if_neg fun hlookup => ?_
    exact not_latestToken hminted hsuperseded ((hanswers pid token).mp hlookup)

/-- Two threads inject process 5, and the one that published first fails to load its capsule. -/
def racingPublishes : List (ThreadId × TokenCall) :=
  let host (octet : UInt8) (load : LoadAnswer) : InjectHost :=
    { process := true, isWow64 := some false, resident := false, injectee := true,
      random := some (Vector.replicate 8 octet), mapping := true, view := true, load }
  [(0, .publish 5 40000 (host 7 .noThread)), (1, .publish 5 40000 (host 8 (.exited (some 1)))),
    (0, .rollback)]

/-- The token of the other thread is accepted, and the rollback has returned false. -/
theorem answers_latest_racing :
    let s := Mealy.run TokenStore.step {} racingPublishes
    s.injector.tokenMatches 5 (some (List.replicate 8 8)) = true ∧
      s.injector.forgetBootstrap 5 (List.replicate 8 7) = (s.injector, false) := by
  intro s
  have hhistory : history {} racingPublishes =
      [.published 5 (List.replicate 8 7), .published 5 (List.replicate 8 8),
        .rolledBack 5 (List.replicate 8 7) false] := by decide
  obtain ⟨-, hmatches, hsuperseded⟩ := answers_latest racingPublishes (by decide)
  refine ⟨(hmatches 5 _).mpr ⟨_, rfl, ?_⟩, hsuperseded 5 _ ?_⟩
  · refine ⟨[_], _, [_], hhistory, rfl, fun e he => ?_⟩
    rw [List.mem_singleton.mp he]
    rintro (⟨token, h⟩ | ⟨done, h⟩ | h) <;> simp at h
  · exact ⟨[], _, List.replicate 8 8, hhistory, List.mem_cons_self⟩

end TokenStore

/-! ## Injections that fail -/

/-- The same tokens are accepted for every process. -/
def Injector.SameTokens (s s' : Injector) : Prop :=
  ∀ pid presented, s'.tokenMatches pid presented = s.tokenMatches pid presented

namespace InjectorServer

/-- An injection that fails leaves the tokens that are accepted as they were, if and only if its
process had none, or it fails before `publish` comes to its critical section. -/
theorem sameTokens_iff (s : InjectorServer) (pid : DWORD) (host : InjectHost)
    (hfailed : (s.inject pid host).2 = .failed) :
    s.injector.SameTokens (s.inject pid host).1.injector ↔
      pid ∉ s.injector.tokens ∨ ¬ host.Publishes := by
  obtain ⟨hserver, hload⟩ := inject_of_failed hfailed
  rw [hserver]
  by_cases hpublishes : host.Publishes
  · obtain ⟨payload, ⟨-, hok⟩ | ⟨hinjector, -⟩⟩ :=
      s.injector.inject_of_publishes pid s.port hpublishes
    · rw [hload] at hok
      cases hok
    have hlookup {pid' : DWORD} {token : Bytes} :
        (s.injector.inject pid s.port host).1.tokens.lookup pid' = some token ↔
          pid' ≠ pid ∧ s.injector.tokens.lookup pid' = some token := by
      rw [hinjector, Injector.lookup_forgetToken_iff]
      refine and_congr_right fun hne => ?_
      rw [Injector.lookup_record_ne hne]
    rw [or_iff_left (not_not.mpr hpublishes)]
    constructor
    · intro hsame hmem
      -- the token that the process had is not accepted any more
      obtain ⟨token, htoken⟩ := Option.isSome_iff_exists.mp (AList.lookup_isSome.mpr hmem)
      have hbefore := Injector.tokenMatches_of_lookup htoken
      rw [← hsame, Injector.tokenMatches_iff] at hbefore
      obtain ⟨token, -, hafter⟩ := hbefore
      exact (hlookup.mp hafter).1 rfl
    · intro hnew pid' presented
      rw [Bool.eq_iff_iff, Injector.tokenMatches_iff, Injector.tokenMatches_iff]
      refine exists_congr fun token => and_congr_right fun _ => ?_
      rw [hlookup]
      refine and_iff_right_of_imp ?_
      rintro htoken rfl
      exact hnew (AList.lookup_isSome.mp (by rw [htoken]; rfl))
  · rw [(s.injector.inject_of_not_publishes pid s.port hpublishes).1]
    exact iff_of_true (fun _ _ => rfl) (Or.inr hpublishes)

/-- The injection is published, and the remote thread does not end in time. -/
def timeoutHost : InjectHost :=
  { process := true, isWow64 := some false, resident := false, injectee := true,
    random := some (Vector.replicate 8 9), mapping := true, view := true, load := .late false }

/-- The injection of a new process that fails leaves the tokens that are accepted as they were. -/
theorem sameTokens_iff_new :
    serverOf5.injector.SameTokens (serverOf5.inject 6 timeoutHost).1.injector :=
  (sameTokens_iff serverOf5 6 timeoutHost (by decide)).mpr (Or.inl (by decide))

/-- When process 5 has lost its session and its bootstrap is kept, another injection of it that
fails takes away its token. -/
theorem not_sameTokens_kept :
    let s := serverOf5.remove 5 .lost
    5 ∈ s.kept.node ∧ (s.inject 5 timeoutHost).2 = .failed ∧
      ¬ s.injector.SameTokens (s.inject 5 timeoutHost).1.injector := by
  intro s
  refine ⟨by decide, by decide, fun hsame => ?_⟩
  have hbefore : s.injector.tokenMatches 5 (some (List.replicate 8 7)) = true := by decide
  have hafter : (s.inject 5 timeoutHost).1.injector.tokenMatches 5 (some (List.replicate 8 7)) =
      false := by decide
  rw [hsame, hbefore] at hafter
  cases hafter

end InjectorServer

end Encapsule
