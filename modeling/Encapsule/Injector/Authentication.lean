import Encapsule.Injector.ControlPlane
import Encapsule.Injector.Kept

/-!
# Who is served

A session is served because it has presented the token of a process.  The threads of the tool test
the token in one section and act on it in later ones, and other threads run in between: the token
may be forgotten, published anew or registered by another session by then.  What stays true is the
past, and every section that serves a session comes after such a test (`Authorised`).

* `Presented`: a session has presented, for a process, a token that was made for it before.
* `Guarded`: what the state owes to the past; each section keeps it (`Guarded.step`).
* `registered_presented`, `frame_presented`, `lost_token`, `teardowns_le_registrations`.
-/

namespace Encapsule

open Interaction

/-- The sections that were carried out, with their answers. -/
abbrev PlaneHistory : Type := List (Event PlaneCall.Answer)

/-- A publish for the process has made the token. -/
def Minted (h : PlaneHistory) (pid : DWORD) (token : Bytes) : Prop :=
  ∃ port host, (⟨.publish pid port host, some token⟩ : Event PlaneCall.Answer) ∈ h

/-- A hello of the session for the process was accepted. -/
def Accepted (h : PlaneHistory) (session : SessionId) (pid : DWORD) : Prop :=
  ∃ presented, (⟨.tokenMatches session pid presented, true⟩ : Event PlaneCall.Answer) ∈ h

/-- A process was stored in the session. -/
def Named (h : PlaneHistory) (session : SessionId) : Prop :=
  ∃ pid, (⟨.storePid session pid, ()⟩ : Event PlaneCall.Answer) ∈ h

/-- The session has presented, for the process, a token that was made for it before. -/
def Presented (h : PlaneHistory) (session : SessionId) (pid : DWORD) : Prop :=
  ∃ pre token post, h = pre ++ ⟨.tokenMatches session pid (some token), true⟩ :: post ∧
    Minted pre pid token

/-- What a section has to come after. -/
def Authorised (h : PlaneHistory) : Event PlaneCall.Answer → Prop
  | ⟨.tokenMatches _ pid presented, accepted⟩ =>
    accepted = true → ∃ token, presented = some token ∧ Minted h pid token
  | ⟨.insert pid session, _⟩ => Accepted h session pid
  | ⟨.storePid session pid, _⟩ => Accepted h session pid
  | ⟨.storeOpened session _, _⟩ => Named h session
  | ⟨.erase pid, _⟩ | ⟨.keep pid, _⟩ | ⟨.forgetToken pid, _⟩ => ∃ session, Accepted h session pid
  | ⟨.forgetBootstrap pid token, _⟩ => Minted h pid token
  | ⟨.post session _, _⟩ | ⟨.begin session _, _⟩ | ⟨.send session _ _, _⟩ =>
    ∃ pid, Accepted h session pid
  | ⟨.effect session (.processPid pid), _⟩ | ⟨.effect session (.processClose pid), _⟩ =>
    Accepted h session pid
  | _ => True

/-- The section serves the session. -/
def Serves (session : SessionId) : Event PlaneCall.Answer → Prop
  | ⟨.insert _ served, _⟩ | ⟨.post served _, _⟩ | ⟨.send served _ _, _⟩
  | ⟨.effect served (.processPid _), _⟩ | ⟨.effect served (.processClose _), _⟩ =>
    served = session
  | _ => False

/-- What the state owes to the past. -/
structure Guarded (h : PlaneHistory) (s : ControlPlane) : Prop where
  authorised : Chronicle Authorised h
  minted : ∀ pid token, s.server.injector.tokens.lookup pid = some token → Minted h pid token
  registered : ∀ pid session, s.server.clients.lookup pid = some session → Accepted h session pid
  kept : ∀ entry ∈ s.server.kept.order, ∃ session, Accepted h session entry.2
  posted : ∀ push ∈ s.posted, ∃ pid, Accepted h push.1 pid
  named : ∀ session, Named h session → Accepted h session (s.peers session).pid
  opened : ∀ session, (s.peers session).opened = true → Named h session

variable {h h' : PlaneHistory} {s s' : ControlPlane} {session : SessionId} {pid : DWORD}
  {token : Bytes}

/-! ## The past stays true -/

/-- A token that was made was made. -/
lemma Minted.later (hminted : Minted h pid token) (hpre : h <+: h') : Minted h' pid token := by
  obtain ⟨port, host, hmem⟩ := hminted
  exact ⟨port, host, hpre.subset hmem⟩

/-- A hello that was accepted was accepted. -/
lemma Accepted.later (haccepted : Accepted h session pid) (hpre : h <+: h') :
    Accepted h' session pid := by
  obtain ⟨presented, hmem⟩ := haccepted
  exact ⟨presented, hpre.subset hmem⟩

/-- A session that was named was named. -/
lemma Named.later (hnamed : Named h session) (hpre : h <+: h') : Named h' session := by
  obtain ⟨pid, hmem⟩ := hnamed
  exact ⟨pid, hpre.subset hmem⟩

/-- In an authorised history, an accepted hello has presented a token that was made before. -/
lemma Accepted.presented (hall : Chronicle Authorised h) (haccepted : Accepted h session pid) :
    Presented h session pid := by
  obtain ⟨presented, hmem⟩ := haccepted
  obtain ⟨pre, post, rfl⟩ := List.append_of_mem hmem
  obtain ⟨token, rfl, hminted⟩ := hall pre _ post rfl rfl
  exact ⟨pre, token, post, rfl, hminted⟩

/-! ## Each section keeps what the state owes -/

/-- A section that is authorised may be added to the past, if it has done what it says. -/
lemma Guarded.extend (hs : Guarded h s) {e : Event PlaneCall.Answer} (he : Authorised h e)
    (hname : ∀ session pid, e = ⟨.storePid session pid, ()⟩ → (s.peers session).pid = pid) :
    Guarded (h ++ [e]) s where
  authorised := chronicle_concat.mpr ⟨hs.authorised, he⟩
  minted pid token hlookup := (hs.minted pid token hlookup).later (List.prefix_append _ _)
  registered pid session hlookup :=
    (hs.registered pid session hlookup).later (List.prefix_append _ _)
  kept entry hentry := by
    obtain ⟨session, haccepted⟩ := hs.kept entry hentry
    exact ⟨session, haccepted.later (List.prefix_append _ _)⟩
  posted push hpush := by
    obtain ⟨pid, haccepted⟩ := hs.posted push hpush
    exact ⟨pid, haccepted.later (List.prefix_append _ _)⟩
  named session hnamed := by
    obtain ⟨pid, hmem⟩ := hnamed
    rcases List.mem_append.mp hmem with hold | hlast
    · exact (hs.named session ⟨pid, hold⟩).later (List.prefix_append _ _)
    · obtain rfl := List.mem_singleton.mp hlast
      rw [hname session pid rfl]
      exact Accepted.later he (List.prefix_append _ _)
  opened session hopened := (hs.opened session hopened).later (List.prefix_append _ _)

/-- A change that serves nobody new. -/
lemma Guarded.frame (hs : Guarded h s)
    (htokens : ∀ pid token, s'.server.injector.tokens.lookup pid = some token →
      s.server.injector.tokens.lookup pid = some token)
    (hclients : ∀ pid session, s'.server.clients.lookup pid = some session →
      s.server.clients.lookup pid = some session)
    (hkept : ∀ entry ∈ s'.server.kept.order, ∃ old ∈ s.server.kept.order, entry.2 = old.2)
    (hposted : ∀ push ∈ s'.posted, push ∈ s.posted)
    (hpid : ∀ session, (s'.peers session).pid = (s.peers session).pid)
    (hopened : ∀ session, (s'.peers session).opened = true → (s.peers session).opened = true) :
    Guarded h s' where
  authorised := hs.authorised
  minted pid token hlookup := hs.minted pid token (htokens pid token hlookup)
  registered pid session hlookup := hs.registered pid session (hclients pid session hlookup)
  kept entry hentry := by
    obtain ⟨old, hold, heq⟩ := hkept entry hentry
    rw [heq]
    exact hs.kept old hold
  posted push hpush := hs.posted push (hposted push hpush)
  named session hnamed := by
    rw [hpid session]
    exact hs.named session hnamed
  opened session hsession := hs.opened session (hopened session hsession)

/-- What is left after a drop was there before. -/
lemma KeptBootstraps.mem_of_mem_drop {k : KeptBootstraps} {entry : ℕ × DWORD}
    (hentry : entry ∈ (k.drop pid).order) : entry ∈ k.order := by
  unfold KeptBootstraps.drop at hentry
  cases hnode : k.node.lookup pid with
  | none =>
    rw [hnode] at hentry
    exact hentry
  | some node =>
    rw [hnode] at hentry
    exact List.mem_of_mem_filter hentry

/-- The record holds, and gives back, only what was in it and what was kept now. -/
lemma KeptBootstraps.keep_origin {k : KeptBootstraps} {kept : DWORD}
    (hkept : (∃ entry ∈ (k.keep pid).1.order, kept = entry.2) ∨ (k.keep pid).2 = some kept) :
    kept = pid ∨ ∃ entry ∈ k.order, kept = entry.2 := by
  by_cases hfull : keptCap ≤ (k.drop pid).order.length
  · obtain ⟨node, oldest, rest, horder, hkeep⟩ := KeptBootstraps.keep_of_le hfull
    have hold : ∀ entry ∈ (node, oldest) :: rest, entry ∈ k.order := by
      rw [← horder]
      exact fun entry hentry => KeptBootstraps.mem_of_mem_drop hentry
    rw [hkeep] at hkept
    rcases hkept with ⟨entry, hentry, rfl⟩ | hstale
    · rcases List.mem_append.mp hentry with hrest | hlast
      · exact Or.inr ⟨entry, hold entry (List.mem_cons_of_mem _ hrest), rfl⟩
      · rw [List.mem_singleton.mp hlast]
        exact Or.inl rfl
    · exact Or.inr ⟨(node, oldest), hold _ List.mem_cons_self, (Option.some.inj hstale).symm⟩
  · rw [KeptBootstraps.keep_of_lt (Nat.lt_of_not_le hfull)] at hkept
    rcases hkept with ⟨entry, hentry, rfl⟩ | hstale
    · rcases List.mem_append.mp hentry with hrest | hlast
      · exact Or.inr ⟨entry, KeptBootstraps.mem_of_mem_drop hrest, rfl⟩
      · rw [List.mem_singleton.mp hlast]
        exact Or.inl rfl
    · cases hstale

/-- A change of one session that leaves its process alone and does not open it serves nobody new. -/
lemma Guarded.setPeer (hs : Guarded h s) {peer : Peer} (hpid : peer.pid = (s.peers session).pid)
    (hopened : peer.opened = true → (s.peers session).opened = true) :
    Guarded h (s.setPeer session peer) := by
  refine hs.frame (fun _ _ hlookup => hlookup) (fun _ _ hlookup => hlookup)
    (fun entry hentry => ⟨entry, hentry, rfl⟩) (fun _ hpush => hpush) (fun session' => ?_)
    (fun session' => ?_)
  all_goals
    by_cases heq : session' = session
    · subst heq
      simpa [ControlPlane.setPeer] using by assumption
    · simp [ControlPlane.setPeer, Function.update_of_ne heq]

/-- Every section that is authorised keeps what the state owes to the past. -/
lemma Guarded.step (hs : Guarded h s) {c : PlaneCall} {x : c.Answer}
    (hexec : ControlPlane.exec c s = some (x, s')) (he : Authorised h ⟨c, x⟩) :
    Guarded (h ++ [⟨c, x⟩]) s' := by
  have hframe : (∀ session pid, (⟨c, x⟩ : Event PlaneCall.Answer) = ⟨.storePid session pid, ()⟩ →
      (s.peers session).pid = pid) → Guarded (h ++ [⟨c, x⟩]) s := hs.extend he
  cases c with
  | started _ | port | contains _ | find _ | snapshot | config | tokenMatches _ _ _ | pid _
  | send _ _ _ | effect _ _ =>
    obtain ⟨-, rfl⟩ := Prod.mk.inj (Option.some.inj hexec)
    exact hframe (by simp)
  | setPort _ | unlock | write _ =>
    obtain ⟨-, rfl⟩ := Prod.mk.inj (Option.some.inj hexec)
    exact (hframe (by simp)).frame (fun _ _ h => h) (fun _ _ h => h)
      (fun entry hentry => ⟨entry, hentry, rfl⟩) (fun _ h => h) (fun _ => rfl) (fun _ h => h)
  | lock =>
    dsimp only [ControlPlane.exec] at hexec
    split_ifs at hexec
    obtain ⟨-, rfl⟩ := Prod.mk.inj (Option.some.inj hexec)
    exact (hframe (by simp)).frame (fun _ _ h => h) (fun _ _ h => h)
      (fun entry hentry => ⟨entry, hentry, rfl⟩) (fun _ h => h) (fun _ => rfl) (fun _ h => h)
  | insert pid session =>
    have haccepted : Accepted (h ++ [⟨.insert pid session, x⟩]) session pid :=
      Accepted.later he (List.prefix_append _ _)
    dsimp only [ControlPlane.exec] at hexec
    split_ifs at hexec
    · obtain ⟨-, rfl⟩ := Prod.mk.inj (Option.some.inj hexec)
      exact hframe (by simp)
    · obtain ⟨rfl, rfl⟩ := Prod.mk.inj (Option.some.inj hexec)
      refine { hframe (by simp) with registered := fun pid' session' hlookup => ?_ }
      by_cases heq : pid' = pid
      · subst heq
        rw [AList.lookup_insert] at hlookup
        rw [← Option.some.inj hlookup]
        exact haccepted
      · rw [AList.lookup_insert_ne heq] at hlookup
        exact (hframe (by simp)).registered pid' session' hlookup
  | erase pid =>
    obtain ⟨-, rfl⟩ := Prod.mk.inj (Option.some.inj hexec)
    refine { hframe (by simp) with registered := fun pid' session' hlookup => ?_ }
    by_cases heq : pid' = pid
    · subst heq
      rw [AList.lookup_erase] at hlookup
      cases hlookup
    · rw [AList.lookup_erase_ne heq] at hlookup
      exact (hframe (by simp)).registered pid' session' hlookup
  | keep pid =>
    obtain ⟨session, haccepted⟩ : ∃ session, Accepted h session pid := he
    obtain ⟨-, rfl⟩ := Prod.mk.inj (Option.some.inj hexec)
    refine { hframe (by simp) with kept := fun entry hentry => ?_ }
    rcases KeptBootstraps.keep_origin (Or.inl ⟨entry, hentry, rfl⟩) with hpid | ⟨old, hold, heq⟩
    · rw [hpid]
      exact ⟨session, haccepted.later (List.prefix_append _ _)⟩
    · rw [heq]
      exact (hframe (by simp)).kept old hold
  | drop pid =>
    obtain ⟨-, rfl⟩ := Prod.mk.inj (Option.some.inj hexec)
    exact (hframe (by simp)).frame (fun _ _ h => h) (fun _ _ h => h)
      (fun entry hentry => ⟨entry, KeptBootstraps.mem_of_mem_drop hentry, rfl⟩) (fun _ h => h)
      (fun _ => rfl) (fun _ h => h)
  | publish pid port host =>
    obtain ⟨rfl, rfl⟩ := Prod.mk.inj (Option.some.inj hexec)
    refine { hframe (by simp) with minted := fun pid' token hlookup => ?_ }
    rcases s.server.injector.publish_cases pid port host with hsame | ⟨payload, hpublish⟩
    · rw [hsame] at hlookup
      exact (hframe (by simp)).minted pid' token hlookup
    · have hfst : (s.server.injector.publish pid port host).1 =
          s.server.injector.record pid payload := congrArg Prod.fst hpublish
      have hsnd : (s.server.injector.publish pid port host).2 = some payload.injectionToken :=
        congrArg Prod.snd hpublish
      rw [hfst] at hlookup
      rcases Injector.lookup_record_iff.mp hlookup with ⟨rfl, rfl⟩ | ⟨-, hold⟩
      · refine ⟨port, host, List.mem_append_right _ (List.mem_singleton.mpr ?_)⟩
        rw [hsnd]
      · exact (hframe (by simp)).minted pid' token hold
  | forgetBootstrap pid token =>
    obtain ⟨-, rfl⟩ := Prod.mk.inj (Option.some.inj hexec)
    exact (hframe (by simp)).frame
      (fun _ _ hlookup => (Injector.lookup_forgetBootstrap_iff.mp hlookup).2) (fun _ _ h => h)
      (fun entry hentry => ⟨entry, hentry, rfl⟩) (fun _ h => h) (fun _ => rfl) (fun _ h => h)
  | forgetToken pid =>
    obtain ⟨-, rfl⟩ := Prod.mk.inj (Option.some.inj hexec)
    exact (hframe (by simp)).frame
      (fun _ _ hlookup => (Injector.lookup_forgetToken_iff.mp hlookup).2) (fun _ _ h => h)
      (fun entry hentry => ⟨entry, hentry, rfl⟩) (fun _ h => h) (fun _ => rfl) (fun _ h => h)
  | closeSocket session =>
    obtain ⟨-, rfl⟩ := Prod.mk.inj (Option.some.inj hexec)
    exact (hframe (by simp)).setPeer rfl (fun h => h)
  | exchangeOpened session =>
    obtain ⟨-, rfl⟩ := Prod.mk.inj (Option.some.inj hexec)
    exact (hframe (by simp)).setPeer rfl (fun h => by cases h)
  | storeOpened session opened =>
    have hnamed : Named h session := he
    obtain ⟨-, rfl⟩ := Prod.mk.inj (Option.some.inj hexec)
    have hpeer : ∀ session', ((s.setPeer session { s.peers session with opened }).peers
        session').pid = (s.peers session').pid := by
      intro session'
      by_cases heq : session' = session
      · subst heq
        simp [ControlPlane.setPeer]
      · simp [ControlPlane.setPeer, Function.update_of_ne heq]
    refine { hframe (by simp) with
      named := fun session' hsession => ?_, opened := fun session' hopened => ?_ }
    · rw [hpeer]
      exact (hframe (by simp)).named session' hsession
    · by_cases heq : session' = session
      · rw [heq]
        exact hnamed.later (List.prefix_append _ _)
      · refine (hframe (by simp)).opened session' ?_
        simpa [ControlPlane.setPeer, Function.update_of_ne heq] using hopened
  | storePid session pid =>
    have haccepted : Accepted h session pid := he
    obtain ⟨-, rfl⟩ := Prod.mk.inj (Option.some.inj hexec)
    have hstate : Guarded h (s.setPeer session { s.peers session with pid }) := by
      refine { hs with named := fun session' hnamed => ?_, opened := fun session' hopened => ?_ }
      · by_cases heq : session' = session
        · rw [heq]
          simpa [ControlPlane.setPeer] using haccepted
        · simpa [ControlPlane.setPeer, Function.update_of_ne heq] using hs.named session' hnamed
      · refine hs.opened session' ?_
        by_cases heq : session' = session
        · subst heq
          simpa [ControlPlane.setPeer] using hopened
        · simpa [ControlPlane.setPeer, Function.update_of_ne heq] using hopened
    refine hstate.extend he fun session' pid' heq => ?_
    obtain ⟨rfl, rfl⟩ : session = session' ∧ pid = pid' := by simpa using heq
    simp [ControlPlane.setPeer]
  | post session cfg =>
    obtain ⟨pid, haccepted⟩ : ∃ pid, Accepted h session pid := he
    obtain ⟨-, rfl⟩ := Prod.mk.inj (Option.some.inj hexec)
    refine { hframe (by simp) with posted := fun push hpush => ?_ }
    rcases List.mem_append.mp hpush with hold | hlast
    · exact (hframe (by simp)).posted push hold
    · rw [List.mem_singleton.mp hlast]
      exact ⟨pid, haccepted.later (List.prefix_append _ _)⟩
  | begin session cfg =>
    dsimp only [ControlPlane.exec] at hexec
    split_ifs at hexec
    obtain ⟨-, rfl⟩ := Prod.mk.inj (Option.some.inj hexec)
    exact (hframe (by simp)).frame (fun _ _ h => h) (fun _ _ h => h)
      (fun entry hentry => ⟨entry, hentry, rfl⟩) (fun _ hpush => List.mem_of_mem_erase hpush)
      (fun _ => rfl) (fun _ h => h)

/-! ## Each program comes to a section only when it may -/

namespace Plane

variable {α β : Type} {Q : PlaneHistory → α → Prop}

/-- The program comes to no section too early, once the history has reached `h`. -/
abbrev Careful (h : PlaneHistory) (p : Plane α) : Prop :=
  p.Upholds ControlPlane.exec Guarded (fun _ _ => True) h

/-- A section that is authorised when it is carried out, and what follows. -/
lemma careful_step {c : PlaneCall} {f : c.Answer → Plane α}
    (hstep : ∀ h' s x s', h <+: h' → Guarded h' s → ControlPlane.exec c s = some (x, s') →
      Authorised h' ⟨c, x⟩ ∧ Careful (h' ++ [⟨c, x⟩]) (f x)) :
    Careful h ((atomic c).bind f) := by
  intro h' s x s' hpre hs hexec
  obtain ⟨he, hrest⟩ := hstep h' s x s' hpre hs hexec
  exact ⟨hs.step hexec he, hrest⟩

/-- A section that may come at any time, and what follows. -/
lemma careful_free {c : PlaneCall} {f : c.Answer → Plane α} (hfree : ∀ h x, Authorised h ⟨c, x⟩)
    (hrest : ∀ h' x, h <+: h' → Careful h' (f x)) : Careful h ((atomic c).bind f) :=
  careful_step fun h' _ x _ hpre _ _ =>
    ⟨hfree h' x, hrest _ x (hpre.trans (List.prefix_append _ _))⟩

/-- The last section. -/
lemma careful_last {c : PlaneCall}
    (hlast : ∀ h' s x s', h <+: h' → Guarded h' s → ControlPlane.exec c s = some (x, s') →
      Authorised h' ⟨c, x⟩) : Careful h (atomic c) := fun h' s x s' hpre hs hexec =>
  ⟨hs.step hexec (hlast h' s x s' hpre hs hexec), trivial⟩

/-- One program after the other. -/
lemma careful_bind {p : Plane α} {f : α → Plane β} (hp : Careful h p)
    (hf : ∀ h' a, h <+: h' → Careful h' (f a)) : Careful h (p.bind f) :=
  Prog.upholds_bind hp.since fun h' a hsince => hf h' a hsince.1

/-- A load forgets only the token it was given. -/
lemma careful_loadInto {host : InjectHost} {already : Bool} (hminted : Minted h pid token) :
    Careful h (loadInto pid token host already) := by
  have hfailed : Careful h
      ((atomic (.forgetBootstrap pid token)).bind fun _ => Prog.ret (false, already)) :=
    careful_step fun _ _ _ _ hpre _ _ => ⟨hminted.later hpre, trivial⟩
  unfold loadInto
  cases host.load with
  | late resident =>
    cases resident with
    | false => exact hfailed
    | true => trivial
  | exited moduleHandle =>
    cases moduleHandle with
    | none => exact hfailed
    | some moduleHandle =>
      dsimp only
      split_ifs
      · exact hfailed
      · trivial
  | _ => exact hfailed

/-- An injection forgets only the token it has made. -/
lemma careful_injectorInject {port : UInt16} {host : InjectHost} :
    Careful h (injectorInject pid port host) := by
  unfold injectorInject
  cases host.process with
  | false => trivial
  | true =>
    cases host.isWow64 with
    | none => trivial
    | some isWow64 =>
      cases host.injectee with
      | false => trivial
      | true =>
        refine careful_step fun h' s x s' _ _ _ => ⟨trivial, ?_⟩
        cases x with
        | none => trivial
        | some token =>
          exact careful_loadInto
            ⟨port, host, List.mem_append_right _ (List.mem_singleton.mpr rfl)⟩

/-- An injection is careful. -/
lemma careful_inject {host : InjectHost} : Careful h (inject pid host) := by
  refine careful_free (fun _ _ => trivial) fun h' started _ => ?_
  cases started with
  | false => trivial
  | true =>
    refine careful_free (fun _ _ => trivial) fun h' contained _ => ?_
    cases contained with
    | true => trivial
    | false =>
      refine careful_free (fun _ _ => trivial) fun h' port _ => ?_
      refine careful_bind careful_injectorInject fun h' answer _ => ?_
      obtain ⟨ok, resident⟩ := answer
      cases ok with
      | false => trivial
      | true => exact careful_free (fun _ _ => trivial) fun _ _ _ => trivial

/-- A registration comes after the hello. -/
lemma careful_open (haccepted : Accepted h session pid) : Careful h («open» pid session) := by
  refine careful_step fun h' s inserted s' hpre _ _ => ⟨haccepted.later hpre, ?_⟩
  cases inserted with
  | false => trivial
  | true => exact careful_free (fun _ _ => trivial) fun _ _ _ => trivial

/-- What the end of a session takes away was presented. -/
lemma careful_remove {ending : SessionEnd} (haccepted : ∃ session, Accepted h session pid) :
    Careful h (remove pid ending) := by
  have hlater : ∀ h', h <+: h' → ∃ session, Accepted h' session pid := by
    intro h' hpre
    obtain ⟨session, haccepted⟩ := haccepted
    exact ⟨session, haccepted.later hpre⟩
  cases ending with
  | retired =>
    refine careful_free (fun _ _ => trivial) fun h₁ _ hpre₁ => ?_
    refine careful_step fun h₂ _ _ _ hpre₂ _ _ => ⟨hlater h₂ (hpre₁.trans hpre₂), ?_⟩
    exact careful_last fun h₃ _ _ _ hpre₃ _ _ =>
      hlater h₃ ((hpre₁.trans hpre₂).trans ((List.prefix_append _ _).trans hpre₃))
  | lost =>
    refine careful_step fun h₁ s stale s' hpre₁ hs hexec => ⟨hlater h₁ hpre₁, ?_⟩
    have herase : ∀ h₂, h₁ <+: h₂ → Careful h₂ (atomic (.erase pid)) := fun h₂ hpre₂ =>
      careful_last fun h₃ _ _ _ hpre₃ _ _ => hlater h₃ (hpre₁.trans (hpre₂.trans hpre₃))
    cases stale with
    | none => exact herase _ (List.prefix_append _ _)
    | some stale =>
      obtain ⟨hkeep, -⟩ := Prod.mk.inj (Option.some.inj hexec)
      have hstale : ∃ session, Accepted h₁ session stale := by
        rcases KeptBootstraps.keep_origin (Or.inr hkeep) with rfl | ⟨entry, hentry, rfl⟩
        · exact hlater h₁ hpre₁
        · exact hs.kept entry hentry
      refine careful_step fun h₂ _ _ _ hpre₂ _ _ => ⟨?_, ?_⟩
      · obtain ⟨session, haccepted⟩ := hstale
        exact ⟨session, haccepted.later ((List.prefix_append _ _).trans hpre₂)⟩
      · exact herase _ ((List.prefix_append _ _).trans (hpre₂.trans (List.prefix_append _ _)))

/-- A push is posted only for a session that was accepted. -/
lemma careful_postAll {cfg : InjectorConfig} {sessions : List SessionId}
    (hsessions : ∀ session ∈ sessions, ∃ pid, Accepted h session pid) :
    Careful h (postAll cfg sessions) := by
  induction sessions generalizing h with
  | nil => trivial
  | cons session sessions ih =>
    have hlater : ∀ h', h <+: h' → ∀ session' ∈ session :: sessions,
        ∃ pid, Accepted h' session' pid := by
      intro h' hpre session' hmem
      obtain ⟨pid, haccepted⟩ := hsessions session' hmem
      exact ⟨pid, haccepted.later hpre⟩
    refine careful_step fun h' _ _ _ hpre _ _ => ⟨hlater h' hpre session List.mem_cons_self, ?_⟩
    exact ih fun session' hmem => hlater _ (hpre.trans (List.prefix_append _ _)) session'
      (List.mem_cons_of_mem _ hmem)

/-- A broadcast goes to the sessions of the table, and these were accepted. -/
lemma careful_broadcastConfig : Careful h broadcastConfig := by
  refine careful_free (fun _ _ => trivial) fun h' cfg _ => ?_
  refine careful_step fun h' s sessions s' _ hs hexec => ⟨trivial, careful_postAll ?_⟩
  obtain ⟨rfl, -⟩ := Prod.mk.inj (Option.some.inj hexec)
  intro session hmem
  obtain ⟨pid, hlookup⟩ := InjectorServer.mem_snapshot.mp hmem
  exact ⟨pid, (hs.registered pid session hlookup).later (List.prefix_append _ _)⟩

/-- A setter is careful. -/
lemma careful_set {call : ConfigSetter} : Careful h (set call) := by
  refine careful_free (fun _ _ => trivial) fun h' _ _ => ?_
  refine careful_free (fun _ _ => trivial) fun h' _ _ => ?_
  exact careful_bind careful_broadcastConfig fun h' _ _ =>
    careful_last fun _ _ _ _ _ _ _ => trivial

/-- Only a session that has registered takes anything down. -/
lemma careful_stop {ending : SessionEnd} : Careful h (stop session ending) := by
  refine careful_free (fun _ _ => trivial) fun h₁ _ _ => ?_
  refine careful_step fun h₂ s₂ opened _ _ hs₂ hexchange => ⟨trivial, ?_⟩
  cases opened with
  | false => trivial
  | true =>
    obtain ⟨hopened, -⟩ := Prod.mk.inj (Option.some.inj hexchange)
    have hnamed : Named h₂ session := hs₂.opened session hopened
    -- from here on the process of the session is one that it has presented
    have hread : ∀ h₃ s₃ pid s₃', h₂ <+: h₃ → Guarded h₃ s₃ →
        ControlPlane.exec (.pid session) s₃ = some (pid, s₃') → Accepted h₃ session pid := by
      intro h₃ s₃ pid s₃' hpre hs₃ hexec
      obtain ⟨rfl, -⟩ := Prod.mk.inj (Option.some.inj hexec)
      exact hs₃.named session (hnamed.later hpre)
    refine careful_step fun h₃ s₃ pid s₃' hpre₃ hs₃ hexec => ⟨trivial, ?_⟩
    have hpre : h₂ <+: h₃ := (List.prefix_append _ _).trans hpre₃
    have haccepted := hread h₃ s₃ pid s₃' hpre hs₃ hexec
    refine careful_bind
      (careful_remove ⟨session, haccepted.later (List.prefix_append _ _)⟩) fun h₄ _ hpre₄ => ?_
    have hpre' : h₂ <+: h₄ := hpre.trans ((List.prefix_append _ _).trans hpre₄)
    refine careful_step fun h₅ s₅ pid' s₅' hpre₅ hs₅ hexec' => ⟨trivial, ?_⟩
    have haccepted' := hread h₅ s₅ pid' s₅' (hpre'.trans hpre₅) hs₅ hexec'
    exact careful_last fun h₆ _ _ _ hpre₆ _ _ =>
      haccepted'.later ((List.prefix_append _ _).trans hpre₆)

/-- The front end closes a session carefully. -/
lemma careful_close : Careful h (close pid) := by
  refine careful_free (fun _ _ => trivial) fun h' client _ => ?_
  cases client with
  | none => trivial
  | some session => exact careful_bind careful_stop fun _ _ _ => trivial

/-- Children are injected carefully. -/
lemma careful_injectAll {children : List (DWORD × InjectHost)} :
    Careful h (injectAll children) := by
  induction children generalizing h with
  | nil => trivial
  | cons child children ih => exact careful_bind careful_inject fun _ _ _ => ih

/-- The configuration goes to a session that was accepted. -/
lemma careful_sendConfig {cfg : InjectorConfig} {written : Bool}
    (haccepted : Accepted h session pid) (hnamed : Named h session) :
    Careful h (sendConfig session cfg written) := by
  refine careful_step fun h₁ _ sent _ hpre₁ _ _ => ⟨⟨pid, haccepted.later hpre₁⟩, ?_⟩
  cases sent with
  | false => trivial
  | true =>
    refine careful_step fun h₂ s₂ pid' s₂' hpre₂ hs₂ hexec => ⟨trivial, ?_⟩
    obtain ⟨rfl, -⟩ := Prod.mk.inj (Option.some.inj hexec)
    have hpid : Accepted h₂ session (s₂.peers session).pid :=
      hs₂.named session (hnamed.later (hpre₁.trans ((List.prefix_append _ _).trans hpre₂)))
    exact careful_last fun h₃ _ _ _ hpre₃ _ _ =>
      hpid.later ((List.prefix_append _ _).trans hpre₃)

/-- The configuration may be read at any time. -/
lemma careful_getConfig : Careful h getConfig :=
  careful_free (fun _ _ => trivial) fun _ _ _ => careful_free (fun _ _ => trivial) fun _ _ _ =>
    careful_free (fun _ _ => trivial) fun _ _ _ => trivial

/-- An accepted hello is handled carefully. -/
lemma careful_greet {host : MessageHost} (haccepted : Accepted h session pid) :
    Careful h (greet session host pid) := by
  refine careful_step fun h₁ _ stored _ hpre₁ _ _ => ⟨haccepted.later hpre₁, ?_⟩
  have hnamed : Named (h₁ ++ [⟨.storePid session pid, stored⟩]) session :=
    ⟨pid, List.mem_append_right _ (List.mem_singleton.mpr rfl)⟩
  have haccepted₁ : Accepted (h₁ ++ [⟨.storePid session pid, stored⟩]) session pid :=
    haccepted.later (hpre₁.trans (List.prefix_append _ _))
  refine careful_bind (careful_open haccepted₁) fun h₂ opened hpre₂ => ?_
  refine careful_step fun h₃ _ _ _ hpre₃ _ _ => ⟨hnamed.later (hpre₂.trans hpre₃), ?_⟩
  refine careful_bind careful_getConfig fun h₄ cfg hpre₄ => ?_
  refine careful_bind careful_injectAll fun h₅ _ hpre₅ => ?_
  have hpre : h₁ ++ [⟨.storePid session pid, stored⟩] <+: h₅ :=
    (hpre₂.trans hpre₃).trans ((List.prefix_append _ _).trans (hpre₄.trans hpre₅))
  exact careful_sendConfig (haccepted₁.later hpre) (hnamed.later hpre)

/-- A hello is handled carefully: only the accepted one goes on. -/
lemma careful_processHello {host : MessageHost} {presented : Option Bytes} :
    Careful h (processHello session host pid presented) := by
  refine careful_step fun h' s accepted s' _ hs hexec => ⟨fun haccepted => ?_, ?_⟩
  · obtain ⟨hmatches, -⟩ := Prod.mk.inj (Option.some.inj hexec)
    obtain ⟨token, htoken, hlookup⟩ :=
      Injector.tokenMatches_iff.mp (hmatches.trans haccepted)
    exact ⟨token, htoken, hs.minted pid token hlookup⟩
  · cases accepted with
    | false => exact careful_free (fun _ _ => trivial) fun _ _ _ => careful_stop
    | true =>
      exact careful_greet ⟨presented, List.mem_append_right _ (List.mem_singleton.mpr rfl)⟩

/-- A message is handled carefully. -/
lemma careful_process {host : MessageHost} {msg : InjecteeMessage} :
    Careful h (process session host msg) := by
  unfold process
  cases compareMessage "pid" msg.opcode msg.pid with
  | some v => exact careful_processHello
  | none =>
    cases compareMessage "connect" msg.opcode msg.connect with
    | some report => exact careful_last fun _ _ _ _ _ _ _ => trivial
    | none =>
      cases compareMessage "subpid" msg.opcode msg.subpid with
      | none => trivial
      | some v =>
        exact careful_bind careful_inject fun _ _ _ => careful_last fun _ _ _ _ _ _ _ => trivial

/-- A push goes to the session it was posted for. -/
lemma careful_push {cfg : InjectorConfig} {written : Bool} :
    Careful h (push session cfg written) := by
  refine careful_step fun h₁ s _ s' _ hs hexec => ?_
  have hmem : (session, cfg) ∈ s.posted := by
    dsimp only [ControlPlane.exec] at hexec
    split_ifs at hexec with hmem
    exact hmem
  obtain ⟨pid, haccepted⟩ := hs.posted _ hmem
  refine ⟨⟨pid, haccepted⟩, careful_step fun h₂ _ _ _ hpre _ _ => ⟨?_, trivial⟩⟩
  exact ⟨pid, haccepted.later ((List.prefix_append _ _).trans hpre)⟩

/-- Every thread of the tool is careful. -/
lemma careful_body (thread : PlaneThread) : Careful h thread.body := by
  cases thread with
  | setPort port => exact careful_last fun _ _ _ _ _ _ _ => trivial
  | inject pid host => exact careful_bind careful_inject fun _ _ _ => trivial
  | close pid => exact careful_bind careful_close fun _ _ _ => trivial
  | set call => exact careful_set
  | message session host msg => exact careful_process
  | lost session => exact careful_stop
  | push session cfg written => exact careful_push

end Plane

namespace ControlPlane

variable {cfg : InjectorConfig} {port : UInt16} {schedule : List (Turn PlaneThread)}

/-- After every schedule, the state owes nothing that the past has not seen. -/
lemma guarded_after (cfg : InjectorConfig) (port : UInt16) (schedule : List (Turn PlaneThread)) :
    Guarded (after { config := cfg, port } schedule).history
      (after { config := cfg, port } schedule).state := by
  have hinit : Guarded [] { server := { config := cfg, port } } := by
    refine ⟨chronicle_nil, ?_, ?_, ?_, ?_, ?_, ?_⟩ <;> simp [Named]
  exact (Pool.run_upholds ⟨hinit, by simp⟩ fun thread _ => Plane.careful_body thread).holds

/-- Whoever is registered for a process has presented a token that was made for it. -/
theorem registered_presented (cfg : InjectorConfig) (port : UInt16)
    (schedule : List (Turn PlaneThread)) {pid : DWORD} {session : SessionId}
    (hregistered : (after { config := cfg, port } schedule).state.server.clients.lookup pid =
      some session) :
    Presented (after { config := cfg, port } schedule).history session pid := by
  have hguarded := guarded_after cfg port schedule
  exact (hguarded.registered pid session hregistered).presented hguarded.authorised

/-- A session is served only after it has presented a token that was made for a process: it is
registered, it gets a configuration, and the front end hears of its beginning and its end. -/
theorem served_presented (cfg : InjectorConfig) (port : UInt16)
    (schedule : List (Turn PlaneThread)) :
    Chronicle (fun pre e => ∀ session, Serves session e → ∃ pid, Presented pre session pid)
      (after { config := cfg, port } schedule).history := by
  have hguarded := guarded_after cfg port schedule
  intro pre e post heq session hserves
  have hpre : Chronicle Authorised pre :=
    hguarded.authorised.start ⟨e :: post, heq.symm⟩
  have he : Authorised pre e := hguarded.authorised pre e post heq
  obtain ⟨c, x⟩ := e
  cases c with
  | insert pid session' =>
    obtain rfl : session' = session := hserves
    exact ⟨pid, Accepted.presented hpre he⟩
  | post session' cfg =>
    obtain rfl : session' = session := hserves
    obtain ⟨pid, haccepted⟩ := he
    exact ⟨pid, haccepted.presented hpre⟩
  | send session' cfg written =>
    obtain rfl : session' = session := hserves
    obtain ⟨pid, haccepted⟩ := he
    exact ⟨pid, haccepted.presented hpre⟩
  | effect session' shown =>
    cases shown with
    | processPid pid =>
      obtain rfl : session' = session := hserves
      exact ⟨pid, Accepted.presented hpre he⟩
    | processClose pid =>
      obtain rfl : session' = session := hserves
      exact ⟨pid, Accepted.presented hpre he⟩
    | _ => exact hserves.elim
  | _ => exact hserves.elim

/-- A turn adds a section to the past, or changes nothing but the threads. -/
lemma after_concat (server : InjectorServer) (schedule : List (Turn PlaneThread))
    (turn : Turn PlaneThread) :
    ((after server (schedule ++ [turn])).history = (after server schedule).history ∧
        (after server (schedule ++ [turn])).state = (after server schedule).state) ∨
      ∃ (c : PlaneCall) (x : c.Answer),
        (after server (schedule ++ [turn])).history =
            (after server schedule).history ++ [⟨c, x⟩] ∧
          exec c (after server schedule).state =
            some (x, (after server (schedule ++ [turn])).state) := by
  unfold after
  rw [Mealy.run_concat]
  cases turn with
  | enter thread => exact Or.inl ⟨rfl, rfl⟩
  | go i =>
    rcases Pool.advance_cases exec (Mealy.run (Pool.step exec PlaneThread.body)
      { state := { server } } schedule) i with hsame | ⟨c, k, x, state, -, hexec, hnext⟩
    · exact Or.inl ⟨congrArg Pool.history hsame, congrArg Pool.state hsame⟩
    · refine Or.inr ⟨c, x, congrArg Pool.history hnext, hexec.trans ?_⟩
      exact congrArg (fun s => some (x, s)) (congrArg Pool.state hnext).symm

/-- The token that is recorded for a process. -/
abbrev tokenOf (s : ControlPlane) (pid : DWORD) : Option Bytes :=
  s.server.injector.tokens.lookup pid

/-- Only three sections take a token away. -/
lemma lost_token_cases {s s' : ControlPlane} {c : PlaneCall} {x : c.Answer}
    (hexec : exec c s = some (x, s')) {pid : DWORD} {token : Bytes}
    (hbefore : s.tokenOf pid = some token) (hafter : s'.tokenOf pid ≠ some token) :
    (∃ port host fresh, (⟨c, x⟩ : Event PlaneCall.Answer) =
        ⟨.publish pid port host, some fresh⟩) ∨
      c = .forgetBootstrap pid token ∨ c = .forgetToken pid := by
  cases c with
  | publish pid' port host =>
    obtain ⟨rfl, rfl⟩ := Prod.mk.inj (Option.some.inj hexec)
    rcases s.server.injector.publish_cases pid' port host with hsame | ⟨payload, hpublish⟩
    · exact absurd ((congrArg (fun p => p.1.tokens.lookup pid) hsame).trans hbefore) hafter
    · by_cases heq : pid = pid'
      · subst heq
        refine Or.inl ⟨port, host, payload.injectionToken, ?_⟩
        rw [congrArg Prod.snd hpublish]
      · have hkeep := (congrArg (fun p => p.1.tokens.lookup pid) hpublish).trans
          (Injector.lookup_record_ne heq)
        exact absurd (hkeep.trans hbefore) hafter
  | forgetBootstrap pid' token' =>
    obtain ⟨rfl, rfl⟩ := Prod.mk.inj (Option.some.inj hexec)
    by_cases heq : pid = pid' ∧ token = token'
    · obtain ⟨rfl, rfl⟩ := heq
      exact Or.inr (Or.inl rfl)
    · exact absurd (Injector.lookup_forgetBootstrap_iff.mpr ⟨heq, hbefore⟩) hafter
  | forgetToken pid' =>
    obtain ⟨rfl, rfl⟩ := Prod.mk.inj (Option.some.inj hexec)
    by_cases heq : pid = pid'
    · rw [heq]
      exact Or.inr (Or.inr rfl)
    · exact absurd (Injector.lookup_forgetToken_iff.mpr ⟨heq, hbefore⟩) hafter
  | lock | insert _ _ | begin _ _ =>
    dsimp only [exec] at hexec
    split_ifs at hexec
    all_goals
      obtain ⟨-, rfl⟩ := Prod.mk.inj (Option.some.inj hexec)
      exact absurd hbefore hafter
  | _ =>
    obtain ⟨-, rfl⟩ := Prod.mk.inj (Option.some.inj hexec)
    exact absurd hbefore hafter

/-- A token that is recorded is lost to a later publish for the same process, to the rollback of the
publish that made it, or after some session has presented a token of this process. -/
theorem lost_token (cfg : InjectorConfig) (port : UInt16) (schedule : List (Turn PlaneThread))
    (turn : Turn PlaneThread) {pid : DWORD} {token : Bytes}
    (hbefore : (after { config := cfg, port } schedule).state.tokenOf pid = some token)
    (hafter : (after { config := cfg, port } (schedule ++ [turn])).state.tokenOf pid ≠
      some token) :
    ∃ e, (after { config := cfg, port } (schedule ++ [turn])).history =
        (after { config := cfg, port } schedule).history ++ [e] ∧
      ((∃ port host fresh, e = ⟨.publish pid port host, some fresh⟩) ∨
        (∃ undone, e = ⟨.forgetBootstrap pid token, undone⟩) ∨
        e = ⟨.forgetToken pid, ()⟩ ∧
          ∃ session, Presented (after { config := cfg, port } schedule).history session pid) := by
  rcases after_concat { config := cfg, port } schedule turn with
    ⟨-, hstate⟩ | ⟨c, x, hhistory, hexec⟩
  · rw [hstate] at hafter
    exact absurd hbefore hafter
  have hguarded := guarded_after cfg port (schedule ++ [turn])
  refine ⟨⟨c, x⟩, hhistory, ?_⟩
  rcases lost_token_cases hexec hbefore hafter with hpublish | rfl | rfl
  · exact Or.inl hpublish
  · exact Or.inr (Or.inl ⟨x, rfl⟩)
  · obtain ⟨hpre, hlast⟩ := chronicle_concat.mp (hhistory ▸ hguarded.authorised)
    obtain ⟨session, haccepted⟩ : ∃ session,
        Accepted (after { config := cfg, port } schedule).history session pid := hlast
    exact Or.inr (Or.inr ⟨rfl, session, haccepted.presented hpre⟩)

end ControlPlane

/-- Process 5 is registered for session 0. -/
theorem registered_presented_hello :
    Presented (ControlPlane.after { port := 40000 } helloSchedule).history 0 5 :=
  ControlPlane.registered_presented {} 40000 helloSchedule (by decide)

/-- Then the front end closes the session, up to the section that forgets the token. -/
def closeSchedule : List (Turn PlaneThread) :=
  helloSchedule ++ [.go 1, .go 1, .enter (.close 5), .go 2, .go 2, .go 2, .go 2, .go 2]

/-- Process 5 loses its token when its session is closed. -/
theorem lost_token_close :
    ∃ e, (ControlPlane.after { port := 40000 } (closeSchedule ++ [.go 2])).history =
        (ControlPlane.after { port := 40000 } closeSchedule).history ++ [e] ∧
      ((∃ port host fresh, e = ⟨.publish 5 port host, some fresh⟩) ∨
        (∃ undone, e = ⟨.forgetBootstrap 5 (List.replicate 8 7), undone⟩) ∨
        e = ⟨.forgetToken 5, ()⟩ ∧
          ∃ session,
            Presented (ControlPlane.after { port := 40000 } closeSchedule).history session 5) :=
  ControlPlane.lost_token {} 40000 closeSchedule (.go 2) (by decide) (by decide)

end Encapsule
