import Encapsule.Common.ProxyUrl
import Encapsule.Foundation.Mealy

/-!
# The routing configuration of an injectee

`injectee_config` of `client.hpp`: the configuration that the injector pushed last, in two copies.
One belongs to the live session and the other is pinned, so that the loss of the session changes
nothing for the hooks (`InjecteeConfig.get_run`).
-/

namespace Encapsule

/-- `injectee_route`: what one call of a hook is routed by. -/
structure InjecteeRoute where
  proxy : Option IpAddr := none
  log : Bool := false
  subprocess : Bool := false
  username : Bytes := []
  password : Bytes := []
  deriving DecidableEq

/-- `injectee_config`. -/
structure InjecteeConfig where
  cfg : InjectorConfig := {}
  pinned : InjectorConfig := {}
  live : Bool := false
  deriving DecidableEq

/-- What happens to the configuration of an injectee. -/
inductive ConfigEvent where
  | set (cfg : InjectorConfig)
  | drop
  deriving DecidableEq

namespace InjecteeConfig

/-- `set`. -/
def set (cfg : InjectorConfig) : InjecteeConfig := { cfg, pinned := cfg, live := true }

/-- `drop`. -/
def drop (c : InjecteeConfig) : InjecteeConfig := { c with live := false }

/-- `copy_credential`: what of a credential fits the array of a route. -/
def copyCredential (value : Option Bytes) : Bytes := (value.getD []).take proxyCredentialMaxLength

/-- The route that a configuration describes. -/
def routeOf (src : InjectorConfig) : InjecteeRoute where
  proxy := src.addr
  log := src.log.getD false
  subprocess := src.subprocess.getD false
  username := copyCredential src.username
  password := copyCredential src.password

/-- `get`. -/
def get (c : InjecteeConfig) : InjecteeRoute := routeOf (if c.live then c.cfg else c.pinned)

/-- One event. -/
def step (c : InjecteeConfig) : ConfigEvent → InjecteeConfig × Unit
  | .set cfg => (set cfg, ())
  | .drop => (c.drop, ())

/-- The configuration that was delivered last. -/
def lastDelivered (history : List ConfigEvent) : Option InjectorConfig :=
  (history.filterMap fun
    | .set cfg => some cfg
    | .drop => none).getLast?

/-- A delivery is the last one until the next. -/
lemma lastDelivered_set (history : List ConfigEvent) (cfg : InjectorConfig) :
    lastDelivered (history ++ [.set cfg]) = some cfg := by
  simp [lastDelivered]

/-- The loss of a session is no delivery. -/
lemma lastDelivered_drop (history : List ConfigEvent) :
    lastDelivered (history ++ [.drop]) = lastDelivered history := by
  simp [lastDelivered]

/-- The pinned configuration is the one delivered last, and so is the live one. -/
lemma pinned_run (history : List ConfigEvent) :
    (Mealy.run step {} history).pinned = (lastDelivered history).getD {} ∧
      ((Mealy.run step {} history).live = true →
        (Mealy.run step {} history).cfg = (lastDelivered history).getD {}) := by
  induction history using List.reverseRecOn with
  | nil => exact ⟨rfl, fun h => by cases h⟩
  | append_singleton history event ih =>
    rw [Mealy.run_concat]
    cases event with
    | set cfg =>
      rw [lastDelivered_set]
      exact ⟨rfl, fun _ => rfl⟩
    | drop =>
      rw [lastDelivered_drop]
      exact ⟨ih.1, fun h => by cases h⟩

/-- After any history the hooks route by the configuration that was delivered last. -/
theorem get_run (history : List ConfigEvent) :
    (Mealy.run step {} history).get = routeOf ((lastDelivered history).getD {}) := by
  obtain ⟨hpinned, hlive⟩ := pinned_run history
  unfold get
  split_ifs with h
  · rw [hlive h]
  · rw [hpinned]

end InjecteeConfig

end Encapsule
