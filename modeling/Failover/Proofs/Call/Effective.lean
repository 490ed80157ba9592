import Failover.Call.Client
import Failover.Proofs.Policy.Resolution

/-!
# Calls — decided by the configuration of the service

A client of properties makes every call on a service as the service's own configuration says, and
looks at nothing else in the properties: not at the entries of other services, and not at the
defaults where the service has an entry.  A configuration that is switched off is kept as
`Policy.never`, which no call can tell from the policy that follows the configuration.

* `AlikeOn`: two clients make the same of every call on a service.
* `executeRetrying_ofEntry`: what is kept for a configuration, against what follows it.
* `ofProperties_decided`: the client of properties.
-/

namespace Failover

namespace Setup

variable {σ : Type} {s : Setup σ} {p q : Policy} {service : String} {raw : Request} {w : World σ}
  {limit : Nat} {config : RetryConfig} {d : Policy.Configured}

/-- Where a method is refused, a policy is only asked whether retries are on. -/
theorem executeRetrying_of_refused (hp : p.admits raw.method = false)
    (hq : q.admits raw.method = false) (he : p.enabled = q.enabled) :
    s.executeRetrying limit p service raw w = s.executeRetrying limit q service raw w := by
  simp only [executeRetrying, bypass, hp, hq, he, Bool.false_eq_true, if_false]

/-- The policy that is kept for a configuration and the one that follows it make the same calls. -/
theorem executeRetrying_ofEntry (hp : Policy.ofEntry? config = .ok p)
    (hd : Policy.Configured.of config none = .ok d) :
    s.executeRetrying limit p service raw w =
      s.executeRetrying limit (.ofConfigured d) service raw w := by
  obtain ⟨he, rfl⟩ | ⟨-, d', hd', rfl⟩ := Policy.ofEntry_eq_ok hp
  · have he' : d.config.enabled = false := by rw [Policy.config_of_eq_ok hd, he]
    have refused : (Policy.ofConfigured d).admits raw.method = false := by
      simp only [Policy.ofConfigured, he', Bool.false_and]
    exact executeRetrying_of_refused rfl refused he'.symm
  · obtain rfl := Except.ok.inj (hd'.symm.trans hd)
    rfl

end Setup

namespace Client

/-- Two clients make the same of every call on a service: with any balancer, pipeline, sink, sleeper
and token, and from any world, they come to the same outcome and leave the same world behind, with
all choices, attempts, events and waits in it. -/
def AlikeOn (c c' : Client) (service : String) : Prop :=
  ∀ (σ : Type) (s : Setup σ) (raw : Request) (w : World σ),
    c.execute s service raw w = c'.execute s service raw w

theorem AlikeOn.symm {c c' : Client} {service : String} (h : c.AlikeOn c' service) :
    c'.AlikeOn c service := fun σ s raw w => (h σ s raw w).symm

theorem AlikeOn.trans {c c' c'' : Client} {service : String} (h : c.AlikeOn c' service)
    (h' : c'.AlikeOn c'' service) : c.AlikeOn c'' service := fun σ s raw w =>
  (h σ s raw w).trans (h' σ s raw w)

variable {p q : Properties} {client client' : Client} {service : String} {d : Policy.Configured}
  {r : Registry}

/-- The client of properties makes the calls of any registry that holds, for the service, the
policy that follows its configuration. -/
theorem alikeOn_configured (on : p.enabled = true) (built : ofProperties p = .ok client)
    (hd : Policy.Configured.of (p.configFor service) none = .ok d)
    (hr : r.policyFor service = .ofConfigured d) : client.AlikeOn (.retrying r) service := by
  obtain ⟨registry, hregistry, rfl⟩ := ofProperties_eq_ok on built
  intro σ s raw w
  rw [execute, execute, hr]
  exact Setup.executeRetrying_ofEntry (Registry.ofEntry_configFor hregistry) hd

/-- What decides the calls of a client of properties on a service. -/
structure Decided (p : Properties) (client : Client) (service : String) : Prop where
  /-- A retrying client whose policy for the service follows the service's configuration, also where
  that is switched off. -/
  configured : ∃ d, Policy.Configured.of (p.configFor service) none = .ok d ∧
    ∀ r : Registry, r.policyFor service = .ofConfigured d → client.AlikeOn (.retrying r) service
  /-- The configuration of the service alone. -/
  effective : ∀ q client', q.enabled = true → ofProperties q = .ok client' →
    q.configFor service = p.configFor service → client.AlikeOn client' service
  /-- The entry of the service alone, if it has one. -/
  listed : ∀ config, p.services.get? service = some config →
    ∀ q client', q.enabled = true → ofProperties q = .ok client' →
      q.services.get? service = some config → client.AlikeOn client' service

/-- **A client of properties is decided by the configuration of the service that is called**; and
one whose properties are switched off is plain. -/
theorem ofProperties_decided (p : Properties) :
    (p.enabled = false → ∃ client, ofProperties p = .ok client ∧
      ∀ service, client.AlikeOn .plain service) ∧
    (p.enabled = true → p.validate = .ok () → ∃ client, ofProperties p = .ok client ∧
      ∀ service, Decided p client service) := by
  refine ⟨fun off => ⟨.plain, ofProperties_of_disabled off, fun _ _ _ _ _ => rfl⟩,
    fun on valid => ?_⟩
  obtain ⟨registry, built⟩ := exists_ofProperties on valid
  refine ⟨.retrying registry, built, fun service => ?_⟩
  obtain ⟨d, hd, -⟩ : ∃ d, Policy.Configured.of (p.configFor service) none = .ok d ∧ _ :=
    Policy.exists_configured (Properties.validate_configFor valid)
  have effective : ∀ q client', q.enabled = true → ofProperties q = .ok client' →
      q.configFor service = p.configFor service →
        (Client.retrying registry).AlikeOn client' service := by
    intro q client' on' built' same
    -- Both clients make the calls of one that knows the configuration and nothing else.
    let only := Registry.ofFallback (.ofConfigured d)
    have mine : (Client.retrying registry).AlikeOn (.retrying only) service :=
      alikeOn_configured on built hd rfl
    have other : client'.AlikeOn (.retrying only) service :=
      alikeOn_configured on' built' (same ▸ hd) rfl
    exact mine.trans other.symm
  refine ⟨⟨d, hd, fun r hr => alikeOn_configured on built hd hr⟩, effective, ?_⟩
  intro config hp q client' on' built' hq
  refine effective q client' on' built' ?_
  rw [Properties.configFor, Properties.configFor, hp, hq]
  rfl

/-- A service that is switched off beside others that are not: `never` is kept for it, and the calls
are those of its configuration.  With the global switch off all calls are plain. -/
theorem ofProperties_decided_switched_off :
    ∃ p client, p.enabled = true ∧ p.validate = .ok () ∧ ofProperties p = .ok client ∧
      p.configFor "users" = .disabled ∧ p.configFor "orders" = .default ∧
      Decided p client "users" ∧
      ∃ client', ofProperties { p with enabled := false } = .ok client' ∧
        client'.AlikeOn .plain "orders" := by
  let p := (Properties.mk true .default .empty).withService "users" .disabled
  obtain ⟨client, built, decided⟩ := (ofProperties_decided p).2 rfl rfl
  obtain ⟨client', built', plain⟩ := (ofProperties_decided { p with enabled := false }).1 rfl
  exact ⟨p, client, rfl, rfl, built, rfl, rfl, decided "users", client', built', plain "orders"⟩

end Client

end Failover
