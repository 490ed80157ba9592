import Failover.Call.Client
import Failover.Proofs.Ordered

/-!
# Policies — what a service's name resolves to

Properties hold configurations, and a registry holds the policies that stand for them.  Both resolve
a name in their own way: the properties by a look-up with the defaults, the registry by a look-up
with its fallback.  The two agree, entry by entry, and a configuration that is switched off answers
for a whole call what `Policy.never` answers in its place.

* `Registry.ofEntry_configFor`: a service is called under the policy of its own configuration.
* `Registry.exists_ofProperties`: valid properties build a registry.
* `Policy.ofEntry_admits`, `Policy.ofEntry_enabled`: what such a policy admits.
-/

namespace Failover

/-! ### Valid configurations -/

/-- There is no fault among configurations if there is none in any. -/
theorem RetryConfig.validateAll_eq_ok_iff {cs : List RetryConfig} :
    RetryConfig.validateAll cs = .ok () ↔ ∀ c ∈ cs, c.validate = .ok () := by
  induction cs with
  | nil => simp [validateAll]
  | cons c cs ih =>
      rw [validateAll, List.forall_mem_cons, ← ih]
      cases c.validate with
      | error e => simp
      | ok _ => simp

namespace Properties

variable {p : Properties} {service : String}

/-- Properties are valid if their defaults and all entries are. -/
theorem validate_eq_ok_iff :
    p.validate = .ok () ↔
      p.defaults.validate = .ok () ∧ ∀ c ∈ p.services.values, c.validate = .ok () := by
  rw [validate, RetryConfig.validateAll_eq_ok_iff, List.forall_mem_cons]

/-- The configuration of every service is checked with the properties. -/
theorem validate_configFor (h : p.validate = .ok ()) : (p.configFor service).validate = .ok () := by
  obtain ⟨defaults, entries⟩ := validate_eq_ok_iff.mp h
  rw [configFor]
  cases hs : p.services.get? service with
  | none => exact defaults
  | some c => exact entries c (OrderedMap.mem_values_of_get? hs)

end Properties

namespace Policy

variable {config : RetryConfig} {classifier : Option Classifier} {policy : Policy} {m : Method}

/-- A configuration without a fault can be followed, and is kept as it is. -/
theorem exists_configured (h : config.validate = .ok ()) :
    ∃ d, Configured.of config classifier = .ok d ∧ d.config = config ∧
      d.classifier = classifier := by
  have backoff : ∃ b, config.backoff.toBackoff = .ok b := by
    rw [RetryConfig.validate] at h
    cases hb : config.backoff.toBackoff with
    | ok b => exact ⟨b, rfl⟩
    | error e =>
        split at h
        · cases h
        · split at h
          · cases h
          · rw [hb] at h
            cases h
  obtain ⟨b, hb⟩ := backoff
  refine ⟨⟨config, b, classifier, h, hb⟩, ?_, rfl, rfl⟩
  rw [Configured.of]
  split
  · rename_i e he
    cases h.symm.trans he
  · split
    · rename_i e he
      cases hb.symm.trans he
    · rename_i b' hb'
      cases hb.symm.trans hb'
      rfl

/-- What is followed is the given configuration. -/
theorem config_of_eq_ok {d : Configured} (h : Configured.of config classifier = .ok d) :
    d.config = config := by
  rw [Configured.of] at h
  split at h
  · cases h
  · split at h
    · cases h
    · cases h
      rfl

theorem ofEntry_eq :
    ofEntry? config = if config.enabled then ofConfig? config none else .ok never := rfl

theorem ofEntry_of_disabled (h : config.enabled = false) : ofEntry? config = .ok never := by
  rw [ofEntry_eq, if_neg (by simp [h])]

theorem ofEntry_of_enabled {d : Configured} (h : config.enabled = true)
    (hd : Configured.of config none = .ok d) : ofEntry? config = .ok (ofConfigured d) := by
  rw [ofEntry_eq, if_pos h, ofConfig?, hd]
  rfl

/-- The policy of an entry is `never`, or follows the configuration. -/
theorem ofEntry_eq_ok (h : ofEntry? config = .ok policy) :
    config.enabled = false ∧ policy = never ∨
      config.enabled = true ∧ ∃ d, Configured.of config none = .ok d ∧ policy = ofConfigured d := by
  cases he : config.enabled with
  | false =>
      rw [ofEntry_of_disabled he] at h
      exact .inl ⟨rfl, (Except.ok.inj h).symm⟩
  | true =>
      rw [ofEntry_eq, if_pos he, ofConfig?] at h
      cases hd : Configured.of config none with
      | error e =>
          rw [hd] at h
          cases h
      | ok d =>
          rw [hd] at h
          exact .inr ⟨rfl, d, rfl, (Except.ok.inj h).symm⟩

/-- Both kinds of entry say of themselves whether retries are on. -/
theorem ofEntry_enabled (h : ofEntry? config = .ok policy) : policy.enabled = config.enabled := by
  obtain ⟨he, rfl⟩ | ⟨he, d, hd, rfl⟩ := ofEntry_eq_ok h
  · rw [he]
    rfl
  · rw [← config_of_eq_ok hd]
    rfl

/-- Both kinds of entry admit a method as the configuration says. -/
theorem ofEntry_admits (h : ofEntry? config = .ok policy) :
    policy.admits m = (config.enabled && (config.allOperations || m.isSafe)) := by
  obtain ⟨he, rfl⟩ | ⟨he, d, hd, rfl⟩ := ofEntry_eq_ok h
  · rw [he]
    rfl
  · rw [← config_of_eq_ok hd]
    rfl

end Policy

namespace Registry

variable {policies built : OrderedMap String Policy} {es : List (String × RetryConfig)}
  {name service : String} {config : RetryConfig} {p : Properties} {r : Registry}

/-! ### Entries -/

/-- Entries that all have a policy can be entered. -/
theorem exists_addEntries (h : ∀ e ∈ es, ∃ policy, Policy.ofEntry? e.2 = .ok policy) :
    ∃ built, addEntries policies es = .ok built := by
  induction es generalizing policies with
  | nil => exact ⟨policies, rfl⟩
  | cons e es ih =>
      obtain ⟨policy, he⟩ := h e List.mem_cons_self
      rw [addEntries, he]
      exact ih fun x hx => h x (List.mem_cons_of_mem e hx)

/-- The first entry is entered before the others. -/
theorem addEntries_cons (h : addEntries policies ((name, config) :: es) = .ok built) :
    ∃ policy, Policy.ofEntry? config = .ok policy ∧
      addEntries (policies.insert name policy) es = .ok built := by
  rw [addEntries] at h
  cases he : Policy.ofEntry? config with
  | error e =>
      rw [he] at h
      cases h
  | ok policy =>
      rw [he] at h
      exact ⟨policy, rfl, h⟩

/-- A name without an entry keeps what it had. -/
theorem get?_addEntries_of_none (h : addEntries policies es = .ok built)
    (hs : es.lookup service = none) : built.get? service = policies.get? service := by
  induction es generalizing policies with
  | nil => rw [Except.ok.inj h]
  | cons e es ih =>
      obtain ⟨name, config⟩ := e
      obtain ⟨policy, -, rest⟩ := addEntries_cons h
      rw [OrderedMap.lookup_cons_eq_ite] at hs
      split at hs
      · cases hs
      · rename_i hne
        rw [ih rest hs, OrderedMap.get?_insert, if_neg hne]

/-- A name with one entry gets the policy of that entry. -/
theorem get?_addEntries_of_some (h : addEntries policies es = .ok built)
    (ascending : (es.map Prod.fst).Pairwise (· < ·))
    (hs : es.lookup service = some config) :
    ∃ policy, Policy.ofEntry? config = .ok policy ∧ built.get? service = some policy := by
  induction es generalizing policies with
  | nil => cases hs
  | cons e es ih =>
      obtain ⟨name, config'⟩ := e
      obtain ⟨policy, he, rest⟩ := addEntries_cons h
      obtain ⟨smallest, ascending⟩ := List.pairwise_cons.mp ascending
      rw [OrderedMap.lookup_cons_eq_ite] at hs
      split at hs
      · rename_i hname
        obtain rfl := hname
        obtain rfl := Option.some.inj hs
        -- The names ascend, so that no later entry takes the place of this one.
        have later : es.lookup service = none := by
          rw [← Option.not_isSome_iff_eq_none, OrderedMap.isSome_lookup_iff]
          exact fun hmem => Std.lt_irrefl (smallest service hmem)
        refine ⟨policy, he, ?_⟩
        rw [get?_addEntries_of_none rest later, OrderedMap.get?_insert, if_pos rfl]
      · exact ih rest ascending hs

/-! ### Whole properties -/

/-- **A service is called under the policy of its own configuration**: the look-up in the registry
and the one in the properties come to the same. -/
theorem ofEntry_configFor (h : ofProperties p = .ok r) :
    Policy.ofEntry? (p.configFor service) = .ok (r.policyFor service) := by
  rw [ofProperties] at h
  cases hd : Policy.ofEntry? p.defaults with
  | error e =>
      rw [hd] at h
      cases h
  | ok fallback =>
      rw [hd] at h
      dsimp only at h
      cases hb : addEntries .empty p.services.entries with
      | error e =>
          rw [hb] at h
          cases h
      | ok built =>
          rw [hb] at h
          obtain rfl := Except.ok.inj h
          rw [Properties.configFor, policyFor]
          cases hs : p.services.get? service with
          | none =>
              rw [get?_addEntries_of_none hb hs, OrderedMap.get?_empty]
              exact hd
          | some config =>
              obtain ⟨policy, he, hget⟩ :=
                get?_addEntries_of_some hb p.services.ascending hs
              rw [hget]
              exact he

/-- Valid properties build a registry. -/
theorem exists_ofProperties (h : p.validate = .ok ()) : ∃ r, ofProperties p = .ok r := by
  have entry {config : RetryConfig} (hc : config.validate = .ok ()) :
      ∃ policy, Policy.ofEntry? config = .ok policy := by
    cases he : config.enabled with
    | false => exact ⟨_, Policy.ofEntry_of_disabled he⟩
    | true =>
        obtain ⟨d, hd, -⟩ := Policy.exists_configured hc
        exact ⟨_, Policy.ofEntry_of_enabled he hd⟩
  obtain ⟨defaults, entries⟩ := Properties.validate_eq_ok_iff.mp h
  obtain ⟨fallback, hf⟩ := entry defaults
  obtain ⟨built, hb⟩ : ∃ built, addEntries .empty p.services.entries = .ok built :=
    exists_addEntries fun e he => entry (entries e.2 (List.mem_map_of_mem (f := Prod.snd) he))
  refine ⟨⟨built, fallback⟩, ?_⟩
  rw [ofProperties, hf]
  simp only [hb]

end Registry

namespace Client

variable {p : Properties} {client : Client}

/-- Properties that are switched off make a plain client, whatever else they say. -/
theorem ofProperties_of_disabled (h : p.enabled = false) : ofProperties p = .ok .plain := by
  rw [ofProperties, if_neg (by simp [h])]

/-- Properties that are switched on make a retrying client, with their registry. -/
theorem ofProperties_eq_ok (h : p.enabled = true) (built : ofProperties p = .ok client) :
    ∃ registry, Registry.ofProperties p = .ok registry ∧ client = .retrying registry := by
  rw [ofProperties, if_pos h] at built
  cases hr : Registry.ofProperties p with
  | error e =>
      rw [hr] at built
      cases built
  | ok registry =>
      rw [hr] at built
      exact ⟨registry, rfl, (Except.ok.inj built).symm⟩

/-- Valid properties that are switched on make a client. -/
theorem exists_ofProperties (on : p.enabled = true) (valid : p.validate = .ok ()) :
    ∃ registry, ofProperties p = .ok (.retrying registry) := by
  obtain ⟨registry, hr⟩ := Registry.exists_ofProperties valid
  exact ⟨registry, by rw [ofProperties, if_pos on, hr]⟩

end Client

end Failover
