import Failover.Proofs.Backoff.Growth
import Failover.Proofs.Config.RoundTrip
import Failover.Proofs.Policy.Resolution

/-!
# Configuration — one notion of validity

A configuration is checked on its own, when a policy is made of it, and with the properties that it
belongs to; properties are checked when they are loaded, when a registry is built and when a client
is.  All of them mean the same by a valid configuration, and name the same fault of one that is not.
Only a registry passes over what is switched off, and a client that does not retry looks at nothing.

* `RetryConfig.Sound`, `RetryConfig.FirstFault`: what a valid configuration is, and which fault of
  another one comes first.
* `RetryConfig.validate_eq_ok_iff`, `RetryConfig.validate_eq_error_iff`: the check of one
  configuration.
* `Properties.FirstFault`: the first fault of properties, in the order of the names.
* `Properties.checks_agree`: all checks.
-/

namespace Failover

/-! ### Valid configurations -/

/-- The bounds of the delays: the shortest is positive, and neither above one day nor above the
longest that is given. -/
structure BackoffConfig.Ordered (c : BackoffConfig) : Prop where
  pos : 0 < c.minMillis.toNat
  le_day : c.minMillis.toNat ≤ 24 * 60 * 60 * 1000
  le_max : ∀ max ∈ c.maxMillis, c.minMillis.toNat ≤ max.toNat

/-- A code between those of the first and of the last class of responses. -/
def IsStatusCode (code : UInt16) : Prop := 100 ≤ code.toNat ∧ code.toNat ≤ 599

instance (code : UInt16) : Decidable (IsStatusCode code) := inferInstanceAs (Decidable (_ ∧ _))

/-- A valid configuration. -/
structure RetryConfig.Sound (c : RetryConfig) : Prop where
  attempts : 1 ≤ c.sameInstance.toNat
  codes : ∀ code ∈ c.statusCodes, IsStatusCode code
  backoff : c.backoff.enabled = false ∨ c.backoff.Ordered

/-- The first fault of a configuration: one in the attempts comes before one in the codes, that of a
smaller code before that of a larger one, and one in the backoff comes last. -/
inductive RetryConfig.FirstFault (c : RetryConfig) : ConfigError → Prop where
  | attempts (none : c.sameInstance.toNat = 0) : FirstFault c .noSameInstanceAttempts
  | code {code : UInt16} (attempts : 1 ≤ c.sameInstance.toNat) (mem : code ∈ c.statusCodes)
      (bad : ¬ IsStatusCode code)
      (smallest : ∀ other ∈ c.statusCodes, ¬ IsStatusCode other → code ≤ other) :
      FirstFault c (.invalidStatusCode code)
  | zeroMin (attempts : 1 ≤ c.sameInstance.toNat)
      (codes : ∀ code ∈ c.statusCodes, IsStatusCode code) (on : c.backoff.enabled = true)
      (zero : c.backoff.minMillis.toNat = 0) : FirstFault c (.invalidBackoff .zeroMin)
  | maxBelowMin (attempts : 1 ≤ c.sameInstance.toNat)
      (codes : ∀ code ∈ c.statusCodes, IsStatusCode code) (on : c.backoff.enabled = true)
      (pos : 0 < c.backoff.minMillis.toNat) (disordered : ¬ c.backoff.Ordered) :
      FirstFault c (.invalidBackoff (.maxBelowMin
        (Backoff.ceiling (c.backoff.maxMillis.map fun n => .ofMillis n.toNat))
        (.ofMillis c.backoff.minMillis.toNat)))

/-! ### The backoff -/

namespace Duration

variable {m n : Nat}

theorem ofMillis_pos_iff : 0 < (ofMillis n).nanos ↔ 0 < n :=
  Nat.mul_pos_iff_of_pos_right (by decide)

theorem ofMillis_le_iff : ofMillis m ≤ ofMillis n ↔ m ≤ n :=
  Nat.mul_le_mul_right_iff (by decide)

end Duration

namespace Backoff

variable {min : Duration} {max : Option Duration} {jitter : Float}

theorem of_eq_zeroMin (zero : min.nanos = 0) : of min max jitter = .error .zeroMin := by
  rw [of, dif_pos zero]

theorem of_eq_maxBelowMin (pos : 0 < min.nanos) (below : ceiling max < min) :
    of min max jitter = .error (.maxBelowMin (ceiling max) min) := by
  rw [← getD_min_maxBackoff] at below ⊢
  rw [of, dif_neg (Nat.ne_of_gt pos)]
  dsimp only
  rw [dif_pos below]

theorem exists_of (pos : 0 < min.nanos) (le : min ≤ ceiling max) (jitter : Float) :
    ∃ b, of min max jitter = .ok b := by
  have below : ceiling max ≤ maxBackoff := by
    rw [← getD_min_maxBackoff]
    exact Nat.min_le_right _ _
  exact ⟨⟨min, ceiling max, clampJitter jitter, pos, le, below⟩,
    of_eq_ok_iff.mpr ⟨pos, le, rfl, rfl, rfl⟩⟩

end Backoff

namespace BackoffConfig

variable {c : BackoffConfig}

/-- The longest delay under a bound in milliseconds is the smaller of the bound and one day. -/
theorem ofMillis_le_ceiling_iff {n : Nat} :
    Duration.ofMillis n ≤ Backoff.ceiling (c.maxMillis.map fun m => .ofMillis m.toNat) ↔
      n ≤ 24 * 60 * 60 * 1000 ∧ ∀ max ∈ c.maxMillis, n ≤ max.toNat := by
  have day : maxBackoff = .ofMillis (24 * 60 * 60 * 1000) := by decide
  cases c.maxMillis with
  | none =>
      rw [Option.map_none, Backoff.ceiling, day, Duration.ofMillis_le_iff]
      simp
  | some max =>
      rw [Option.map_some, Backoff.ceiling, day]
      simp only [Duration.ofMillis_le_iff, Option.mem_def, Option.some_inj, forall_eq']
      split <;> rw [Duration.ofMillis_le_iff] <;> omega

theorem ordered_iff :
    c.Ordered ↔ 0 < (Duration.ofMillis c.minMillis.toNat).nanos ∧
      Duration.ofMillis c.minMillis.toNat ≤
        Backoff.ceiling (c.maxMillis.map fun m => .ofMillis m.toNat) := by
  rw [Duration.ofMillis_pos_iff, ofMillis_le_ceiling_iff]
  exact ⟨fun h => ⟨h.pos, h.le_day, h.le_max⟩, fun ⟨pos, le_day, le_max⟩ => ⟨pos, le_day, le_max⟩⟩

theorem toBackoff_of_off (off : c.enabled = false) : c.toBackoff = .ok none := by
  rw [toBackoff, if_neg (by simp [off])]

theorem Ordered.exists_toBackoff (h : c.Ordered) : ∃ b, c.toBackoff = .ok b := by
  cases on : c.enabled with
  | false => exact ⟨none, toBackoff_of_off on⟩
  | true =>
      obtain ⟨pos, le⟩ := ordered_iff.mp h
      obtain ⟨b, hb⟩ := Backoff.exists_of pos le c.jitter
      exact ⟨some b, by rw [toBackoff, if_pos on, hb]⟩

theorem toBackoff_of_zeroMin (on : c.enabled = true) (zero : c.minMillis.toNat = 0) :
    c.toBackoff = .error (.invalidBackoff .zeroMin) := by
  have none : (Duration.ofMillis c.minMillis.toNat).nanos = 0 := by rw [zero]; rfl
  rw [toBackoff, if_pos on, Backoff.of_eq_zeroMin none]

theorem toBackoff_of_disordered (on : c.enabled = true) (pos : 0 < c.minMillis.toNat)
    (disordered : ¬ c.Ordered) :
    c.toBackoff = .error (.invalidBackoff (.maxBelowMin
      (Backoff.ceiling (c.maxMillis.map fun n => .ofMillis n.toNat))
      (.ofMillis c.minMillis.toNat))) := by
  have pos := Duration.ofMillis_pos_iff.mpr pos
  have below : Backoff.ceiling (c.maxMillis.map fun n => .ofMillis n.toNat) <
      .ofMillis c.minMillis.toNat :=
    Nat.lt_of_not_le fun le => disordered (ordered_iff.mpr ⟨pos, le⟩)
  rw [toBackoff, if_pos on, Backoff.of_eq_maxBelowMin pos below]

end BackoffConfig

/-! ### One configuration -/

namespace RetryConfig

variable {c : RetryConfig} {e : ConfigError}

theorem isResponseCode_iff {code : UInt16} : isResponseCode code = true ↔ IsStatusCode code := by
  rw [isResponseCode, Bool.and_eq_true, decide_eq_true_iff, decide_eq_true_iff]
  rfl

theorem sameInstance_ne_zero_iff : c.sameInstance ≠ 0 ↔ 1 ≤ c.sameInstance.toNat := by
  rw [Ne, ← UInt64.toNat_inj, UInt64.toNat_zero]
  omega

/-- Where there are attempts the codes are looked at. -/
theorem validate_of_attempts (attempts : 1 ≤ c.sameInstance.toNat) :
    c.validate =
      match c.statusCodes.toList.find? (fun code => !isResponseCode code) with
      | some code => .error (.invalidStatusCode code)
      | none => c.backoff.toBackoff.map fun _ => () := by
  rw [validate, if_neg (sameInstance_ne_zero_iff.mpr attempts)]
  cases c.statusCodes.toList.find? (fun code => !isResponseCode code) with
  | some code => rfl
  | none => cases c.backoff.toBackoff <;> rfl

theorem find?_eq_none_iff :
    c.statusCodes.toList.find? (fun code => !isResponseCode code) = none ↔
      ∀ code ∈ c.statusCodes, IsStatusCode code := by
  simp only [List.find?_eq_none, Bool.not_eq_true', Bool.not_eq_false, isResponseCode_iff,
    OrderedSet.mem_def]

theorem find?_eq_some_iff {code : UInt16} :
    c.statusCodes.toList.find? (fun code => !isResponseCode code) = some code ↔
      code ∈ c.statusCodes ∧ ¬ IsStatusCode code ∧
        ∀ other ∈ c.statusCodes, ¬ IsStatusCode other → code ≤ other := by
  simp only [OrderedSet.find?_eq_some_iff, Bool.not_eq_true', ← Bool.not_eq_true,
    isResponseCode_iff]

/-- Where no code is bad the check comes to the backoff. -/
theorem validate_of_codes (attempts : 1 ≤ c.sameInstance.toNat)
    (codes : ∀ code ∈ c.statusCodes, IsStatusCode code) :
    c.validate = c.backoff.toBackoff.map fun _ => () := by
  rw [validate_of_attempts attempts, find?_eq_none_iff.mpr codes]

theorem Sound.validate (h : c.Sound) : c.validate = .ok () := by
  have backoff : ∃ b, c.backoff.toBackoff = .ok b := by
    rcases h.backoff with off | ordered
    · exact ⟨none, BackoffConfig.toBackoff_of_off off⟩
    · exact ordered.exists_toBackoff
  obtain ⟨b, hb⟩ := backoff
  rw [validate_of_codes h.attempts h.codes, hb]
  rfl

theorem FirstFault.validate (h : c.FirstFault e) : c.validate = .error e := by
  cases h with
  | attempts none =>
      have none : c.sameInstance = 0 := UInt64.toNat_inj.mp none
      rw [RetryConfig.validate, if_pos none]
  | code attempts mem bad smallest =>
      rw [validate_of_attempts attempts, find?_eq_some_iff.mpr ⟨mem, bad, smallest⟩]
  | zeroMin attempts codes on zero =>
      rw [validate_of_codes attempts codes, BackoffConfig.toBackoff_of_zeroMin on zero]
      rfl
  | maxBelowMin attempts codes on pos disordered =>
      rw [validate_of_codes attempts codes,
        BackoffConfig.toBackoff_of_disordered on pos disordered]
      rfl

/-- A configuration is valid, or one of its faults comes first. -/
theorem sound_or_firstFault (c : RetryConfig) : c.Sound ∨ ∃ e, c.FirstFault e := by
  rcases Nat.eq_zero_or_pos c.sameInstance.toNat with none | attempts
  · exact .inr ⟨_, .attempts none⟩
  cases hf : c.statusCodes.toList.find? (fun code => !isResponseCode code) with
  | some code =>
      obtain ⟨mem, bad, smallest⟩ := find?_eq_some_iff.mp hf
      exact .inr ⟨_, .code attempts mem bad smallest⟩
  | none =>
      have codes := find?_eq_none_iff.mp hf
      cases on : c.backoff.enabled with
      | false => exact .inl ⟨attempts, codes, .inl on⟩
      | true =>
          by_cases ordered : c.backoff.Ordered
          · exact .inl ⟨attempts, codes, .inr ordered⟩
          · rcases Nat.eq_zero_or_pos c.backoff.minMillis.toNat with zero | pos
            · exact .inr ⟨_, .zeroMin attempts codes on zero⟩
            · exact .inr ⟨_, .maxBelowMin attempts codes on pos ordered⟩

theorem FirstFault.not_sound (h : c.FirstFault e) : ¬ c.Sound := fun sound => by
  cases sound.validate.symm.trans h.validate

/-- **The check of a configuration accepts the valid ones.** -/
theorem validate_eq_ok_iff : c.validate = .ok () ↔ c.Sound := by
  refine ⟨fun h => ?_, Sound.validate⟩
  obtain sound | ⟨e, fault⟩ := c.sound_or_firstFault
  · exact sound
  · cases h.symm.trans fault.validate

/-- **It names the first fault of the others.** -/
theorem validate_eq_error_iff : c.validate = .error e ↔ c.FirstFault e := by
  refine ⟨fun h => ?_, FirstFault.validate⟩
  obtain sound | ⟨e', fault⟩ := c.sound_or_firstFault
  · cases h.symm.trans sound.validate
  · obtain rfl := Except.error.inj (h.symm.trans fault.validate)
    exact fault

end RetryConfig

/-! ### Policies -/

namespace Policy

variable {config : RetryConfig} {classifier : Option Classifier} {e : ConfigError}

/-- A policy is made of what the check accepts. -/
theorem Configured.exists_of_iff :
    (∃ d, Configured.of config classifier = .ok d) ↔ config.validate = .ok () := by
  refine ⟨fun ⟨d, hd⟩ => ?_, fun h => ?_⟩
  · rw [← config_of_eq_ok hd]
    exact d.valid
  · obtain ⟨d, hd, -⟩ := exists_configured h
    exact ⟨d, hd⟩

/-- It is refused for the fault that the check names. -/
theorem Configured.of_eq_error_iff (classifier : Option Classifier) :
    Configured.of config classifier = .error e ↔ config.validate = .error e := by
  cases hv : config.validate with
  | ok u =>
      obtain ⟨d, hd⟩ : ∃ d, Configured.of config classifier = .ok d :=
        Configured.exists_of_iff.mpr hv
      rw [hd]
      exact ⟨nofun, nofun⟩
  | error e' =>
      rw [Configured.of]
      split
      · rename_i e'' he
        cases hv.symm.trans he
        rw [Except.error.injEq, Except.error.injEq]
      · rename_i he
        cases hv.symm.trans he

/-- Where policies are kept, what is switched off is passed over. -/
theorem ofEntry_eq_error_iff :
    ofEntry? config = .error e ↔ config.enabled = true ∧ config.FirstFault e := by
  rw [← RetryConfig.validate_eq_error_iff, ← Configured.of_eq_error_iff none, ofEntry_eq]
  cases on : config.enabled with
  | false => simp
  | true =>
      rw [if_pos rfl, ofConfig?, and_iff_right rfl]
      cases Configured.of config none <;> simp [Except.map]

theorem exists_ofEntry_iff :
    (∃ p, ofEntry? config = .ok p) ↔ (config.enabled = true → config.Sound) := by
  constructor
  · rintro ⟨p, hp⟩ on
    obtain sound | ⟨e, fault⟩ := config.sound_or_firstFault
    · exact sound
    · cases hp.symm.trans (ofEntry_eq_error_iff.mpr ⟨on, fault⟩)
  · intro sound
    cases h : ofEntry? config with
    | ok p => exact ⟨p, rfl⟩
    | error e =>
        obtain ⟨on, fault⟩ := ofEntry_eq_error_iff.mp h
        cases (sound on).validate.symm.trans fault.validate

end Policy

/-! ### The first fault of several -/

/-- The first fault of the configurations in a row, of which only some are looked at. -/
inductive FaultAmong (looked : RetryConfig → Prop) : List RetryConfig → ConfigError → Prop where
  | here {c : RetryConfig} {cs : List RetryConfig} {e : ConfigError} (seen : looked c)
      (fault : c.FirstFault e) : FaultAmong looked (c :: cs) e
  | later {c : RetryConfig} {cs : List RetryConfig} {e : ConfigError}
      (passed : looked c → c.Sound) (rest : FaultAmong looked cs e) : FaultAmong looked (c :: cs) e

/-- The first fault of properties, of whose configurations only some are looked at: that of the
defaults, or else that of the smallest name with a fault in its entry. -/
inductive Properties.FirstFault (p : Properties) (looked : RetryConfig → Prop) :
    ConfigError → Prop where
  | defaults {e : ConfigError} (seen : looked p.defaults) (fault : p.defaults.FirstFault e) :
      FirstFault p looked e
  | entry {name : String} {c : RetryConfig} {e : ConfigError}
      (passed : looked p.defaults → p.defaults.Sound) (get : p.services.get? name = some c)
      (smaller : ∀ other d, other < name → p.services.get? other = some d → looked d → d.Sound)
      (seen : looked c) (fault : c.FirstFault e) : FirstFault p looked e

/-- The configurations of properties: the defaults and those of the services. -/
def Properties.configs (p : Properties) : List RetryConfig := p.defaults :: p.services.values

section

variable {looked : RetryConfig → Prop} {c : RetryConfig} {cs : List RetryConfig} {e : ConfigError}

theorem FaultAmong.cons_iff :
    FaultAmong looked (c :: cs) e ↔
      looked c ∧ c.FirstFault e ∨ (looked c → c.Sound) ∧ FaultAmong looked cs e := by
  constructor
  · rintro (⟨seen, fault⟩ | ⟨passed, rest⟩)
    · exact .inl ⟨seen, fault⟩
    · exact .inr ⟨passed, rest⟩
  · rintro (⟨seen, fault⟩ | ⟨passed, rest⟩)
    · exact .here seen fault
    · exact .later passed rest

/-- There is a first fault if anything that is looked at is not valid. -/
theorem FaultAmong.exists_iff :
    (∃ e, FaultAmong looked cs e) ↔ ∃ c ∈ cs, looked c ∧ ¬ c.Sound := by
  induction cs with
  | nil => exact ⟨nofun, nofun⟩
  | cons c cs ih =>
      simp only [FaultAmong.cons_iff, List.exists_mem_cons_iff, ← ih]
      constructor
      · rintro ⟨e, ⟨seen, fault⟩ | ⟨-, rest⟩⟩
        · exact .inl ⟨seen, fault.not_sound⟩
        · exact .inr ⟨e, rest⟩
      · rintro (⟨seen, bad⟩ | ⟨e, rest⟩)
        · obtain ⟨e, fault⟩ := c.sound_or_firstFault.resolve_left bad
          exact ⟨e, .inl ⟨seen, fault⟩⟩
        · by_cases passed : looked c → c.Sound
          · exact ⟨e, .inr ⟨passed, rest⟩⟩
          · obtain ⟨seen, bad⟩ := Classical.not_imp.mp passed
            obtain ⟨e', fault⟩ := c.sound_or_firstFault.resolve_left bad
            exact ⟨e', .inl ⟨seen, fault⟩⟩

/-- Among entries that ascend the first fault is that of the smallest name. -/
theorem faultAmong_entries_iff {es : List (String × RetryConfig)}
    (ascending : (es.map Prod.fst).Pairwise (· < ·)) :
    FaultAmong looked (es.map Prod.snd) e ↔
      ∃ name c, es.lookup name = some c ∧
        (∀ other d, other < name → es.lookup other = some d → looked d → d.Sound) ∧
        looked c ∧ c.FirstFault e := by
  induction es with
  | nil => exact ⟨nofun, nofun⟩
  | cons entry es ih =>
      obtain ⟨name, c⟩ := entry
      obtain ⟨smallest, ascending⟩ := List.pairwise_cons.mp ascending
      have later {other : String} {d : RetryConfig} (h : es.lookup other = some d) :
          name < other := smallest other (List.mem_map_of_mem (OrderedMap.mem_of_lookup h))
      rw [List.map_cons, FaultAmong.cons_iff, ih ascending]
      constructor
      · rintro (⟨seen, fault⟩ | ⟨passed, found, d, get, smaller, seen, fault⟩)
        · refine ⟨name, c, List.lookup_cons_self, fun other d less get => ?_, seen, fault⟩
          rw [OrderedMap.lookup_cons_eq_ite, if_neg (Std.ne_of_lt less)] at get
          exact absurd (Std.lt_trans less (later get)) Std.lt_irrefl
        · refine ⟨found, d, ?_, fun other d' less get' => ?_, seen, fault⟩
          · rw [OrderedMap.lookup_cons_eq_ite, if_neg (Std.ne_of_lt (later get)).symm, get]
          · rw [OrderedMap.lookup_cons_eq_ite] at get'
            split at get'
            · rw [← Option.some.inj get']
              exact passed
            · exact smaller other d' less get'
      · rintro ⟨found, d, get, smaller, seen, fault⟩
        rw [OrderedMap.lookup_cons_eq_ite] at get
        split at get
        · rw [Option.some.inj get]
          exact .inl ⟨seen, fault⟩
        · refine .inr ⟨smaller name c (later get) List.lookup_cons_self, found, d, get,
            fun other d' less get' => ?_, seen, fault⟩
          refine smaller other d' less ?_
          rw [OrderedMap.lookup_cons_eq_ite, if_neg (Std.ne_of_lt (later get')).symm, get']

theorem Properties.firstFault_iff {p : Properties} :
    p.FirstFault looked e ↔ FaultAmong looked p.configs e := by
  rw [configs, OrderedMap.values, FaultAmong.cons_iff, faultAmong_entries_iff p.services.ascending]
  constructor
  · rintro (⟨seen, fault⟩ | ⟨passed, get, smaller, seen, fault⟩)
    · exact .inl ⟨seen, fault⟩
    · exact .inr ⟨passed, _, _, get, smaller, seen, fault⟩
  · rintro (⟨seen, fault⟩ | ⟨passed, name, c, get, smaller, seen, fault⟩)
    · exact .defaults seen fault
    · exact .entry passed get smaller seen fault

theorem RetryConfig.validateAll_eq_error_iff :
    RetryConfig.validateAll cs = .error e ↔ FaultAmong (fun _ => True) cs e := by
  induction cs with
  | nil => exact ⟨nofun, nofun⟩
  | cons c cs ih =>
      rw [validateAll, FaultAmong.cons_iff, ← ih]
      obtain sound | ⟨e', fault⟩ := c.sound_or_firstFault
      · have fine : ¬ c.FirstFault e := fun fault => fault.not_sound sound
        simp [sound.validate, sound, fine]
      · simp [fault.validate, fault.not_sound, ← validate_eq_error_iff]

end

/-! ### Registries and clients -/

namespace Registry

variable {built : OrderedMap String Policy} {es : List (String × RetryConfig)}
  {e : ConfigError} {p : Properties} {r : Registry}

theorem addEntries_eq_error_iff (policies : OrderedMap String Policy) :
    addEntries policies es = .error e ↔
      FaultAmong (fun c => c.enabled = true) (es.map Prod.snd) e := by
  induction es generalizing policies with
  | nil => exact ⟨nofun, nofun⟩
  | cons entry es ih =>
      obtain ⟨name, c⟩ := entry
      rw [addEntries, List.map_cons, FaultAmong.cons_iff, ← Policy.ofEntry_eq_error_iff,
        ← Policy.exists_ofEntry_iff]
      cases Policy.ofEntry? c with
      | ok policy => simp [ih]
      | error e' => simp

/-- The names that are entered are those of the entries. -/
theorem keys_addEntries (h : addEntries .empty es = .ok built)
    (ascending : (es.map Prod.fst).Pairwise (· < ·)) : built.keys = es.map Prod.fst := by
  refine List.Pairwise.eq_of_mem_iff built.keys_ascending ascending fun name => ?_
  rw [OrderedMap.mem_keys_iff, ← OrderedMap.isSome_lookup_iff, OrderedMap.contains]
  cases found : es.lookup name with
  | none => simp [get?_addEntries_of_none h found]
  | some c =>
      obtain ⟨policy, -, get⟩ := get?_addEntries_of_some h ascending found
      simp [get]

/-- **A registry is refused for the first fault of what is switched on.** -/
theorem ofProperties_eq_error_iff :
    ofProperties p = .error e ↔ p.FirstFault (fun c => c.enabled = true) e := by
  rw [Properties.firstFault_iff, Properties.configs, FaultAmong.cons_iff, OrderedMap.values,
    ← addEntries_eq_error_iff .empty, ← Policy.ofEntry_eq_error_iff,
    ← Policy.exists_ofEntry_iff, ofProperties]
  cases Policy.ofEntry? p.defaults with
  | error e' => simp
  | ok fallback => cases addEntries .empty p.services.entries <;> simp

theorem services_ofProperties (h : ofProperties p = .ok r) : r.services = p.services.keys := by
  rw [ofProperties] at h
  cases hd : Policy.ofEntry? p.defaults with
  | error e =>
      rw [hd] at h
      cases h
  | ok fallback =>
      rw [hd] at h
      dsimp only at h
      cases hb : addEntries .empty p.services.entries with
      | error e =>
          rw [hb] at h
          cases h
      | ok built =>
          rw [hb] at h
          obtain rfl := Except.ok.inj h
          exact keys_addEntries hb p.services.ascending

theorem exists_ofProperties_iff :
    (∃ r, ofProperties p = .ok r) ↔ ∀ c ∈ p.configs, c.enabled = true → c.Sound := by
  have built : (∃ r, ofProperties p = .ok r) ↔ ¬ ∃ e, ofProperties p = .error e := by
    cases ofProperties p <;> simp
  simp only [built, ofProperties_eq_error_iff, Properties.firstFault_iff, FaultAmong.exists_iff,
    not_exists, not_and, Classical.not_not]

end Registry

namespace Properties

variable {p : Properties} {text : String} {e : ConfigError}

/-- **Properties are refused for the first fault of all.** -/
theorem validate_eq_error_iff : p.validate = .error e ↔ p.FirstFault (fun _ => True) e := by
  rw [firstFault_iff]
  exact RetryConfig.validateAll_eq_error_iff

theorem validate_eq_ok_iff_sound : p.validate = .ok () ↔ ∀ c ∈ p.configs, c.Sound := by
  rw [validate_eq_ok_iff, configs, List.forall_mem_cons]
  simp only [RetryConfig.validate_eq_ok_iff]

/-- The text is a document of the properties, be they valid or not. -/
def Reads (text : String) (p : Properties) : Prop := (Json.parse text).bind ofJson = some p

theorem reads_text (exact : ∀ x ∈ p.jitters, Json.Exact x) : Reads p.text p := by
  have parsed : Json.parse p.text = some p.toJson := Json.parse_text toJson_writable
  rw [Reads, parsed]
  exact ofJson_toJson exact

theorem Reads.load_eq (h : Reads text p) : load text = p.validate.map fun _ => p := by
  rw [Properties.load_eq, h]

theorem reads_of_load (h : load text = .ok p) : Reads text p := by
  rw [load] at h
  rw [Reads]
  cases hr : (Json.parse text).bind ofJson with
  | none =>
      rw [hr] at h
      cases h
  | some q =>
      rw [hr] at h
      dsimp only at h
      split at h
      · cases h
      · exact congrArg some (Except.ok.inj h)

/-- Of the properties that can be read the valid ones are loaded. -/
theorem load_eq_ok_iff : load text = .ok p ↔ Reads text p ∧ p.validate = .ok () := by
  constructor
  · intro h
    have reads := reads_of_load h
    rw [reads.load_eq] at h
    cases hv : p.validate with
    | ok u => exact ⟨reads, rfl⟩
    | error e =>
        rw [hv] at h
        cases h
  · rintro ⟨reads, valid⟩
    rw [reads.load_eq, valid]
    rfl

theorem Reads.load_eq_error_iff (h : Reads text p) :
    load text = .error e ↔ p.validate = .error e := by
  rw [h.load_eq]
  cases p.validate <;> simp [Except.map]

end Properties

/-! ### All checks -/

/-- What the checks of one configuration say. -/
structure RetryConfig.Checked (c : RetryConfig) : Prop where
  valid_iff : c.validate = .ok () ↔ c.Sound
  refused_iff : ∀ e, c.validate = .error e ↔ c.FirstFault e
  /-- A policy can be made of it exactly if it is valid. -/
  followed_iff : ∀ classifier, (∃ d, Policy.Configured.of c classifier = .ok d) ↔
    c.validate = .ok ()
  unfollowed_iff : ∀ classifier e, Policy.Configured.of c classifier = .error e ↔
    c.validate = .error e
  kept : ∀ classifier d, Policy.Configured.of c classifier = .ok d → d.config = c

theorem RetryConfig.checked (c : RetryConfig) : c.Checked where
  valid_iff := validate_eq_ok_iff
  refused_iff _ := validate_eq_error_iff
  followed_iff _ := Policy.Configured.exists_of_iff
  unfollowed_iff classifier _ := Policy.Configured.of_eq_error_iff classifier
  kept _ _ := Policy.config_of_eq_ok

namespace Properties

/-- What the checks of properties say. -/
structure Checked (p : Properties) : Prop where
  valid_iff : p.validate = .ok () ↔ ∀ c ∈ p.configs, c.Sound
  refused_iff : ∀ e, p.validate = .error e ↔ p.FirstFault (fun _ => True) e
  /-- A registry passes over what is switched off. -/
  registered_iff : (∃ r, Registry.ofProperties p = .ok r) ↔
    ∀ c ∈ p.configs, c.enabled = true → c.Sound
  unregistered_iff : ∀ e, Registry.ofProperties p = .error e ↔
    p.FirstFault (fun c => c.enabled = true) e
  services : ∀ r, Registry.ofProperties p = .ok r → r.services = p.services.keys
  /-- A client that retries is built with a registry, and any other without a look. -/
  client : Client.ofProperties p =
    if p.enabled then (Registry.ofProperties p).map .retrying else .ok .plain

theorem checked (p : Properties) : p.Checked where
  valid_iff := validate_eq_ok_iff_sound
  refused_iff _ := validate_eq_error_iff
  registered_iff := Registry.exists_ofProperties_iff
  unregistered_iff _ := Registry.ofProperties_eq_error_iff
  services _ := Registry.services_ofProperties
  client := by
    rw [Client.ofProperties]
    cases Registry.ofProperties p <;> rfl

/-- Something is switched off and is not valid. -/
def HidesFault (p : Properties) : Prop := ∃ c ∈ p.configs, c.enabled = false ∧ ¬ c.Sound

/-- What is loaded from a text can be used, and what can be used is refused for nothing but what is
switched off. -/
structure Usable (text : String) : Prop where
  refused_iff : ∀ p e, Reads text p → (load text = .error e ↔ p.FirstFault (fun _ => True) e)
  built : ∀ p, load text = .ok p →
    (∃ r, Registry.ofProperties p = .ok r) ∧
      ∃ client, Client.ofProperties p = .ok client ∧ client.isRetrying = p.enabled
  of_registry : ∀ p r, Reads text p → Registry.ofProperties p = .ok r →
    load text = .ok p ∨ p.HidesFault
  of_client : ∀ p client, Reads text p → Client.ofProperties p = .ok client →
    load text = .ok p ∨ p.HidesFault ∨ p.enabled = false

variable {p : Properties} {text : String}

/-- Properties whose registry can be built are valid but for what is switched off. -/
theorem load_or_hidesFault {r : Registry} (reads : Reads text p)
    (registered : Registry.ofProperties p = .ok r) : load text = .ok p ∨ p.HidesFault := by
  rw [load_eq_ok_iff, and_iff_right reads, validate_eq_ok_iff_sound, or_iff_not_imp_left]
  intro invalid
  obtain ⟨c, hc⟩ := Classical.not_forall.mp invalid
  obtain ⟨mem, bad⟩ := Classical.not_imp.mp hc
  have on := Registry.exists_ofProperties_iff.mp ⟨r, registered⟩ c mem
  exact ⟨c, mem, Bool.eq_false_iff.mpr fun h => bad (on h), bad⟩

theorem usable (text : String) : Usable text where
  refused_iff p e reads := reads.load_eq_error_iff.trans validate_eq_error_iff
  built p loaded := by
    obtain ⟨-, valid⟩ := load_eq_ok_iff.mp loaded
    refine ⟨Registry.exists_ofProperties valid, ?_⟩
    cases on : p.enabled with
    | false => exact ⟨.plain, Client.ofProperties_of_disabled on, rfl⟩
    | true =>
        obtain ⟨registry, built⟩ := Client.exists_ofProperties on valid
        exact ⟨.retrying registry, built, rfl⟩
  of_registry _ _ reads registered := load_or_hidesFault reads registered
  of_client p client reads built := by
    cases on : p.enabled with
    | false => exact .inr (.inr rfl)
    | true =>
        obtain ⟨registry, registered, -⟩ := Client.ofProperties_eq_ok on built
        exact (load_or_hidesFault reads registered).imp id .inl

/-! ### Faults that are passed over -/

/-- A service that is never tried, switched off by itself or with all the others. -/
def faulty (enabled : Bool) : Properties :=
  (Properties.mk enabled .disabled .empty).withService "users"
    { RetryConfig.default with enabled := !enabled, sameInstance := 0 }

theorem reads_faulty {enabled : Bool} : Reads (faulty enabled).text (faulty enabled) := by
  have half : Json.Exact 0.5 := ⟨by decide +kernel, by decide +kernel⟩
  have jitters : (faulty enabled).jitters = [0.5, 0.5] := rfl
  refine reads_text fun x hx => ?_
  rw [jitters] at hx
  simp only [List.mem_cons, List.not_mem_nil, or_false, or_self] at hx
  exact hx ▸ half

theorem load_faulty {enabled : Bool} : load (faulty enabled).text ≠ .ok (faulty enabled) := by
  have refused : (faulty enabled).validate = .error .noSameInstanceAttempts := rfl
  rw [Ne, load_eq_ok_iff, refused]
  simp

/-- **All checks mean the same by a valid configuration.**  What is loaded can be used; what can be
used need not be valid where it is switched off, and there alone. -/
theorem checks_agree :
    (∀ c : RetryConfig, c.Checked) ∧ (∀ p : Properties, p.Checked) ∧ (∀ text, Usable text) ∧
      (∃ p r, p.enabled = true ∧ Reads p.text p ∧ Registry.ofProperties p = .ok r ∧
        load p.text ≠ .ok p) ∧
      ∃ p client, p.enabled = false ∧ Reads p.text p ∧ Client.ofProperties p = .ok client ∧
        (∀ r, Registry.ofProperties p ≠ .ok r) ∧ load p.text ≠ .ok p := by
  refine ⟨RetryConfig.checked, checked, usable, ?_, ?_⟩
  · obtain ⟨r, registered⟩ : ∃ r, Registry.ofProperties (faulty true) = .ok r := ⟨_, rfl⟩
    exact ⟨faulty true, r, rfl, reads_faulty, registered, load_faulty⟩
  · have refused : Registry.ofProperties (faulty false) = .error .noSameInstanceAttempts := rfl
    refine ⟨faulty false, .plain, rfl, reads_faulty, rfl, fun r registered => ?_, load_faulty⟩
    cases refused.symm.trans registered

end Properties

end Failover
