import Failover.Call.Client
import Failover.Proofs.Call.Plain
import Failover.Proofs.Policy.Resolution

/-!
# Calls — that are never repeated

A call is made once where its service is switched off, and where the service retries only methods
that are safe and the call's method is none of them.  Then a client of properties, whether plain or
retrying, hands the call to the balancer as a whole: it comes to what the call of a plain client
comes to, and leaves the balancer as that does.

* `RetryConfig.Refuses`: when a configuration lets a method be called once only.
* `Session.Call.single`: one such call.
* `Session.Call.runAll_single`: a session of such calls.
* `Session.Call.made_once`: both, for the clients of properties.
-/

namespace Failover

/-- Whether the call is handed to the balancer as a whole. -/
def Entry.isCombined : Entry → Bool
  | .combined _ => true
  | _ => false

/-- A configuration lets a method be called once only: it is switched off, or it retries only what
is safe and the method is not one of the four that are. -/
def RetryConfig.Refuses (config : RetryConfig) (m : Method) : Prop :=
  config.enabled = false ∨
    config.allOperations = false ∧ m.name ∉ ["GET", "HEAD", "OPTIONS", "TRACE"]

theorem Method.isSafe_iff {m : Method} :
    m.isSafe = true ↔ m.name ∈ ["GET", "HEAD", "OPTIONS", "TRACE"] := by
  obtain ⟨name⟩ := m
  simp [isSafe, get, head, options, trace, or_assoc]

/-- What is kept for a configuration that refuses a method does not admit it. -/
theorem Policy.admits_of_refuses {config : RetryConfig} {policy : Policy} {m : Method}
    (h : Policy.ofEntry? config = .ok policy) (refuses : config.Refuses m) :
    policy.admits m = false := by
  rw [Policy.ofEntry_admits h]
  rcases refuses with off | ⟨safeOnly, other⟩
  · rw [off, Bool.false_and]
  · have : m.isSafe = false := by
      rw [Bool.eq_false_iff]
      exact fun hs => other (Method.isSafe_iff.mp hs)
    rw [safeOnly, this, Bool.or_false, Bool.and_false]

/-! ### What a single call enters -/

namespace Setup

variable {σ : Type} {s : Setup σ} {p : Policy} {service : String} {raw : Request}
  {w : World σ} {o : Outcome} {es tail : List Entry} {events : List Event}

/-- Why a call is made once under a policy. -/
def bypassReason (p : Policy) : BypassReason :=
  if p.enabled then .unsafeMethod else .retryDisabled

theorem countP_combined_of_tells (h : Tells es events) : es.countP Entry.isCombined = 0 := by
  rw [List.countP_eq_zero]
  intro e he
  have quiet := h.quiet e he
  cases e <;> first | exact Bool.false_ne_true | cases quiet

/-- A combined call does not make another one. -/
theorem Once.countP_combined (h : s.Once service raw o tail) :
    tail.countP Entry.isCombined = 0 := by
  cases h <;> rfl

/-- A combined call tells of nothing. -/
theorem Once.eventsIn (h : s.Once service raw o tail) : Journal.eventsIn tail = [] := by
  cases h <;> rfl

/-- The call of a plain client is handed to the balancer once. -/
theorem executePlain_combined :
    (s.executePlain w service raw).2.journal.toList.countP Entry.isCombined =
      w.journal.toList.countP Entry.isCombined + 1 := by
  obtain ⟨tail, htail, once⟩ : ∃ tail, (s.executeOnce w service raw).2.journal.toList =
      w.journal.toList ++ .combined service :: tail ∧
        s.Once service raw (s.executeOnce w service raw).1 tail := executeOnce_once
  have made : (s.executeOnce w service raw).2.journal.toList.countP Entry.isCombined =
      w.journal.toList.countP Entry.isCombined + 1 := by
    rw [htail, List.countP_append, List.countP_cons_of_pos rfl, once.countP_combined]
  unfold executePlain
  rcases h : s.executeOnce w service raw with ⟨e | response, w₁⟩
  · rw [h] at made
    exact made
  · rw [h] at made
    dsimp only
    rw [emit_eq, World.log_addAll, World.toList_addAll, List.countP_append,
      countP_combined_of_tells Tells.emission.log, made]

/-- So is a call that its policy does not let retry. -/
theorem bypass_combined :
    (s.bypass p service raw w).2.journal.toList.countP Entry.isCombined =
      w.journal.toList.countP Entry.isCombined + 1 := by
  rcases h : s.bypass p service raw w with ⟨o, w'⟩
  obtain ⟨pre, tail, hj, notes, once⟩ := bypass_once h
  have tells : Tells pre (Journal.eventsIn pre) :=
    ⟨fun e he => Entry.isCall_of_isNote (notes e he), rfl⟩
  rw [hj, List.countP_append, List.countP_append, countP_combined_of_tells tells,
    List.countP_cons_of_pos rfl, once.countP_combined, Nat.zero_add]

/-- It is told of once, with the reason. -/
theorem bypass_events :
    (s.bypass p service raw w).2.journal.events =
      w.journal.events ++ [.bypassed service raw.method.name (bypassReason p)] := by
  unfold bypass
  dsimp only
  rw [emit_eq, World.log_addAll, World.ask, World.addAll_addAll]
  generalize hes : List.map Entry.asked _ ++ _ :: _ = es
  have told : Journal.eventsIn es = [.bypassed service raw.method.name (bypassReason p)] := by
    rw [← hes]
    exact (Tells.asked.append Tells.emission.log).told
  obtain ⟨tail, htail, once⟩ : ∃ tail, (s.executeOnce (w.addAll es) service raw).2.journal.toList =
      (w.addAll es).journal.toList ++ .combined service :: tail ∧
        s.Once service raw (s.executeOnce (w.addAll es) service raw).1 tail := executeOnce_once
  have quiet : Journal.eventsIn (.combined service :: tail) = [] := once.eventsIn
  rw [Journal.events, htail, World.toList_addAll]
  change Journal.eventsIn (_ ++ _) = _
  rw [Journal.eventsIn_append, Journal.eventsIn_append, quiet, told, List.append_nil]
  rfl

end Setup

/-! ### Counting attempts -/

/-- A number that a balancer keeps counts attempts: it grows by at most one with an attempt, and
with a combined call of the balancer's own, and not with a choice. -/
structure Balancer.Counts {σ : Type} (B : Balancer σ) (count : σ → Nat) : Prop where
  choose : ∀ service b, count (B.choose service b).2 ≤ count b
  executeOn : ∀ service i r b, count (B.executeOn service i r b).2 ≤ count b + 1
  combined : ∀ execute, B.combined = some execute →
    ∀ service pipeline raw b, count (execute service pipeline raw b).2 ≤ count b + 1

/-- A combined call counts once at most. -/
theorem Balancer.Counts.once {σ : Type} {B : Balancer σ} {count : σ → Nat} (h : B.Counts count)
    {pipeline : Pipeline} {service : String} {raw : Request} {b : σ} :
    count (B.once pipeline service raw b).balancer ≤ count b + 1 := by
  cases hc : B.combined with
  | some execute =>
      rw [once_of_combined hc]
      exact h.combined execute hc service pipeline raw b
  | none =>
      have hchoose := h.choose service b
      rcases choice : B.choose service b with ⟨_ | i, b₁⟩
      · rw [choice] at hchoose
        rw [once_of_none hc choice]
        exact Nat.le_succ_of_le hchoose
      · rw [choice] at hchoose
        cases bind : pipeline.bind raw i 1 with
        | error f =>
            rw [once_of_unaddressable hc choice bind]
            exact Nat.le_succ_of_le hchoose
        | ok r =>
            have hexecute := h.executeOn service i r b₁
            rcases answer : B.executeOn service i r b₁ with ⟨reply, b₂⟩
            rw [answer] at hexecute
            rw [once_of_answer hc choice bind answer]
            exact Nat.le_trans hexecute (Nat.succ_le_succ hchoose)

/-- The attempts that a script has recorded count attempts. -/
theorem Balancer.scripted_counts {atomic : Bool} :
    (Balancer.scripted atomic).Counts (·.attempts.size) where
  choose service b := by
    change b.choose.2.attempts.size ≤ _
    unfold Script.choose
    dsimp only
    split
    · exact Nat.le_refl _
    · split <;> exact Nat.le_refl _
  executeOn service i r b := by
    change (b.executeOn service i r).2.attempts.size ≤ _
    unfold Script.executeOn Script.nextOutcome
    dsimp only
    split
    · simp
    · split <;> simp
  combined execute h service pipeline raw b := by
    cases atomic with
    | false => cases h
    | true =>
        cases h
        exact Nat.le_succ _

/-! ### One call -/

/-- A call with all that it runs in. -/
structure Session.Call (σ : Type) where
  client : Client
  setup : Setup σ
  service : String
  raw : Request

namespace Session

variable {σ : Type}

/-- Makes calls one after another. -/
def runAll (session : Session σ) : List (Call σ) → Option (List Report × Session σ)
  | [] => some ([], session)
  | c :: cs =>
    match session.run c.setup.sink (c.client.execute c.setup c.service c.raw) with
    | none => none
    | some (report, session) =>
      match runAll session cs with
      | none => none
      | some (reports, session) => some (report :: reports, session)

namespace Call

/-- The client of the call is made from properties that let the call be made once only, and its
token has not fired before the call. -/
structure Refused (c : Call σ) (p : Properties) : Prop where
  built : Client.ofProperties p = .ok c.client
  refuses : (p.configFor c.service).Refuses c.raw.method
  live : c.setup.token.fired .empty = false

/-- What a call comes to that is made once, from the balancer's state `b`. -/
structure Single (c : Call σ) (config : RetryConfig) (b : σ) (o : Outcome) (w : World σ) :
    Prop where
  combined : w.journal.toList.countP Entry.isCombined = 1
  choices : w.journal.choices.length ≤ 1
  attempts : w.journal.attempts.length ≤ 1
  /-- The attempt is stamped as the first before the transformers see it. -/
  stamped : ∀ a ∈ w.journal.attempts, ∃ i uri, c.raw.uri.readdress i = .ok uri ∧
    a = (c.service, i, c.setup.pipeline.run i { c.raw with uri := uri, attempt := 1 })
  /-- A plain client with the same balancer and pipeline comes to the same. -/
  plain : ∀ s₀ words₀ o₀ w₀, c.setup.Shares s₀ →
    s₀.executePlain (.start b words₀) c.service c.raw = (o₀, w₀) →
      o = o₀ ∧ w.balancer = w₀.balancer ∧ w.journal.choices = w₀.journal.choices ∧
        w.journal.attempts = w₀.journal.attempts
  events : c.client.isRetrying = true →
    w.journal.events = [.bypassed c.service c.raw.method.name
      (if config.enabled then .unsafeMethod else .retryDisabled)]
  /-- Whatever counts the balancer's attempts counts one at most. -/
  counted : ∀ count, c.setup.balancer.Counts count → count w.balancer ≤ count b + 1

variable {c : Call σ} {config : RetryConfig} {p : Properties} {b : σ} {words : Words} {o : Outcome}
  {w : World σ}

/-- A call that is made once does what the combined call of its balancer does. -/
theorem single_of_gives {x : Outcome × World σ}
    (gives : (c.setup.balancer.once c.setup.pipeline c.service c.raw b).Gives (.start b words) x)
    (combined : x.2.journal.toList.countP Entry.isCombined = 1)
    (events : c.client.isRetrying = true →
      x.2.journal.events = [.bypassed c.service c.raw.method.name
        (if config.enabled then .unsafeMethod else .retryDisabled)]) :
    c.Single config b x.1 x.2 := by
  obtain ⟨outcome, balancer, choices, attempts⟩ := gives
  refine ⟨combined, ?_, ?_, ?_, ?_, events, ?_⟩
  · rw [choices]
    exact Balancer.once_choices_length
  · rw [attempts]
    rcases Balancer.once_attempts with h | ⟨i, r, -, h⟩
    · rw [h]
      exact Nat.zero_le 1
    · rw [h]
      exact Nat.le_refl 1
  · intro a ha
    rw [attempts] at ha
    change a ∈ (c.setup.balancer.once c.setup.pipeline c.service c.raw b).attempts at ha
    rcases Balancer.once_attempts with h | ⟨i, r, hb, h⟩
    · rw [h] at ha
      cases ha
    · rw [h, List.mem_singleton] at ha
      unfold Pipeline.bind at hb
      cases hu : c.raw.uri.readdress i with
      | error f =>
          rw [hu] at hb
          cases hb
      | ok uri =>
          rw [hu] at hb
          exact ⟨i, uri, hu, by rw [ha, ← Except.ok.inj hb]⟩
  · intro s₀ words₀ o₀ w₀ shares h
    have plain : (c.setup.balancer.once c.setup.pipeline c.service c.raw b).Gives (.start b words₀)
        (s₀.executePlain (.start b words₀) c.service c.raw) := shares.executePlain_gives
    rw [h] at plain
    obtain ⟨outcome₀, balancer₀, choices₀, attempts₀⟩ := plain
    exact ⟨outcome.trans outcome₀.symm, balancer.trans balancer₀.symm, choices.trans choices₀.symm,
      attempts.trans attempts₀.symm⟩
  · intro count counts
    rw [balancer]
    exact counts.once

/-- A refused call is made once. -/
theorem single (refused : c.Refused p) :
    ∃ x, c.client.execute c.setup c.service c.raw (.start b words) = some x ∧
      c.Single (p.configFor c.service) b x.1 x.2 := by
  obtain ⟨built, refuses, live⟩ := refused
  cases on : p.enabled with
  | false =>
      have plain : c.client = .plain :=
        (Except.ok.inj ((Client.ofProperties_of_disabled on).symm.trans built)).symm
      have gives : (c.setup.balancer.once c.setup.pipeline c.service c.raw b).Gives (.start b words)
          (c.setup.executePlain (.start b words) c.service c.raw) :=
        Setup.executePlain_gives (w := .start b words)
      refine ⟨_, by rw [plain, Client.execute], single_of_gives gives ?_ ?_⟩
      · rw [Setup.executePlain_combined]
        rfl
      · rw [plain]
        exact fun h => nomatch h
  | true =>
      obtain ⟨registry, hr, retrying⟩ := Client.ofProperties_eq_ok on built
      have entry : Policy.ofEntry? (p.configFor c.service) = .ok (registry.policyFor c.service) :=
        Registry.ofEntry_configFor hr
      have admits := Policy.admits_of_refuses entry refuses
      have live : c.setup.cancelled (.start b words) = false := live
      have gives : (c.setup.balancer.once c.setup.pipeline c.service c.raw b).Gives
          ((World.start b words).ask [.admits c.raw.method false])
          (c.setup.bypass (registry.policyFor c.service) c.service c.raw
            ((World.start b words).ask [.admits c.raw.method false])) :=
        Setup.bypass_gives (w := (World.start b words).ask [.admits c.raw.method false])
      refine ⟨_, by rw [retrying, Client.execute, Setup.executeRetrying_of_refuses live admits],
        single_of_gives ⟨gives.outcome, gives.agrees.of_addAll rfl rfl⟩ ?_ ?_⟩
      · rw [Setup.bypass_combined]
        rfl
      · intro _
        rw [Setup.bypass_events, Setup.bypassReason, Policy.ofEntry_enabled entry]
        rfl

/-! ### Many calls -/

/-- Of refused calls every one is answered, and none is repeated. -/
theorem runAll_single {calls : List (Call σ)} (refused : ∀ c ∈ calls, ∃ p, c.Refused p)
    (session : Session σ) :
    ∃ reports session', session.runAll calls = some (reports, session') ∧
      reports.length = calls.length ∧
      (reports.flatMap fun r => r.journal.attempts).length ≤ calls.length ∧
      ∀ count, (∀ c ∈ calls, c.setup.balancer.Counts count) →
        count session'.balancer ≤ count session.balancer + calls.length := by
  induction calls generalizing session with
  | nil => exact ⟨[], session, rfl, rfl, Nat.le_refl 0, fun _ _ => Nat.le_refl _⟩
  | cons c cs ih =>
      obtain ⟨p, hc⟩ := refused c List.mem_cons_self
      obtain ⟨⟨o, w⟩, hw, once⟩ : ∃ x, c.client.execute c.setup c.service c.raw
          (.start session.balancer session.words) = some x ∧
          c.Single (p.configFor c.service) session.balancer x.1 x.2 := single hc
      obtain ⟨report, next, hrun, hreport, hnext⟩ : ∃ report next,
          session.run c.setup.sink (c.client.execute c.setup c.service c.raw) =
            some (report, next) ∧ report.journal = w.journal ∧ next.balancer = w.balancer := by
        rw [Session.run, hw]
        exact ⟨_, _, rfl, rfl, rfl⟩
      obtain ⟨reports, session', hall, length, attempts, counted⟩ :=
        ih (fun x hx => refused x (List.mem_cons_of_mem c hx)) next
      refine ⟨report :: reports, session', ?_, ?_, ?_, ?_⟩
      · simp only [runAll, hrun, hall]
      · rw [List.length_cons, List.length_cons, length]
      · have : w.journal.attempts.length ≤ 1 := once.attempts
        rw [List.flatMap_cons, List.length_append, List.length_cons, hreport]
        omega
      · intro count counts
        have first : count w.balancer ≤ count session.balancer + 1 :=
          once.counted count (counts c List.mem_cons_self)
        have others := counted count fun x hx => counts x (List.mem_cons_of_mem c hx)
        rw [hnext] at others
        rw [List.length_cons]
        omega

/-- **Calls that a configuration refuses to repeat are made once.**  Each is handed to the balancer
once and comes to what it comes to with a plain client; a session of them makes at most as many
attempts as calls. -/
theorem made_once {calls : List (Call σ)} (refused : ∀ c ∈ calls, ∃ p, c.Refused p) :
    (∀ c ∈ calls, ∀ p, c.Refused p → ∀ b words, ∃ x,
      c.client.execute c.setup c.service c.raw (.start b words) = some x ∧
        c.Single (p.configFor c.service) b x.1 x.2) ∧
    ∀ session : Session σ, ∃ reports session',
      session.runAll calls = some (reports, session') ∧ reports.length = calls.length ∧
        (reports.flatMap fun r => r.journal.attempts).length ≤ calls.length ∧
        ∀ count, (∀ c ∈ calls, c.setup.balancer.Counts count) →
          count session'.balancer ≤ count session.balancer + calls.length :=
  ⟨fun _ _ _ h _ _ => single h, runAll_single refused⟩

/-- A write and a read on a service that is switched off, with an instance that fails: each is tried
once, although the budget of the write would allow two attempts. -/
theorem made_once_write :
    ∃ client, Client.ofProperties (Properties.default.withService "users" .default) = .ok client ∧
      let write : Call Script :=
        ⟨client, Setup.sample .never, "users", { Request.sample with method := .post }⟩
      let read : Call Script := ⟨client, Setup.sample .never, "orders", .sample⟩
      let failure : Except Failure Status := .error ⟨.reset, "closed"⟩
      let session : Session Script :=
        ⟨.sample [failure, failure], .constant 0, .ofCapacity 9⟩
      (∃ x, write.client.execute write.setup "users" write.raw
          (.start session.balancer session.words) = some x ∧
        write.Single .default session.balancer x.1 x.2) ∧
      ∃ reports session', session.runAll [write, read, write] = some (reports, session') ∧
        (reports.flatMap fun r => r.journal.attempts).length ≤ 3 ∧
        session'.balancer.attempts.size ≤ 3 := by
  obtain ⟨registry, built⟩ : ∃ registry,
      Client.ofProperties (Properties.default.withService "users" .default) =
        .ok (.retrying registry) := Client.exists_ofProperties rfl rfl
  refine ⟨.retrying registry, built, ?_⟩
  intro write read failure session
  have hwrite : write.Refused (Properties.default.withService "users" .default) :=
    ⟨built, .inr ⟨rfl, by simp [write, Method.post]⟩, rfl⟩
  have hread : read.Refused (Properties.default.withService "users" .default) :=
    ⟨built, .inl rfl, rfl⟩
  have refused : ∀ c ∈ [write, read, write], ∃ p, c.Refused p := by
    simp only [List.forall_mem_cons, List.not_mem_nil, false_implies, implies_true, and_true]
    exact ⟨⟨_, hwrite⟩, ⟨_, hread⟩, ⟨_, hwrite⟩⟩
  obtain ⟨each, all⟩ := made_once refused
  obtain ⟨reports, session', run, -, attempts, counted⟩ := all session
  refine ⟨each write List.mem_cons_self _ hwrite session.balancer session.words, reports, session',
    run, attempts, ?_⟩
  refine counted (·.attempts.size) ?_
  simp only [List.forall_mem_cons, List.not_mem_nil, false_implies, implies_true, and_true]
  exact ⟨Balancer.scripted_counts, Balancer.scripted_counts, Balancer.scripted_counts⟩

end Call

end Session

end Failover
