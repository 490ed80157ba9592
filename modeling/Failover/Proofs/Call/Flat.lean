import Failover.Call.Client
import Failover.Proofs.Call.Turn
import Failover.Proofs.Policy.Budget

/-!
# Calls — the flat course of an uncancelled call

Under a configuration that allows `m` attempts on one instance a call is a flat row of attempts,
numbered from 1.  Attempt `k` is made on the selected instance with the index `(k - 1) / m`, and
the balancer is asked for an instance before the attempts with `(k - 1) % m = 0`.  The row ends
with the first outcome that is not worth a retry, or where there is no instance, or where the
request cannot be bound, or with the budget.

`Flat` says so with two lists and a counter.  The counters of a call, its bound instance and its
released one do not occur in it.

* `Ready.after`: the counters of a call that goes on are those of the next attempt.
* `turns_flat`: from any attempt on, a call takes the flat course.
* `executeRetrying_takes_flat`, `executeRetrying_flat`: so does a whole call, if its token does not
  fire.
-/

namespace Failover

/-! ### Distinct instances -/

/-- The selections that differ from the one before them. -/
def distinctCount : List Instance → Nat
  | [] => 0
  | [_] => 1
  | i :: j :: is => (if i.sameEndpoint j then 0 else 1) + distinctCount (j :: is)

/-- One more selection counts if it differs from the last. -/
theorem distinctCount_concat {is : List Instance} {i : Instance} :
    distinctCount (is ++ [i]) =
      distinctCount is + match is.getLast? with
        | none => 1
        | some j => if j.sameEndpoint i then 0 else 1 := by
  induction is with
  | nil => rfl
  | cons j is ih =>
      cases is with
      | nil => exact Nat.add_comm _ 1
      | cons j' is =>
          rw [List.cons_append] at ih
          rw [List.cons_append, List.cons_append, distinctCount, ih, distinctCount,
            List.getLast?_cons_cons, Nat.add_assoc]

/-- A selection changes the counter as it changes the list. -/
theorem Context.bind_distinct {is : List Instance} {c : Context} {i : Instance}
    (released : c.released = is.getLast?) (distinct : c.distinct = distinctCount is) :
    (c.bind i).distinct = distinctCount (is ++ [i]) := by
  rw [distinctCount_concat, ← released, ← distinct, bind, isNew]
  cases c.released with
  | none => rfl
  | some j => cases h : j.sameEndpoint i <;> simp [h]

/-- A reply as the last outcome of a call. -/
def LastOutcome.ofReply : Except Failure Response → LastOutcome
  | .ok r => .response r
  | .error f => .failure f

namespace Setup

variable {σ : Type}

/-! ### The flat course -/

/-- What a call comes to, with what it asks of the balancer on the way. -/
structure Flat (σ : Type) where
  outcome : Outcome
  balancer : σ
  choices : List (Option Instance)
  attempts : List (String × Instance × Request)

/-- The flat course with something in front. -/
def Flat.after (f : Flat σ) (choices : List (Option Instance))
    (attempt : String × Instance × Request) : Flat σ :=
  { f with choices := choices ++ f.choices, attempts := attempt :: f.attempts }

/-- What is asked for before attempt `k`: an instance, if the attempts on the last one are used
up. -/
def flatChoice (s : Setup σ) (d : Policy.Configured) (service : String) (k : Nat)
    (selected : List Instance) (b : σ) : List (Option Instance) × List Instance × σ :=
  if (k - 1) % d.config.sameInstance.toNat = 0 then
    let (choice, b) := s.balancer.choose service b
    ([choice], selected ++ choice.toList, b)
  else ([], selected, b)

/-- The outcome with which a call stops at attempt `k`, unless that is worth a retry. -/
def flatStop (d : Policy.Configured) (service : String) (k : Nat) :
    Except Failure Response → Option Outcome
  | .ok r => if (Policy.ofConfigured d).retriesStatus r.status then none else some (.ok r)
  | .error f =>
    if f.kind = .cancelled then some (.error (.cancelled service k))
    else if d.retriesFailure f then none
    else some (.error (.connectivity service f))

/-- The outcome of a call whose last attempt is worth a retry.  If it is also the only one, the call
comes to what it would have come to without retries. -/
def flatSpent (d : Policy.Configured) (service : String) (distinct : Nat)
    (reply : Except Failure Response) : Outcome :=
  if d.budget = 1 then
    match reply with
    | .ok r => .ok r
    | .error f => .error (.connectivity service f)
  else .error (.budgetExhausted service d.budget distinct (.ofReply reply))

/-- The course from attempt `k` on, with the instances selected before and as many attempts left
after it as given. -/
def flatFrom (s : Setup σ) (d : Policy.Configured) (service : String) (raw : Request)
    (left : Nat) (k : Nat) (selected : List Instance) (b : σ) : Flat σ :=
  match s.flatChoice d service k selected b with
  | (choices, selected, b) =>
    match selected[(k - 1) / d.config.sameInstance.toNat]? with
    | none => ⟨.error (.noInstanceAvailable service), b, choices, []⟩
    | some i =>
      match s.pipeline.bind raw i k with
      | .error f => ⟨.error (.connectivity service f), b, choices, []⟩
      | .ok r =>
        match s.balancer.executeOn service i r b with
        | (reply, b) =>
          match flatStop d service k reply with
          | some o => ⟨o, b, choices, [(service, i, r)]⟩
          | none =>
            match left with
            | 0 => ⟨flatSpent d service (distinctCount selected) reply, b, choices,
                [(service, i, r)]⟩
            | left + 1 =>
              (flatFrom s d service raw left (k + 1) selected b).after choices (service, i, r)

/-- The course of a whole call. -/
def flat (s : Setup σ) (d : Policy.Configured) (service : String) (raw : Request) (b : σ) :
    Flat σ :=
  s.flatFrom d service raw (d.budget - 1) 1 [] b

variable {s : Setup σ} {d : Policy.Configured} {service : String} {raw : Request} {b b₁ b₂ : σ}
  {o : Outcome} {c c' : Context} {w w' : World σ} {i : Instance} {r : Request} {f : Failure}
  {reply : Except Failure Response} {k left : Nat} {selected selected' : List Instance}
  {choices : List (Option Instance)}

section

variable (hc : s.flatChoice d service k selected b = (choices, selected', b₁))
include hc

/-- The row ends where there is no instance. -/
theorem flatFrom_of_none (hi : selected'[(k - 1) / d.config.sameInstance.toNat]? = none) :
    s.flatFrom d service raw left k selected b =
      ⟨.error (.noInstanceAvailable service), b₁, choices, []⟩ := by
  rw [flatFrom.eq_def]
  simp only [hc, hi]

variable (hi : selected'[(k - 1) / d.config.sameInstance.toNat]? = some i)
include hi

/-- It ends where the request cannot be bound. -/
theorem flatFrom_of_error (hb : s.pipeline.bind raw i k = .error f) :
    s.flatFrom d service raw left k selected b =
      ⟨.error (.connectivity service f), b₁, choices, []⟩ := by
  rw [flatFrom.eq_def]
  simp only [hc, hi, hb]

variable (hb : s.pipeline.bind raw i k = .ok r)
  (ha : s.balancer.executeOn service i r b₁ = (reply, b₂))
include hb ha

/-- It ends with an outcome that is not worth a retry. -/
theorem flatFrom_of_stop (stop : flatStop d service k reply = some o) :
    s.flatFrom d service raw left k selected b = ⟨o, b₂, choices, [(service, i, r)]⟩ := by
  rw [flatFrom.eq_def]
  simp only [hc, hi, hb, ha, stop]

/-- It ends with the budget. -/
theorem flatFrom_zero (stop : flatStop d service k reply = none) :
    s.flatFrom d service raw 0 k selected b =
      ⟨flatSpent d service (distinctCount selected') reply, b₂, choices, [(service, i, r)]⟩ := by
  rw [flatFrom.eq_def]
  simp only [hc, hi, hb, ha, stop]

/-- Otherwise it goes on with the next attempt. -/
theorem flatFrom_succ (stop : flatStop d service k reply = none) :
    s.flatFrom d service raw (left + 1) k selected b =
      (s.flatFrom d service raw left (k + 1) selected' b₂).after choices (service, i, r) := by
  rw [flatFrom.eq_def]
  simp only [hc, hi, hb, ha, stop]

end

/-! ### The counters and the row -/

/-- The counters of attempt `k` when it is under way, with the instances selected so far. -/
structure Under (d : Policy.Configured) (k : Nat) (selected : List Instance) (c : Context) :
    Prop where
  fits : d.Fits c
  attempts_eq : c.attempts = k
  selections_eq : c.selections = selected.length
  distinct_eq : c.distinct = distinctCount selected
  bound_eq : c.bound = selected.getLast?

/-- The counters before attempt `k`: it is the first one on an instance yet to be selected, or
another one on the bound instance. -/
inductive Ready (d : Policy.Configured) (k : Nat) (selected : List Instance) (c : Context) :
    Prop where
  | unbound (unbound : c.bound = none)
      (under : ∀ i, Under d k (selected ++ [i]) (c.bind i).recordAttempt)
  | bound {i : Instance} (bound : c.bound = some i) (again : 1 ≤ c.sameAttempts)
      (under : Under d k selected c.recordAttempt)

/-- A call begins with its first attempt. -/
theorem ready_fresh : Ready d 1 [] (.fresh service) :=
  .unbound rfl fun _ => ⟨.first d.one_le_same, rfl, rfl, rfl, rfl⟩

/-- A call that goes on begins with its next attempt. -/
theorem Ready.after (h : Under d k selected c) (move : (Policy.ofConfigured d).move c ≠ .giveUp) :
    Ready d (k + 1) selected (c.after ((Policy.ofConfigured d).move c)) := by
  have hk : c.attempts + 1 = k + 1 := congrArg (· + 1) h.attempts_eq
  cases hm : (Policy.ofConfigured d).move c with
  | giveUp => exact absurd hm move
  | same =>
      have hs := Policy.move_eq_same_iff.mp hm
      obtain ⟨i, hi⟩ : ∃ i, selected.getLast? = some i := by
        cases hl : selected with
        | nil =>
            have := h.fits.one_le_selections
            rw [h.selections_eq, hl] at this
            cases this
        | cons j is => exact ⟨_, List.getLast?_eq_some_getLast (List.cons_ne_nil j is)⟩
      exact .bound (h.bound_eq.trans hi) h.fits.one_le_same
        ⟨h.fits.same hs, hk, h.selections_eq, h.distinct_eq, h.bound_eq⟩
  | next =>
      obtain ⟨hs, hn⟩ := Policy.move_eq_next_iff.mp hm
      refine .unbound rfl fun i => ⟨h.fits.next hs hn, hk, ?_, ?_, ?_⟩
      · rw [List.length_append, ← h.selections_eq]
        rfl
      · have released : c.release.released = selected.getLast? := h.bound_eq
        exact Context.bind_distinct released h.distinct_eq
      · rw [List.getLast?_concat]
        rfl

theorem Under.sub_one_eq (h : Under d k selected c) :
    k - 1 = (c.sameAttempts - 1) + d.config.sameInstance.toNat * (c.selections - 1) := by
  obtain ⟨m, hm⟩ := Nat.exists_eq_add_of_le h.fits.one_le_selections
  have heq := h.fits.attempts_eq
  have hpos := h.fits.one_le_same
  rw [h.attempts_eq, hm, Nat.add_mul, Nat.one_mul] at heq
  rw [hm, Nat.add_sub_cancel_left, Nat.mul_comm _ m]
  omega

/-- The place of an attempt among those on its instance. -/
theorem Under.mod_eq (h : Under d k selected c) :
    (k - 1) % d.config.sameInstance.toNat = c.sameAttempts - 1 := by
  have hle := h.fits.same_le
  have hpos := h.fits.one_le_same
  rw [h.sub_one_eq, Nat.add_mul_mod_self_left, Nat.mod_eq_of_lt (by omega)]

/-- The index of its instance. -/
theorem Under.div_eq (h : Under d k selected c) :
    (k - 1) / d.config.sameInstance.toNat = selected.length - 1 := by
  have hle := h.fits.same_le
  have hpos := h.fits.one_le_same
  rw [h.sub_one_eq, Nat.add_mul_div_left _ _ d.one_le_same, Nat.div_eq_of_lt (by omega),
    Nat.zero_add, h.selections_eq]

/-- The attempt is made on the instance selected last. -/
theorem Under.getElem? (h : Under d k selected c) :
    selected[(k - 1) / d.config.sameInstance.toNat]? = c.bound := by
  rw [h.div_eq, h.bound_eq, List.getLast?_eq_getElem?]

/-! ### What a turn does to the row -/

/-- A selection, or the lack of one, is what the row has at this place. -/
theorem Target.flatChoice (ready : Ready d k selected c) (t : s.Target c w i c' w') :
    ∃ choices selected', s.flatChoice d c.service k selected w.balancer =
        (choices, selected', w'.balancer) ∧
      Under d k selected' c'.recordAttempt ∧
      w'.journal.choices = w.journal.choices ++ choices ∧
      w'.journal.attempts = w.journal.attempts := by
  cases t with
  | kept bound =>
      cases ready with
      | unbound unbound under => cases bound.symm.trans unbound
      | @bound j _ again under =>
          have hne : (k - 1) % d.config.sameInstance.toNat ≠ 0 := by
            have : c.recordAttempt.sameAttempts = c.sameAttempts + 1 := rfl
            rw [under.mod_eq]
            omega
          refine ⟨[], selected, ?_, under, (List.append_nil _).symm, rfl⟩
          rw [Setup.flatChoice, if_neg hne]
  | @chosen b' unbound live choice =>
      cases ready with
      | bound bound again under => cases bound.symm.trans unbound
      | unbound _ under =>
          have hz : (k - 1) % d.config.sameInstance.toNat = 0 := (under i).mod_eq
          refine ⟨[some i], selected ++ [i], ?_, under i, ?_, ?_⟩
          · rw [Setup.flatChoice, if_pos hz, choice]
            rfl
          · rw [World.choices_addAll, selectedEntries_choices]
          · exact (Target.chosen unbound live choice).journal_attempts

/-- Where the balancer offers no instance the row ends. -/
theorem flatFrom_of_empty (ready : Ready d k selected c) (unbound : c.bound = none)
    (choice : s.balancer.choose c.service b = (none, b₁)) :
    s.flatFrom d c.service raw left k selected b =
      ⟨.error (.noInstanceAvailable c.service), b₁, [none], []⟩ := by
  cases ready with
  | bound bound again under => cases bound.symm.trans unbound
  | unbound _ under =>
      have hz : (k - 1) % d.config.sameInstance.toNat = 0 := (under default).mod_eq
      have hc : s.flatChoice d c.service k selected b = ([none], selected, b₁) := by
        rw [Setup.flatChoice, if_pos hz, choice]
        simp only [Option.toList_none, List.append_nil]
      -- The index is one past the instances selected so far.
      have hi : selected[(k - 1) / d.config.sameInstance.toNat]? = none := by
        rw [(under default).div_eq, List.length_append]
        exact List.getElem?_eq_none (Nat.le_refl _)
      exact flatFrom_of_none hc hi

/-- The row stops where the verdict stops the call. -/
theorem flatStop_eq : flatStop d service k reply =
    match (Policy.ofConfigured d).verdict reply with
    | .usable r => some (.ok r)
    | .cancelled => some (.error (.cancelled service k))
    | .fatal f => some (.error (.connectivity service f))
    | .retryable _ => none := by
  cases reply with
  | ok r =>
      simp only [flatStop, Policy.verdict]
      split <;> rfl
  | error f =>
      simp only [flatStop, Policy.verdict, Failure.isCancelled, decide_eq_true_eq]
      split
      · rfl
      · have hr : (Policy.ofConfigured d).retriesFailure f = d.retriesFailure f := rfl
        rw [hr]
        cases d.retriesFailure f <;> rfl

theorem eq_ofReply_of_retryable {p : Policy} {last : LastOutcome}
    (h : p.verdict reply = .retryable last) : last = .ofReply reply := by
  unfold Policy.verdict at h
  cases reply with
  | ok r =>
      dsimp only at h
      split at h
      · exact (Verdict.retryable.inj h).symm
      · cases h
  | error f =>
      dsimp only at h
      split at h
      · cases h
      · split at h
        · exact (Verdict.retryable.inj h).symm
        · cases h

/-- A call gives up with its budget. -/
theorem Under.budget_eq (h : Under d k selected c)
    (move : (Policy.ofConfigured d).move c = .giveUp) : d.budget = k := by
  have hlt : ¬ c.attempts < d.budget := fun hlt =>
    (Policy.move_ne_giveUp_iff h.fits).mpr hlt move
  have hle : c.attempts ≤ d.budget := h.fits.attempts_le
  rw [← h.attempts_eq]
  omega

/-- A call that gives up with its only attempt hands back what came of it. -/
theorem Under.spent_of_single {last : LastOutcome} (h : Under d k selected c)
    (verdict : (Policy.ofConfigured d).verdict reply = .retryable last)
    (move : (Policy.ofConfigured d).move c = .giveUp) (one : c.attempts = 1) :
    last.asOutcome c.service = flatSpent d c.service (distinctCount selected) reply := by
  rw [flatSpent.eq_def, if_pos (by rw [h.budget_eq move, ← h.attempts_eq, one]),
    eq_ofReply_of_retryable verdict]
  cases reply with
  | ok r => rfl
  | error f => rfl

/-- One that gives up later says so. -/
theorem Under.spent_of_more {last : LastOutcome} (h : Under d k selected c)
    (verdict : (Policy.ofConfigured d).verdict reply = .retryable last)
    (move : (Policy.ofConfigured d).move c = .giveUp) (more : c.attempts ≠ 1) :
    .error (.budgetExhausted c.service c.attempts c.distinct last) =
      flatSpent d c.service (distinctCount selected) reply := by
  have hk := h.budget_eq move
  rw [flatSpent.eq_def, if_neg (by rw [hk, ← h.attempts_eq]; exact more), hk, ← h.attempts_eq,
    ← h.distinct_eq, eq_ofReply_of_retryable verdict]

/-- What becomes of an attempt in the row, if the token does not fire: the call stops with the
reply, or its budget is spent, or it goes on. -/
theorem Reaction.flat {t : Turn σ} (silent : ¬ s.token.Fires) (under : Under d k selected c)
    (h : s.Reaction (.ofConfigured d) c w i reply t) :
    (∃ o es events, t = .over o (w.addAll es) ∧ Tells es events ∧
      (flatStop d c.service k reply = some o ∨ flatStop d c.service k reply = none ∧
        d.budget = k ∧ o = flatSpent d c.service (distinctCount selected) reply)) ∨
    ∃ words es events, t = .again (c.after ((Policy.ofConfigured d).move c))
        (({ w with words := words } : World σ).addAll es) ∧ Tells es events ∧
      flatStop d c.service k reply = none ∧ (Policy.ofConfigured d).move c ≠ .giveUp := by
  rw [flatStop_eq]
  cases h with
  | usable verdict tells =>
      rw [verdict]
      exact .inl ⟨_, _, _, rfl, tells, .inl rfl⟩
  | cancelled verdict tells =>
      rw [verdict]
      exact .inl ⟨_, _, _, rfl, tells, .inl (by rw [← under.attempts_eq]; rfl)⟩
  | fatal verdict tells =>
      rw [verdict]
      exact .inl ⟨_, _, _, rfl, tells, .inl rfl⟩
  | @single last es verdict move one tells =>
      exact .inl ⟨_, _, _, rfl, tells, .inr ⟨by rw [verdict], under.budget_eq move,
        under.spent_of_single verdict move one⟩⟩
  | @spent last es verdict move more tells =>
      exact .inl ⟨_, _, _, rfl, tells, .inr ⟨by rw [verdict], under.budget_eq move,
        under.spent_of_more verdict move more⟩⟩
  | interrupted verdict move fired undelayed tells => exact absurd (.inl ⟨_, fired⟩) silent
  | cut verdict move fires scheduling => exact absurd fires silent
  | @again last words es verdict move scheduling =>
      rw [verdict]
      obtain ⟨delay, tells⟩ := scheduling.tells
      exact .inr ⟨_, _, _, rfl, tells, rfl, move⟩

/-! ### The whole row -/

/-- A run did what the flat course says. -/
structure Flat.Agrees (f : Flat σ) (w w' : World σ) : Prop where
  balancer : w'.balancer = f.balancer
  choices : w'.journal.choices = w.journal.choices ++ f.choices
  attempts : w'.journal.attempts = w.journal.attempts ++ f.attempts

/-- An attempt in front of what agrees. -/
theorem Flat.Agrees.after {f : Flat σ} {w₁ w₂ : World σ} {choices : List (Option Instance)}
    {attempt : String × Instance × Request} (h : f.Agrees w₂ w')
    (hc : w₁.journal.choices = w.journal.choices ++ choices)
    (ha : w₁.journal.attempts = w.journal.attempts)
    (hc' : w₂.journal.choices = w₁.journal.choices)
    (ha' : w₂.journal.attempts = w₁.journal.attempts ++ [attempt]) :
    (f.after choices attempt).Agrees w w' where
  balancer := h.balancer
  choices := by rw [h.choices, hc', hc, List.append_assoc, Flat.after]
  attempts := by
    rw [h.attempts, ha', ha, List.append_assoc, List.singleton_append, Flat.after]

/-- **A call takes the flat course** from attempt `k` on, as long as its token does not fire.  It
needs no more turns than attempts are left, or than the course makes. -/
theorem turns_flat {limit : Nat} (silent : ¬ s.token.Fires) (ready : Ready d k selected c)
    (hs : c.service = service) (hk : k + left = d.budget)
    (hl : left < limit ∨
      (s.flatFrom d service raw left k selected w.balancer).attempts.length < limit) :
    ∃ w', s.turns (.ofConfigured d) raw limit c w =
        some ((s.flatFrom d service raw left k selected w.balancer).outcome, w') ∧
      (s.flatFrom d service raw left k selected w.balancer).Agrees w w' := by
  subst hs
  -- The turns that are allowed bound the attempts that are left; `Ready` ties the counters to the
  -- row.
  induction limit generalizing left k selected c w with
  | zero => exact hl.elim (absurd · (Nat.not_lt_zero _)) (absurd · (Nat.not_lt_zero _))
  | succ limit ih =>
      rw [turns]
      have turn : s.TurnCase (.ofConfigured d) raw c w (s.turn (.ofConfigured d) raw c w) :=
        turn_case
      generalize s.turn (.ofConfigured d) raw c w = t at *
      cases turn with
      | fired unbound fired => exact absurd (.inl ⟨_, fired⟩) silent
      | @empty b' unbound live choice =>
          rw [flatFrom_of_empty ready unbound choice]
          exact ⟨_, rfl, rfl, World.choices_addAll, World.attempts_addAll⟩
      | @unaddressable i c₁ w₁ f target bind =>
          obtain ⟨choices, selected', hc, under, hchoices, hattempts⟩ := target.flatChoice ready
          have hi := under.getElem?.trans target.bound_eq
          rw [show c₁.attempts + 1 = k from under.attempts_eq] at bind
          rw [flatFrom_of_error hc hi bind, target.service_eq]
          have tells (l : LogLine) : Tells [.logged l] [] := Tells.nil.log
          refine ⟨_, rfl, rfl, ?_, ?_⟩
          · rw [(tells _).journal_choices, hchoices]
          · rw [(tells _).journal_attempts, hattempts, List.append_nil]
      | @attempted i c₁ w₁ r reply b' t target bind answer reaction =>
          obtain ⟨choices, selected', hc, under, hchoices, hattempts⟩ := target.flatChoice ready
          have hi := under.getElem?.trans target.bound_eq
          rw [show c₁.attempts + 1 = k from under.attempts_eq] at bind
          rw [target.service_eq] at answer reaction
          have hs : c₁.recordAttempt.service = c.service := target.service_eq
          generalize hw : ({ w₁ with balancer := b' } : World σ).addAll
            [.attempted c.service i r] = w₂ at reaction
          have hb : w₂.balancer = b' := by rw [← hw, World.balancer_addAll]
          have hc₂ : w₂.journal.choices = w₁.journal.choices := by
            rw [← hw, World.choices_addAll]
            exact List.append_nil _
          have ha₂ : w₂.journal.attempts = w₁.journal.attempts ++ [(c.service, i, r)] := by
            rw [← hw, World.attempts_addAll]
            rfl
          rcases reaction.flat silent under with
            ⟨o, es, events, rfl, tells, stop⟩ | ⟨words, es, events, rfl, tells, stop, move⟩
          · rw [hs] at stop
            have agrees : Flat.Agrees ⟨o, b', choices, [(c.service, i, r)]⟩ w (w₂.addAll es) := by
              refine ⟨hb, ?_, ?_⟩
              · rw [tells.journal_choices, hc₂, hchoices]
              · rw [tells.journal_attempts, ha₂, hattempts]
            rcases stop with stop | ⟨stop, last, rfl⟩
            · rw [flatFrom_of_stop hc hi bind answer stop]
              exact ⟨_, rfl, agrees⟩
            -- The call gives up with attempt `k`, so the row must end there as well.
            · obtain rfl : left = 0 := by omega
              rw [flatFrom_zero hc hi bind answer stop]
              exact ⟨_, rfl, agrees⟩
          · rw [hs] at stop
            have hlt := (Policy.move_ne_giveUp_iff under.fits).mp move
            rw [under.attempts_eq] at hlt
            obtain ⟨left, rfl⟩ := Nat.exists_eq_succ_of_ne_zero (by omega : left ≠ 0)
            rw [flatFrom_succ hc hi bind answer stop] at hl ⊢
            have hk' : k + 1 + left = d.budget := by omega
            have hs' : (c₁.recordAttempt.after
                ((Policy.ofConfigured d).move c₁.recordAttempt)).service = c.service := by
              rw [← hs]
              exact Context.service_after
            subst hb
            have hl' := hl.imp Nat.lt_of_succ_lt_succ Nat.lt_of_succ_lt_succ
            rw [← hs'] at hl'
            obtain ⟨w', run, agrees⟩ := ih (w := ({ w₂ with words := words } : World σ).addAll es)
              (Ready.after under move) hk' hl'
            rw [hs', World.balancer_addAll] at run agrees
            refine ⟨w', run, agrees.after hchoices hattempts ?_ ?_⟩
            · rw [tells.journal_choices, ← hc₂]
            · rw [tells.journal_attempts, ← ha₂]

/-- A whole call takes the flat course, given turns enough for its budget or for the course. -/
theorem executeRetrying_takes_flat {limit : Nat} (words : Words) (silent : ¬ s.token.Fires)
    (admitted : (Policy.ofConfigured d).admits raw.method = true)
    (enough : d.budget ≤ limit ∨ (s.flat d service raw b).attempts.length < limit) :
    ∃ w, s.executeRetrying limit (.ofConfigured d) service raw (.start b words) =
        some ((s.flat d service raw b).outcome, w) ∧
      w.balancer = (s.flat d service raw b).balancer ∧
      w.journal.choices = (s.flat d service raw b).choices ∧
      w.journal.attempts = (s.flat d service raw b).attempts := by
  have one := d.one_le_budget
  rw [executeRetrying_of_admits (live_of_silent silent) admitted]
  have hk : 1 + (d.budget - 1) = d.budget := by omega
  have enough := enough.imp_left (Nat.lt_of_lt_of_le (Nat.sub_one_lt_of_lt one))
  obtain ⟨w, run, agrees⟩ := turns_flat (w := (World.start b words).ask [.admits raw.method true])
    silent ready_fresh rfl hk enough
  exact ⟨w, run, agrees.balancer, agrees.choices, agrees.attempts⟩

/-- **Every uncancelled call of a configured policy takes the flat course**, in as many turns as
its budget has attempts; a budget below 64 bits is the one that the configuration reports. -/
theorem executeRetrying_flat {words : Words} (silent : ¬ s.token.Fires)
    (admitted : (Policy.ofConfigured d).admits raw.method = true)
    (small : d.budget < UInt64.size) :
    d.config.maxTotalAttempts = d.budget ∧ d.budget ≤ Client.maxTurns ∧
      ∀ limit, d.budget ≤ limit → ∃ w,
        s.executeRetrying limit (.ofConfigured d) service raw (.start b words) =
            some ((s.flat d service raw b).outcome, w) ∧
          w.balancer = (s.flat d service raw b).balancer ∧
          w.journal.choices = (s.flat d service raw b).choices ∧
          w.journal.attempts = (s.flat d service raw b).attempts :=
  ⟨d.maxTotalAttempts_eq small, Nat.le_of_lt small, fun _ hl =>
    executeRetrying_takes_flat words silent admitted (.inl hl)⟩

/-- Two attempts on each of two instances: the last one succeeds. -/
theorem executeRetrying_flat_failover :
    ∃ d : Policy.Configured, d.budget = 4 ∧ ∃ w,
      (Setup.sample .never).executeRetrying 4 (.ofConfigured d) "users" .sample
          (.start (.sample (List.replicate 3 (.error ⟨.reset, "closed"⟩))) (.constant 0)) =
        some (.ok ⟨.ok, ""⟩, w) ∧
      w.journal.attempts.map (·.2.1.id) = ["a", "a", "b", "b"] := by
  let config : RetryConfig := { RetryConfig.default with sameInstance := 2 }
  let d : Policy.Configured := ⟨config, none, none, rfl, rfl⟩
  let f := (Setup.sample .never).flat d "users" .sample
    (.sample (List.replicate 3 (.error ⟨.reset, "closed"⟩)))
  have admitted : (Policy.ofConfigured d).admits Request.sample.method = true := by decide
  obtain ⟨w, run, -, -, attempts⟩ : ∃ w,
      (Setup.sample .never).executeRetrying 4 (.ofConfigured d) "users" .sample
          (.start (.sample (List.replicate 3 (.error ⟨.reset, "closed"⟩))) (.constant 0)) =
        some (f.outcome, w) ∧
      w.balancer = f.balancer ∧ w.journal.choices = f.choices ∧ w.journal.attempts = f.attempts :=
    (executeRetrying_flat Trigger.not_fires_never admitted (by decide)).2.2 4 (by decide)
  have course : (f.outcome.toOption, f.attempts.map (·.2.1.id)) =
      (some ⟨.ok, ""⟩, ["a", "a", "b", "b"]) := by decide +kernel
  obtain ⟨ho, ids⟩ := Prod.mk.inj course
  refine ⟨d, rfl, w, ?_, attempts ▸ ids⟩
  cases h : f.outcome with
  | error e =>
      rw [h] at ho
      cases ho
  | ok r =>
      rw [h] at ho run
      obtain rfl := Option.some.inj ho
      exact run

end Setup

end Failover
