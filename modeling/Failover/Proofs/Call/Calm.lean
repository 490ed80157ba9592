import Failover.Proofs.Call.Reaction
import Failover.Proofs.Cancellation

/-!
# Calls — up to where the token fires

What is seen of a call can be compared with what is seen of another, and a journal tells at which
of its points the token had fired.

* `Journal.Begins`, `Journal.EndsWith`, `Journal.GoesOnAfter`: what is seen of a call.
* `Calm`: the token has fired at no point of a journal.  `Calm.append_still` and `Calm.append` keep
  it so.
* `Calm.stops_append`: where the token fires last, nothing is asked of the balancer afterwards.
-/

namespace Failover

/-! ### What is seen of a call -/

/-- Whether the call goes on: the balancer is asked for something, or a retry is scheduled. -/
def Entry.goesOn : Entry → Bool
  | .emitted e => decide (e.kind = .retryScheduled)
  | e => e.isCall

namespace Journal

/-- What the balancer is asked for, in order. -/
def calls (j : Journal) : List Entry := j.toList.filter (·.isCall)

/-- All that is seen of a call is the beginning of what is seen of another. -/
structure Begins (j j₀ : Journal) : Prop where
  calls : j.calls <+: j₀.calls
  choices : j.choices <+: j₀.choices
  attempts : j.attempts <+: j₀.attempts
  events : j.events <+: j₀.events

/-- The call ended with its `k`-th attempt: it did not go on afterwards. -/
def EndsWith (j : Journal) (k : Nat) : Prop :=
  ∃ past service i r rest, j.toList = past ++ .attempted service i r :: rest ∧
    (ofList past).attempts.length + 1 = k ∧ ∀ e ∈ rest, e.goesOn = false

/-- The call went on after its `k`-th attempt. -/
def GoesOnAfter (j : Journal) (k : Nat) : Prop :=
  ∃ past e rest, j.toList = past ++ e :: rest ∧ (ofList past).attempts.length = k ∧
    e.goesOn = true

variable {j j₀ j₁ : Journal} {k : Nat} {as bs : List Entry} {xs ys : List Event}

theorem calls_of_append (h : j.toList = as ++ bs) :
    j.calls = (ofList as).calls ++ (ofList bs).calls := by
  rw [calls, h, List.filter_append]
  rfl

theorem Begins.of_extends (h : j.toList <+: j₀.toList) : j.Begins j₀ :=
  ⟨h.filter _, h.filterMap _, h.filterMap _, h.filterMap _⟩

theorem Begins.trans (h : j.Begins j₀) (h' : j₀.Begins j₁) : j.Begins j₁ where
  calls := h.calls.trans h'.calls
  choices := h.choices.trans h'.choices
  attempts := h.attempts.trans h'.attempts
  events := h.events.trans h'.events

/-- Where the balancer is left alone, only the events can differ. -/
theorem Begins.of_tells {past : List Entry} (hj : j.toList = past ++ as)
    (hj₀ : j₀.toList = past ++ bs) (tells : Tells as xs) (tells₀ : Tells bs ys) (h : xs <+: ys) :
    j.Begins j₀ where
  calls := by
    have none {es : List Entry} (quiet : ∀ e ∈ es, e.isCall = false) :
        (ofList es).calls = [] := by
      rw [Journal.calls, toList_ofList, List.filter_eq_nil_iff]
      intro e he
      rw [quiet e he]
      exact Bool.false_ne_true
    have same : j.calls = j₀.calls := by
      rw [calls_of_append hj, calls_of_append hj₀, none tells.quiet, none tells₀.quiet]
    exact same ▸ List.prefix_refl _
  choices := by
    have same : j.choices = j₀.choices := by
      rw [choices_of_append hj, choices_of_append hj₀, tells.choices, tells₀.choices]
    exact same ▸ List.prefix_refl _
  attempts := by
    have same : j.attempts = j₀.attempts := by
      rw [attempts_of_append hj, attempts_of_append hj₀, tells.attempts, tells₀.attempts]
    exact same ▸ List.prefix_refl _
  events := by
    rw [Journal.events, Journal.events, hj, hj₀]
    change eventsIn (past ++ as) <+: eventsIn (past ++ bs)
    rw [eventsIn_append, eventsIn_append, tells.told, tells₀.told]
    exact (List.prefix_append_right_inj _).mpr h

/-- A call that goes on after an attempt has gone on in every longer record of it. -/
theorem GoesOnAfter.extend (h : j.GoesOnAfter k) (hp : j.toList <+: j₀.toList) :
    j₀.GoesOnAfter k := by
  obtain ⟨past, e, rest, hj, attempts, goes⟩ := h
  obtain ⟨more, hm⟩ := hp
  refine ⟨past, e, rest ++ more, ?_, attempts, goes⟩
  rw [← hm, hj, List.append_assoc, List.cons_append]

/-- What comes after the `k`-th attempt is not before it. -/
theorem EndsWith.not_goesOnAfter (h : j.EndsWith k) : ¬ j.GoesOnAfter k := by
  rintro ⟨past', e, rest', hj', attempts', goes⟩
  obtain ⟨past, service, i, r, rest, hj, attempts, ends⟩ := h
  rcases List.append_eq_append_iff.mp (hj.symm.trans hj') with ⟨mid, rfl, hmid⟩ | ⟨mid, rfl, -⟩
  · cases mid with
    | nil =>
        rw [List.append_nil] at attempts'
        omega
    | cons x mid =>
        obtain ⟨-, rfl⟩ := List.cons.inj hmid
        rw [ends e (by simp)] at goes
        cases goes
  · rw [attempts_of_append toList_ofList, List.length_append] at attempts
    omega

end Journal

theorem Entry.isCall_of_not_goesOn {e : Entry} (h : e.goesOn = false) : e.isCall = false := by
  cases e <;> first | rfl | exact h

/-- Notes tell whether a call goes on by their events alone. -/
theorem Tells.goesOn {es : List Entry} {xs : List Event} (h : Tells es xs)
    (hx : ∀ x ∈ xs, x.kind ≠ .retryScheduled) : ∀ e ∈ es, e.goesOn = false := by
  intro e he
  cases e with
  | emitted x =>
      have : x ∈ xs := by
        rw [← h.told]
        exact List.mem_filterMap.mpr ⟨_, he, rfl⟩
      exact decide_eq_false (hx x this)
  | _ => exact h.quiet _ he

/-- Entries that tell of a scheduled retry hold the one that schedules it. -/
theorem Tells.goesOn_exists {es : List Entry} {x : Event} (h : Tells es [x])
    (hx : x.kind = .retryScheduled) :
    ∃ pre e post, es = pre ++ e :: post ∧ e.goesOn = true := by
  have : x ∈ Journal.eventsIn es := by
    rw [h.told]
    exact List.mem_singleton_self x
  obtain ⟨e, he, hxe⟩ := List.mem_filterMap.mp this
  obtain ⟨pre, post, rfl⟩ := List.append_of_mem he
  refine ⟨pre, e, post, rfl, ?_⟩
  cases e with
  | emitted y =>
      obtain rfl := Option.some.inj hxe
      exact decide_eq_true hx
  | _ => cases hxe

namespace Setup

variable {σ : Type}

/-! ### Whether the token has fired -/

/-- The token has fired by the end of the entries: the call could see it, or it fired in the wait
that is requested last. -/
def FiredBy (s : Setup σ) (past : List Entry) : Prop :=
  s.token.fired (.ofList past) = true ∨
    s.sleeper = .timer ∧ ∃ before delay time, past = before ++ [.slept delay] ∧
      s.token.during (.ofList past) delay = some time

/-- The token has fired nowhere in the entries. -/
def Calm (s : Setup σ) (es : List Entry) : Prop :=
  ∀ past rest, es = past ++ rest → ¬ s.FiredBy past

/-- Once the token has fired, the balancer is not asked for anything. -/
def Stops (s : Setup σ) (es : List Entry) : Prop :=
  ∀ past rest, es = past ++ rest → s.FiredBy past → ∀ e ∈ rest, e.isCall = false

variable {s : Setup σ} {past later es : List Entry} {e : Entry} {w : World σ}

theorem ofList_concat : Journal.ofList (past ++ [e]) = (Journal.ofList past).add e :=
  Journal.toList_injective (Journal.toList_add (j := .ofList past)).symm

/-- A token that has fired stays so. -/
theorem fired_append (timely : s.token.Timely) (h : s.token.fired (.ofList past) = true) :
    s.token.fired (.ofList (past ++ later)) = true := by
  induction later generalizing past with
  | nil => rwa [List.append_nil]
  | cons e later ih =>
      rw [← List.singleton_append, ← List.append_assoc]
      apply ih
      rw [ofList_concat]
      exact timely.stays h

/-- What is no moment of the trigger does not let the token fire. -/
theorem live_append (timely : s.token.Timely) (h : s.token.fired (.ofList past) = false)
    (hm : ∀ e ∈ later, e.isMoment = false) : s.token.fired (.ofList (past ++ later)) = false := by
  induction later generalizing past with
  | nil => rwa [List.append_nil]
  | cons e later ih =>
      rw [← List.singleton_append, ← List.append_assoc]
      refine ih ?_ fun x hx => hm x (List.mem_cons_of_mem e hx)
      rw [ofList_concat]
      exact timely.moments h (hm e List.mem_cons_self)

namespace Calm

theorem live (h : s.Calm es) : s.token.fired (.ofList es) = false :=
  Bool.eq_false_iff.mpr fun hf => h es [] (List.append_nil es).symm (.inl hf)

theorem nil (h : s.token.fired .empty = false) : s.Calm [] := by
  intro past rest hp
  obtain ⟨rfl, rfl⟩ := List.append_eq_nil_iff.mp hp.symm
  rintro (hf | ⟨-, before, delay, time, hb, -⟩)
  · exact Bool.false_ne_true (h.symm.trans hf)
  · simp at hb

/-- Calm entries stay calm with another one, unless the token fires there. -/
theorem concat (h : s.Calm es) (he : ¬ s.FiredBy (es ++ [e])) : s.Calm (es ++ [e]) := by
  intro past rest hp
  rcases List.eq_nil_or_concat rest with rfl | ⟨rest, x, rfl⟩
  · rw [List.append_nil] at hp
    rwa [← hp]
  · rw [List.concat_eq_append, ← List.append_assoc] at hp
    obtain ⟨rfl, -⟩ := List.append_inj' hp rfl
    exact h past rest rfl

/-- Where no wait is requested, calm entries stay calm if the token has not fired at the end. -/
theorem append (timely : s.token.Timely) (h : s.Calm es)
    (live : s.token.fired (.ofList (es ++ later)) = false)
    (hp : ∀ e ∈ later, e.isPause = false) : s.Calm (es ++ later) := by
  induction later generalizing es with
  | nil => rwa [List.append_nil]
  | cons e later ih =>
      rw [← List.singleton_append, ← List.append_assoc] at live ⊢
      refine ih (h.concat ?_) live fun x hx => hp x (List.mem_cons_of_mem e hx)
      rintro (hf | ⟨-, before, delay, time, hb, -⟩)
      · exact Bool.false_ne_true (live.symm.trans (fired_append timely hf))
      · obtain ⟨-, hb⟩ := List.append_inj' hb rfl
        obtain rfl := List.singleton_inj.mp hb
        cases hp _ List.mem_cons_self

/-- The token fires in none but its moments. -/
theorem append_still (timely : s.token.Timely) (h : s.Calm es)
    (hm : ∀ e ∈ later, e.isMoment = false) : s.Calm (es ++ later) :=
  h.append timely (live_append timely h.live hm) fun e he =>
    Entry.isPause_of_not_isMoment (hm e he)

/-- A wait is calm if the token fires neither when it is requested nor before it is over. -/
theorem slept {d : Duration} (h : s.Calm es)
    (live : s.token.fired (.ofList (es ++ [.slept d])) = false)
    (silent : s.sleeper = .timer → s.token.during (.ofList (es ++ [.slept d])) d = none) :
    s.Calm (es ++ [.slept d]) := by
  refine h.concat ?_
  rintro (hf | ⟨hs, before, delay, time, hb, hd⟩)
  · exact Bool.false_ne_true (live.symm.trans hf)
  · obtain ⟨-, hb⟩ := List.append_inj' hb rfl
    obtain rfl : d = delay := Entry.slept.inj (List.singleton_inj.mp hb)
    cases (silent hs).symm.trans hd

/-- A wait that the token does not cut leaves the call calm. -/
theorem waited {d : Duration} (timely : s.token.Timely) (h : s.Calm es)
    (silent : s.token.during (.ofList es) d = none) : s.Calm (es ++ [.waited d]) := by
  refine h.concat ?_
  rintro (hf | ⟨-, before, delay, time, hb, -⟩)
  · rw [ofList_concat, timely.waits h.live silent] at hf
    cases hf
  · obtain ⟨-, hb⟩ := List.append_inj' hb rfl
    cases List.singleton_inj.mp hb

theorem stops (h : s.Calm es) : s.Stops es := fun past rest hp hf => absurd hf (h past rest hp)

/-- If the token fires at an entry or later, and the balancer is not asked after the entry, then it
is not asked after the token fired. -/
theorem stops_append (h : s.Calm es) (hl : ∀ x ∈ later, x.isCall = false) :
    s.Stops (es ++ e :: later) := by
  intro past rest hp hf
  rcases List.append_eq_append_iff.mp hp with ⟨mid, rfl, hmid⟩ | ⟨mid, rfl, -⟩
  · cases mid with
    | nil =>
        rw [List.append_nil] at hf
        exact absurd hf (h es [] (List.append_nil es).symm)
    | cons x mid =>
        obtain ⟨-, rfl⟩ := List.cons.inj hmid
        intro x hx
        exact hl x (List.mem_append_right mid hx)
  · exact absurd hf (h past mid rfl)

end Calm

end Setup

end Failover
