import ClassNav.Debounce
import Mathlib.Data.List.DropRight

/-!
A timer and the history of its calls. What it answers is told by the history alone: by the last trigger
since it last fired, and the delay.
-/

namespace ClassNav.Debouncer

inductive Call
  | trigger (now : Nat)
  | poll (now : Nat)
  | remaining (now : Nat)
  deriving DecidableEq, Repr

/-- A call with its answer. -/
inductive Event
  | triggered (time : Nat)
  | polled (time : Nat) (fired : Bool)
  | asked (time : Nat) (left : Option Nat)
  deriving DecidableEq, Repr

namespace Event

def time : Event → Nat
  | triggered t | polled t _ | asked t _ => t

def trigger? : Event → Option Nat
  | triggered t => some t
  | _ => none

def isFiring : Event → Bool
  | polled _ fired => fired
  | _ => false

def isQuestion : Event → Bool
  | asked _ _ => true
  | _ => false

end Event

def Call.isQuestion : Call → Bool
  | remaining _ => true
  | _ => false

/-- One call: what happened, and the timer afterwards. -/
def record (d : Debouncer) : Call → Event × Debouncer
  | .trigger now => (.triggered now, d.trigger now)
  | .poll now => (.polled now (d.poll now).1, (d.poll now).2)
  | .remaining now => (.asked now (d.remaining now), d)

/-- The history of some calls to a new timer, oldest first, and the timer after them. -/
def run (delay : Nat) (calls : List Call) : List Event × Debouncer :=
  calls.foldl (fun (log, d) call => (log ++ [(d.record call).1], (d.record call).2)) ([], .idle delay)

/-- The times of the triggers since the last firing. -/
def triggersSinceFiring (log : List Event) : List Nat :=
  (log.rtakeWhile fun e => !e.isFiring).filterMap Event.trigger?

theorem run_concat (delay : Nat) (calls : List Call) (call : Call) :
    run delay (calls ++ [call]) =
      ((run delay calls).1 ++ [((run delay calls).2.record call).1],
        ((run delay calls).2.record call).2) := by
  simp [run]

theorem poll_fires_iff (d : Debouncer) (now : Nat) :
    (d.poll now).1 = true ↔ ∃ deadline, d.deadline = some deadline ∧ deadline ≤ now := by
  unfold poll due
  cases d.deadline with
  | none => simp
  | some deadline => by_cases reached : deadline ≤ now <;> simp [reached]

/-- No time is left to tell exactly if no question would ever make the timer fire. -/
theorem remaining_eq_none_iff (d : Debouncer) (now : Nat) :
    d.remaining now = none ↔ ∀ t, (d.poll t).1 = false := by
  cases pending : d.deadline with
  | none => simp [remaining, poll, due, pending]
  | some deadline =>
    have fires : (d.poll deadline).1 = true := (poll_fires_iff _ _).2 ⟨deadline, pending, le_rfl⟩
    simp only [remaining, pending, Option.map_some, reduceCtorEq, false_iff, not_forall]
    exact ⟨deadline, by simp [fires]⟩

theorem remaining_eq_zero_iff (d : Debouncer) (now : Nat) :
    d.remaining now = some 0 ↔ (d.poll now).1 = true := by
  rw [poll_fires_iff]
  cases pending : d.deadline with
  | none => simp [remaining, pending]
  | some deadline => simp [remaining, pending, Nat.sub_eq_zero_iff_le]

theorem triggersSinceFiring_concat (log : List Event) (e : Event) :
    triggersSinceFiring (log ++ [e]) =
      if e.isFiring then [] else triggersSinceFiring log ++ e.trigger?.toList := by
  unfold triggersSinceFiring
  rw [List.rtakeWhile_concat]
  cases e with
  | triggered t | asked t left => exact List.filterMap_append
  | polled t fired => cases fired <;> simp [Event.isFiring, Event.trigger?]

/-- What one call does to a timer that is pending for the last trigger since it fired. -/
theorem deadline_record {delay : Nat} {d : Debouncer} {log : List Event} (delayed : d.delay = delay)
    (pending : d.deadline = (triggersSinceFiring log).getLast?.map (· + delay)) (call : Call) :
    (d.record call).2.delay = delay ∧ (d.record call).2.deadline =
      (triggersSinceFiring (log ++ [(d.record call).1])).getLast?.map (· + delay) := by
  rw [triggersSinceFiring_concat]
  cases call with
  | trigger now => simp [record, trigger, Event.isFiring, Event.trigger?, delayed]
  | poll now =>
    cases due : d.due now <;>
      simp [record, poll, due, Event.isFiring, Event.trigger?, delayed, pending]
  | remaining now => simp [record, Event.isFiring, Event.trigger?, delayed, pending]

theorem deadline_run (delay : Nat) (calls : List Call) :
    (run delay calls).2.delay = delay ∧ (run delay calls).2.deadline =
      (triggersSinceFiring (run delay calls).1).getLast?.map (· + delay) := by
  induction calls using List.reverseRecOn with
  | nil => exact ⟨rfl, rfl⟩
  | append_singleton calls call ih =>
    rw [run_concat]
    exact deadline_record ih.1 ih.2 call

/-- Each event of a history was the answer of the timer that the history before it leads to. -/
theorem exists_run_before {delay : Nat} {calls : List Call} {before after : List Event} {e : Event}
    (log : (run delay calls).1 = before ++ e :: after) :
    ∃ earlier call, (run delay earlier).1 = before ∧ ((run delay earlier).2.record call).1 = e := by
  induction calls using List.reverseRecOn generalizing after with
  | nil => simp [run] at log
  | append_singleton calls call ih =>
    rw [run_concat] at log
    obtain rfl | ⟨after, last, rfl⟩ := List.eq_nil_or_concat' after
    · obtain ⟨same, answer⟩ := List.append_inj' log rfl
      exact ⟨calls, call, same, by simpa using answer⟩
    · have whole : (run delay calls).1 ++ [((run delay calls).2.record call).1] =
          (before ++ e :: after) ++ [last] := by simpa using log
      exact ih (List.append_inj' whole rfl).1

/-- A timer fires for the last trigger since it fired before. -/
theorem firing_of_run {delay : Nat} {calls : List Call} {before after : List Event} {t : Nat}
    (log : (run delay calls).1 = before ++ .polled t true :: after) :
    ∃ s, (triggersSinceFiring before).getLast? = some s ∧ s + delay ≤ t := by
  obtain ⟨earlier, call, rfl, answer⟩ := exists_run_before log
  cases call with
  | trigger now => cases answer
  | remaining now => cases answer
  | poll now =>
    obtain ⟨rfl, fires⟩ := Event.polled.inj answer
    obtain ⟨deadline, pending, due⟩ := (poll_fires_iff _ _).1 fires
    rw [(deadline_run delay earlier).2] at pending
    obtain ⟨s, last, rfl⟩ := Option.map_eq_some_iff.1 pending
    exact ⟨s, last, due⟩

/-- A trigger for every firing, and one more while the timer is pending. -/
theorem firings_add_pending_le (delay : Nat) (calls : List Call) :
    (run delay calls).1.countP Event.isFiring + (run delay calls).2.deadline.toList.length ≤
      ((run delay calls).1.filterMap Event.trigger?).length := by
  induction calls using List.reverseRecOn with
  | nil => exact le_rfl
  | append_singleton calls call ih =>
    rw [run_concat, List.countP_append, List.filterMap_append, List.length_append]
    generalize (run delay calls).2 = d at *
    cases call with
    | trigger now =>
      simp [record, trigger, Event.isFiring, Event.trigger?]
      omega
    | poll now =>
      have silent (fired : Bool) : [Event.polled now fired].filterMap Event.trigger? = [] := rfl
      cases pending : d.deadline with
      | none => simpa [record, poll, due, pending, Event.isFiring, silent] using ih
      | some deadline =>
        by_cases reached : deadline ≤ now <;>
          simpa [record, poll, due, pending, reached, Event.isFiring, silent] using ih
    | remaining now => exact ih

/-- Questions leave no trace: without them all other calls go the same way. -/
theorem run_without_questions (delay : Nat) (calls : List Call) :
    run delay (calls.filter fun call => !call.isQuestion) =
      ((run delay calls).1.filter fun e => !e.isQuestion, (run delay calls).2) := by
  induction calls using List.reverseRecOn with
  | nil => rfl
  | append_singleton calls call ih =>
    rw [List.filter_append, run_concat, List.filter_append]
    cases call with
    | trigger now | poll now =>
      rw [List.filter_cons_of_pos rfl, List.filter_nil, run_concat, ih]
      rfl
    | remaining now =>
      rw [List.filter_cons_of_neg (by simp [Call.isQuestion]), List.filter_nil, List.append_nil, ih]
      simp [record, Event.isQuestion]

/-- A trigger since the last firing stands behind every firing. -/
theorem exists_triggered_behind {a b : List Event} {e : Event} {s : Nat} (firing : e.isFiring = true)
    (since : s ∈ triggersSinceFiring (a ++ e :: b)) : .triggered s ∈ b := by
  obtain ⟨event, within, told⟩ := List.mem_filterMap.1 since
  obtain rfl : event = .triggered s := by
    cases event with
    | triggered t => simpa [Event.trigger?] using told
    | polled | asked => cases told
  induction b using List.reverseRecOn with
  | nil =>
    rw [List.rtakeWhile_concat, firing] at within
    cases within
  | append_singleton b last ih =>
    rw [← List.cons_append, ← List.append_assoc, List.rtakeWhile_concat] at within
    split at within
    · obtain earlier | same := List.mem_append.1 within
      · exact List.mem_append_left _ (ih (List.mem_filterMap.2 ⟨_, earlier, told⟩) earlier)
      · exact List.mem_append_right _ same
    · cases within

/-- While the clock does not go back, no trigger is later than the last one since the firing. -/
theorem le_of_getLast?_triggersSinceFiring {log : List Event} {s last : Nat}
    (forward : (log.map Event.time).Pairwise (· ≤ ·))
    (latest : (triggersSinceFiring log).getLast? = some last) (triggered : .triggered s ∈ log) :
    s ≤ last := by
  obtain ⟨earlier, whole⟩ : triggersSinceFiring log <:+ log.filterMap Event.trigger? :=
    (List.rtakeWhile_suffix _ _).filterMap _
  have sorted : (log.filterMap Event.trigger?).Pairwise (· ≤ ·) := by
    rw [List.pairwise_map] at forward
    refine forward.filterMap _ fun e e' ordered t told t' told' => ?_
    cases e <;> cases e' <;> simp_all [Event.trigger?, Event.time]
  have inside : s ∈ log.filterMap Event.trigger? := List.mem_filterMap.2 ⟨_, triggered, rfl⟩
  obtain ⟨init, split⟩ := List.getLast?_eq_some_iff.1 latest
  rw [← whole, split, ← List.append_assoc] at sorted inside
  obtain before | same := List.mem_append.1 inside
  · exact (List.pairwise_append.1 sorted).2.2 s before last (List.mem_singleton_self _)
  · exact (List.mem_singleton.1 same).le

/-- Between two firings there is a trigger. -/
theorem exists_triggered_between {delay : Nat} {calls : List Call} {a b c : List Event} {t t' : Nat}
    (log : (run delay calls).1 = a ++ .polled t true :: (b ++ .polled t' true :: c)) :
    ∃ s, .triggered s ∈ b := by
  have split : (run delay calls).1 = (a ++ .polled t true :: b) ++ .polled t' true :: c := by
    simpa using log
  obtain ⟨s, last, -⟩ := firing_of_run split
  exact ⟨s, exists_triggered_behind rfl (List.mem_of_getLast? last)⟩

/-- While the clock does not go back, a firing keeps the delay from every trigger before it. -/
theorem firing_behind_triggers {delay : Nat} {calls : List Call} {before after : List Event} {t s : Nat}
    (forward : ((run delay calls).1.map Event.time).Pairwise (· ≤ ·))
    (log : (run delay calls).1 = before ++ .polled t true :: after) (triggered : .triggered s ∈ before) :
    s + delay ≤ t := by
  obtain ⟨last, latest, due⟩ := firing_of_run log
  have earlier : (before.map Event.time).Pairwise (· ≤ ·) := by
    rw [log, List.map_append] at forward
    exact (List.pairwise_append.1 forward).1
  have ordered := le_of_getLast?_triggersSinceFiring earlier latest triggered
  omega

/-- **A timer answers by its history.** Whatever it was called with, on a clock that may go back, it
fires exactly if it was triggered since it last fired and the delay after the last trigger is over; it
tells the time left until then, and telling changes nothing. So there is a trigger between two firings,
and there are no more firings than triggers. On a clock that goes forward, a firing comes the whole
delay after every trigger before it. -/
theorem answers_follow_history {delay : Nat} {calls : List Call} {log : List Event} {d : Debouncer}
    (ran : run delay calls = (log, d)) :
    (∀ now, (d.poll now).1 = true ↔
      ∃ s, (triggersSinceFiring log).getLast? = some s ∧ s + delay ≤ now) ∧
    (∀ now, (d.remaining now = none ↔ ∀ t, (d.poll t).1 = false) ∧
      (∀ s, (triggersSinceFiring log).getLast? = some s →
        ∃ left, d.remaining now = some left ∧ (left : Int) = max 0 (s + delay - now)) ∧
      (d.remaining now = some 0 ↔ (d.poll now).1 = true)) ∧
    run delay (calls.filter fun call => !call.isQuestion) =
      (log.filter fun e => !e.isQuestion, d) ∧
    (∀ a b c t t', log = a ++ .polled t true :: (b ++ .polled t' true :: c) →
      ∃ s, .triggered s ∈ b) ∧
    log.countP Event.isFiring ≤ (log.filterMap Event.trigger?).length ∧
    ((log.map Event.time).Pairwise (· ≤ ·) → ∀ before after t, log = before ++ .polled t true :: after →
      ∀ s, .triggered s ∈ before → s + delay ≤ t) := by
  obtain ⟨rfl, rfl⟩ : log = (run delay calls).1 ∧ d = (run delay calls).2 := by simp [ran]
  have pending := (deadline_run delay calls).2
  refine ⟨fun now => ?_, fun now => ⟨remaining_eq_none_iff _ now, fun s last => ?_,
    remaining_eq_zero_iff _ now⟩, run_without_questions delay calls,
    fun a b c t t' => exists_triggered_between, ?_,
    fun forward before after t whole s => firing_behind_triggers forward whole⟩
  · rw [poll_fires_iff, pending]
    simp
  · rw [last, Option.map_some] at pending
    refine ⟨s + delay - now, by simp [remaining, pending], ?_⟩
    omega
  · have counted := firings_add_pending_le delay calls
    omega

/-- A second trigger puts the firing off to its own deadline. -/
theorem answers_follow_history_retriggered :
    let log : List Event := [.triggered 0, .triggered 400, .polled 600 false, .asked 600 (some 300)]
    run 500 [.trigger 0, .trigger 400, .poll 600, .remaining 600, .poll 900] =
        (log ++ [.polled 900 true], .idle 500) ∧
      (∀ now, ((Debouncer.idle 500).poll now).1 = true ↔ False) ∧ ∀ s, .triggered s ∈ log → s + 500 ≤ 900 := by
  intro log
  have ran : run 500 [.trigger 0, .trigger 400, .poll 600, .remaining 600, .poll 900] =
      (log ++ [.polled 900 true], .idle 500) := by rfl
  obtain ⟨fires, -, -, -, -, spaced⟩ := answers_follow_history ran
  have none_since : triggersSinceFiring (log ++ [.polled 900 true]) = [] := by rfl
  refine ⟨ran, fun now => (fires now).trans (by simp [none_since]), ?_⟩
  exact spaced (by decide) log [] 900 rfl

end ClassNav.Debouncer
