import ClassNav.Proofs.Debounce
import ClassNav.Proofs.Distinct
import ClassNav.Watch.Session
import Mathlib.Data.List.DropRight

/-!
Watching from the first report on, wait after wait. What a session is at a wait is told by the rounds
gone by: by the last of them that printed a report, and by the changes that came after it.
-/

namespace ClassNav.Watch

/-- What ends a wait: a notification or nothing. It is handled at one time, then the timer is asked at
another, and the files are read as they are by then. -/
structure Wake where
  received : Option Notification
  handled : Nat
  asked : Nat
  store : Store

/-- A round gone by: the session that waited, what it woke to, and what it printed. -/
structure Turn where
  waiting : Session
  wake : Wake
  printed : Output

namespace Session

/-- The session once what it woke to is handled. -/
def handle (s : Session) (w : Wake) : Session :=
  match w.received with
  | some n => s.receive w.handled n
  | none => s

def turn (s : Session) (w : Wake) : Turn × Session :=
  let (next, printed) := s.round w.handled w.asked w.store w.received
  (⟨s, w, printed⟩, next)

end Session

namespace Turn

/-- Whether the session woke to the creation, modification or removal of one of its targets. -/
def relevant (t : Turn) : Bool :=
  t.wake.received.any fun n =>
    n.change ∈ [Change.created, .modified, .removed] && n.paths.any fun p => t.waiting.targets.any p.same

/-- Whether the timer fired. -/
def fired (t : Turn) : Bool := ((t.waiting.handle t.wake).debouncer.poll t.wake.asked).1

/-- Whether a report was printed. -/
def reported (t : Turn) : Bool := decide (t.printed ≠ .none)

end Turn

/-- The rounds of some wakes, first to last, and the session that waits after them. -/
def watch (style : Terminal.Style) (first : Store) (subject : Subject) (delay : Nat)
    (wakes : List Wake) : List Turn × Session :=
  wakes.foldl (fun (turns, s) w => (turns ++ [(s.turn w).1], (s.turn w).2))
    ([], (Session.start style first subject delay).1.register)

/-- The turns since a report was printed. -/
def sinceReport (turns : List Turn) : List Turn := turns.rtakeWhile fun t => !t.reported

/-- The latest turn with a relevant change. -/
def lastRelevant? (turns : List Turn) : Option Turn := (turns.filter Turn.relevant).getLast?

/-- The files as the latest report found them. -/
def lastSeen (first : Store) (turns : List Turn) : Store :=
  ((turns.filter Turn.reported).getLast?.map fun t => t.wake.store).getD first

namespace Session

theorem turn_eq (s : Session) (w : Wake) :
    s.turn w = (⟨s, w, ((s.handle w).fire w.asked w.store).2⟩,
      ((s.handle w).fire w.asked w.store).1.register) := by
  obtain ⟨received, handled, asked, store⟩ := w
  cases received <;> rfl

@[simp] theorem turn_waiting (s : Session) (w : Wake) : (s.turn w).1.waiting = s := by rw [turn_eq]

@[simp] theorem turn_wake (s : Session) (w : Wake) : (s.turn w).1.wake = w := by rw [turn_eq]

theorem turn_fired (s : Session) (w : Wake) :
    (s.turn w).1.fired = ((s.handle w).debouncer.poll w.asked).1 := by
  rw [Turn.fired, turn_waiting, turn_wake]

theorem turn_relevant (s : Session) (w : Wake) :
    (s.turn w).1.relevant = w.received.any s.concerns := by
  rw [Turn.relevant, turn_waiting, turn_wake]
  congr 1
  funext n
  cases same : n.change <;> simp [concerns, same]

/-- Handling concerns the timer alone. -/
theorem handle_eq (s : Session) (w : Wake) :
    s.handle w = { s with debouncer :=
      if (s.turn w).1.relevant then s.debouncer.trigger w.handled else s.debouncer } := by
  rw [turn_relevant]
  obtain ⟨received, handled, asked, store⟩ := w
  cases received with
  | none => rfl
  | some n => cases concerned : s.concerns n <;> simp [handle, receive, concerned]

theorem fire_eq (s : Session) (now : Nat) (store : Store) :
    s.fire now store =
      if (s.debouncer.poll now).1 then
        ({ s with
            reports := (inspect s.style store s.subject).1,
            debouncer := { s.debouncer with deadline := none } },
          .out (asLine []) ++ (inspect s.style store s.subject).2)
      else (s, .none) := by
  unfold fire Debouncer.poll
  cases s.debouncer.due now <;> rfl

/-- The directory of every target has been asked for. -/
theorem mem_directories_register {s : Session} {target dir : Path} (mattering : target ∈ s.targets)
    (parent : target.parent? = some dir) : dir ∈ s.register.directories := by
  by_cases known : dir ∈ s.directories
  · exact List.mem_append_right _ known
  · refine List.mem_append_left _ (List.mem_filter.2 ⟨?_, by simpa using known⟩)
    exact List.mem_eraseDups.2 (List.mem_filterMap.2 ⟨target, mattering, parent⟩)

/-- No directory is asked for again. -/
theorem nodup_directories_register {s : Session} (once : s.directories.Nodup) :
    s.register.directories.Nodup := by
  refine List.nodup_append.2 ⟨(nodup_eraseDups _).filter _, once, fun dir unwatched dir' known => ?_⟩
  rintro rfl
  simp [Session.unwatched, known] at unwatched

/-- A round prints a report if the timer fires, and nothing otherwise. -/
theorem printed_turn (s : Session) (w : Wake) :
    (s.turn w).1.printed = if (s.turn w).1.fired then
      .out (asLine []) ++ (inspect s.style w.store s.subject).2 else .none := by
  have same : (s.handle w).style = s.style ∧ (s.handle w).subject = s.subject := by
    rw [handle_eq]; exact ⟨rfl, rfl⟩
  rw [turn_fired, turn_eq, fire_eq, same.1, same.2]
  split <;> rfl

theorem reported_turn (s : Session) (w : Wake) : (s.turn w).1.reported = (s.turn w).1.fired := by
  rw [Turn.reported, printed_turn]
  cases (s.turn w).1.fired with
  | false => rfl
  | true =>
    refine decide_eq_true fun silent => ?_
    have line := congrArg Output.stdout silent
    cases line

/-- **What one round changes.** A report takes the place of the one before it and ends the delay; a
relevant change without a report restarts the delay; and the directories only become more. -/
theorem turn_next (s : Session) (w : Wake) :
    (s.turn w).2.subject = s.subject ∧ (s.turn w).2.style = s.style ∧
    (s.turn w).2.reports =
      (if (s.turn w).1.reported then (inspect s.style w.store s.subject).1 else s.reports) ∧
    (s.turn w).2.debouncer.delay = s.debouncer.delay ∧
    (s.turn w).2.debouncer.deadline =
      (if (s.turn w).1.reported then none
      else if (s.turn w).1.relevant then some (w.handled + s.debouncer.delay)
      else s.debouncer.deadline) ∧
    ∃ fired : Session, (s.turn w).2 = fired.register ∧ fired.directories = s.directories := by
  have next : (s.turn w).2 = ((s.handle w).fire w.asked w.store).1.register := by rw [turn_eq]
  have handled := s.handle_eq w
  rw [reported_turn, turn_fired, next]
  generalize s.handle w = h at handled ⊢
  rw [fire_eq]
  cases (h.debouncer.poll w.asked).1 with
  | true =>
    subst handled
    refine ⟨rfl, rfl, rfl, ?_, rfl, _, rfl, rfl⟩
    cases (s.turn w).1.relevant <;> rfl
  | false =>
    subst handled
    refine ⟨rfl, rfl, rfl, ?_, ?_, _, rfl, rfl⟩ <;> cases (s.turn w).1.relevant <;> rfl

end Session

theorem sinceReport_concat (turns : List Turn) (t : Turn) :
    sinceReport (turns ++ [t]) = if t.reported then [] else sinceReport turns ++ [t] := by
  rw [sinceReport, List.rtakeWhile_concat]
  cases t.reported <;> rfl

theorem lastRelevant?_concat (turns : List Turn) (t : Turn) :
    lastRelevant? (turns ++ [t]) = if t.relevant then some t else lastRelevant? turns := by
  cases relevant : t.relevant <;> simp [lastRelevant?, List.filter_append, relevant]

theorem lastSeen_concat (first : Store) (turns : List Turn) (t : Turn) :
    lastSeen first (turns ++ [t]) = if t.reported then t.wake.store else lastSeen first turns := by
  cases reported : t.reported <;> simp [lastSeen, List.filter_append, reported]

section
variable (style : Terminal.Style) (first : Store) (subject : Subject) (delay : Nat)

/-- What holds at every wait, after the rounds gone by. -/
structure Settled (turns : List Turn) (s : Session) : Prop where
  watches : s.subject = subject
  styled : s.style = style
  delayed : s.debouncer.delay = delay
  reports : s.reports = (Session.inspect style (lastSeen first turns) subject).1
  watched : ∀ target ∈ s.targets, ∀ dir, target.parent? = some dir → dir ∈ s.directories
  once : s.directories.Nodup
  kept : ∀ t ∈ turns, t.waiting.directories <:+ s.directories
  deadline : s.debouncer.deadline =
    (lastRelevant? (sinceReport turns)).map fun t => t.wake.handled + delay
  prints : ∀ t ∈ turns, t.printed = if t.fired then
    .out (asLine []) ++ (Session.inspect style t.wake.store subject).2 else .none
  reported : ∀ t ∈ turns, t.reported = t.fired
  spaced : ∀ before t later, turns = before ++ t :: later → t.fired = true →
    ∃ u, lastRelevant? (sinceReport before ++ [t]) = some u ∧ u.wake.handled + delay ≤ t.wake.asked

variable {style first subject delay}

theorem settled_start :
    Settled style first subject delay [] (Session.start style first subject delay).1.register where
  watches := rfl
  styled := rfl
  delayed := rfl
  reports := rfl
  watched := fun _ mattering _ parent => Session.mem_directories_register mattering parent
  once := Session.nodup_directories_register List.nodup_nil
  kept := by simp
  deadline := rfl
  prints := by simp
  reported := by simp
  spaced := by simp

/-- The round that fires was woken, or waited, for a change that the delay has passed since. -/
theorem Settled.due {turns : List Turn} {s : Session} (h : Settled style first subject delay turns s)
    {w : Wake} (fired : (s.turn w).1.fired = true) :
    ∃ u, lastRelevant? (sinceReport turns ++ [(s.turn w).1]) = some u ∧
      u.wake.handled + delay ≤ w.asked := by
  rw [Session.turn_fired, Debouncer.poll_fires_iff, Session.handle_eq] at fired
  rw [lastRelevant?_concat]
  obtain ⟨deadline, pending, due⟩ := fired
  cases relevant : (s.turn w).1.relevant with
  | true =>
    obtain rfl : w.handled + s.debouncer.delay = deadline := by
      simpa [relevant, Debouncer.trigger] using pending
    exact ⟨(s.turn w).1, rfl, by rwa [Session.turn_wake, ← h.delayed]⟩
  | false =>
    have waits : s.debouncer.deadline = some deadline := by simpa [relevant] using pending
    rw [h.deadline, Option.map_eq_some_iff] at waits
    obtain ⟨u, last, rfl⟩ := waits
    exact ⟨u, last, due⟩

theorem Settled.next {turns : List Turn} {s : Session}
    (h : Settled style first subject delay turns s) (w : Wake) :
    Settled style first subject delay (turns ++ [(s.turn w).1]) (s.turn w).2 := by
  obtain ⟨watches, styled, reports, delayed, deadline, fired, next, same⟩ := s.turn_next w
  have grown : s.directories <:+ (s.turn w).2.directories := by
    rw [next, ← same]
    exact List.suffix_append _ _
  constructor
  case watches => rw [watches, h.watches]
  case styled => rw [styled, h.styled]
  case delayed => rw [delayed, h.delayed]
  case reports =>
    rw [reports, lastSeen_concat, h.reports, h.styled, h.watches, s.turn_wake]
    split <;> rfl
  case watched =>
    intro target mattering dir parent
    rw [next] at mattering ⊢
    exact Session.mem_directories_register mattering parent
  case once =>
    rw [next]
    exact Session.nodup_directories_register (same ▸ h.once)
  case kept =>
    intro t gone
    obtain before | now := List.mem_append.1 gone
    · exact (h.kept t before).trans grown
    · rw [List.mem_singleton.1 now, s.turn_waiting]
      exact grown
  case deadline =>
    rw [deadline, sinceReport_concat, h.delayed, h.deadline]
    cases (s.turn w).1.reported with
    | true => rfl
    | false =>
      simp only [Bool.false_eq_true, if_false, lastRelevant?_concat]
      split <;> simp
  case prints =>
    intro t gone
    obtain before | now := List.mem_append.1 gone
    · exact h.prints t before
    · rw [List.mem_singleton.1 now, s.printed_turn, h.styled, h.watches, s.turn_wake]
  case reported =>
    intro t gone
    obtain before | now := List.mem_append.1 gone
    · exact h.reported t before
    · rw [List.mem_singleton.1 now, s.reported_turn]
  case spaced =>
    intro before t later whole fired
    obtain rfl | ⟨later, last, rfl⟩ := List.eq_nil_or_concat' later
    · obtain ⟨rfl, now⟩ := List.append_inj' whole rfl
      obtain rfl := List.singleton_inj.1 now
      rw [s.turn_wake]
      exact h.due fired
    · rw [← List.cons_append, ← List.append_assoc] at whole
      exact h.spaced before t later (List.append_inj' whole rfl).1 fired

theorem settled_watch (wakes : List Wake) :
    Settled style first subject delay (watch style first subject delay wakes).1
      (watch style first subject delay wakes).2 := by
  induction wakes using List.reverseRecOn with
  | nil => exact settled_start
  | append_singleton wakes w ih =>
    have next := ih.next w
    simpa [watch] using next

end

/-- **At every wait the rounds gone by tell how the session stands**, whatever woke it and on whatever
clock. It minds the document and the stylesheets of the latest report; it has asked for the directory of
each, and for none twice; and its timer is pending for the latest relevant change since that report. So a
report is printed again only for a relevant change, when the whole delay after the latest one is over. -/
theorem waits_settled (style : Terminal.Style) (first : Store) (subject : Subject) (delay : Nat)
    (wakes : List Wake) :
    let turns := (watch style first subject delay wakes).1
    let s := (watch style first subject delay wakes).2
    s.targets = subject.file ::
        (Session.inspect style (lastSeen first turns) subject).1.map Report.stylesheet ∧
      (∀ target ∈ s.targets, ∀ dir, target.parent? = some dir → dir ∈ s.directories) ∧
      s.directories.Nodup ∧ (∀ t ∈ turns, t.waiting.directories <:+ s.directories) ∧
      (∀ t ∈ turns, t.printed = if t.fired then
        .out (asLine []) ++ (Session.inspect style t.wake.store subject).2 else .none) ∧
      ((Session.start style first subject delay).2 ::
        (turns.filter Turn.reported).map Turn.printed).length = 1 + turns.countP Turn.fired ∧
      (s.debouncer.isPending = true ↔ ∃ t ∈ sinceReport turns, t.relevant = true) ∧
      s.debouncer.deadline =
        (lastRelevant? (sinceReport turns)).map (fun t => t.wake.handled + delay) ∧
      ∀ before t later, turns = before ++ t :: later → t.reported = true →
        ∃ u, lastRelevant? (sinceReport before ++ [t]) = some u ∧
          u.wake.handled + delay ≤ t.wake.asked := by
  intro turns s
  have h : Settled style first subject delay turns s := settled_watch wakes
  have reports : turns.countP Turn.reported = turns.countP Turn.fired :=
    List.countP_congr fun t gone => by rw [h.reported t gone]
  refine ⟨?_, h.watched, h.once, h.kept, h.prints, ?_, ?_, h.deadline, ?_⟩
  · rw [Session.targets, h.watches, h.reports]
  · rw [List.length_cons, List.length_map, ← List.countP_eq_length_filter, reports, Nat.add_comm]
  · rw [Debouncer.isPending, h.deadline, lastRelevant?]
    simp
  · intro before t later whole reported
    rw [h.reported t (by simp [whole])] at reported
    exact h.spaced before t later whole reported

/-- A stylesheet is changed at 10, and the report for it comes at 510. -/
theorem waits_settled_after_change :
    let store : Store := ⟨⟨"/"⟩, [(["page.js"], .file (Text.encode "import s from './a.css'\ns.ab")),
      (["a.css"], .file (Text.encode ".a"))]⟩
    let changed : Wake := ⟨some ⟨.modified, [⟨"/a.css"⟩]⟩, 10, 11, store⟩
    let late : Wake := ⟨none, 509, 510, store⟩
    let s := (watch ⟨false⟩ store ⟨⟨"/page.js"⟩, none⟩ 500 [changed, late]).2
    s.targets = [⟨"/page.js"⟩, ⟨"/a.css"⟩] ∧ ⟨"/"⟩ ∈ s.directories ∧
      (watch ⟨false⟩ store ⟨⟨"/page.js"⟩, none⟩ 500 [changed]).2.debouncer.deadline = some 510 := by
  intro store changed late s
  obtain ⟨targets, watched, -⟩ := waits_settled ⟨false⟩ store ⟨⟨"/page.js"⟩, none⟩ 500 [changed, late]
  obtain ⟨-, -, -, -, -, -, -, deadline, -⟩ :=
    waits_settled ⟨false⟩ store ⟨⟨"/page.js"⟩, none⟩ 500 [changed]
  have minded : s.targets = [⟨"/page.js"⟩, ⟨"/a.css"⟩] := targets.trans (by decide +kernel)
  refine ⟨minded, watched ⟨"/a.css"⟩ (by rw [minded]; simp) ⟨"/"⟩ (by decide +kernel), ?_⟩
  exact deadline.trans (by decide +kernel)

end ClassNav.Watch
