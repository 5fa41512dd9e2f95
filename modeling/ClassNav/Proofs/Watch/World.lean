import ClassNav.Proofs.Engine.Sources
import ClassNav.Proofs.Store.Places
import ClassNav.Proofs.Watch.Rounds
import Mathlib.Data.Set.Basic
import Mathlib.Logic.Relation

/-!
Watching among files that change at any time. The watcher tells of changes in the directories registered
with it, and of no others. A report is made first and the directories of its files are registered after
it, those that exist; so what happens to a file in between is never told.
-/

namespace ClassNav.Watch

/-- What the loop does next. -/
inductive Phase
  | registering
  | waiting
  | polling

/-- A session among its files. The last three fields act on nothing: they keep account of what the
session may have missed. -/
structure World where
  session : Session
  phase : Phase
  /-- The last report printed. -/
  printed : Output
  store : Store
  /-- Directories that the watcher listens to. -/
  registered : List Path
  /-- Notifications not yet received, oldest first. -/
  queue : List Notification
  /-- Directories that the watcher was asked to listen to when there was none. -/
  refused : List Path
  /-- The directories registered when the last report was made. -/
  listening : List Path
  /-- Files changed since the last report while their directory was not registered. -/
  unheard : Set Path

/-- The path stands in one of the directories. -/
def Within (dirs : List Path) (p : Path) : Prop := ∃ dir ∈ dirs, p.parent? = some dir

/-- Reading the file gives something else than before. -/
def Changed (before after : Store) (p : Path) : Prop := after.read p ≠ before.read p

/-- What others may do to the files, and the notifications of it. A change in a registered directory is
told, under the plain path of the file; elsewhere nothing is. -/
structure Edit (registered : List Path) (before after : Store) (news : List Notification) : Prop where
  cwd : after.cwd = before.cwd
  told : ∀ p : Path, p.IsPlain → Within registered p → Changed before after p →
    ∃ n ∈ news, n.change ≠ .other ∧ p ∈ n.paths
  confined : ∀ n ∈ news, ∀ p ∈ n.paths, p ∈ registered ∨ Within registered p

/-- To write a file in a registered directory is such an edit. -/
theorem edit_set {registered : List Path} {store : Store} {p : Path} {old : ByteArray}
    (file : store.entry? p.location = some (.file old)) (new : ByteArray) (plain : p.IsPlain)
    (within : Within registered p) :
    Edit registered store (store.set p.location (.file new)) [⟨.modified, [p]⟩] where
  cwd := rfl
  told q plain' _ changed := by
    refine ⟨_, List.mem_singleton_self _, by simp, ?_⟩
    by_contra other
    exact changed (Store.read_set_of_ne file new plain plain' (by simpa using other))
  confined n told q named := by
    obtain rfl := List.mem_singleton.1 told
    obtain rfl := List.mem_singleton.1 named
    exact .inr within

namespace World

def afterEdit (w : World) (after : Store) (news : List Notification) : World :=
  { w with
    store := after
    queue := w.queue ++ news
    unheard := w.unheard ∪ {p | Changed w.store after p ∧ ¬Within w.registered p} }

/-- The watcher listens to the directories that are there. -/
def afterRegister (w : World) : World :=
  { w with
    phase := .waiting
    session := w.session.register
    registered := w.registered ++ w.session.unwatched.filter w.store.isDirectory
    refused := w.refused ++ w.session.unwatched.filter fun dir => !w.store.isDirectory dir }

def afterReceive (w : World) (now : Nat) (n : Notification) (rest : List Notification) : World :=
  { w with phase := .polling, session := w.session.receive now n, queue := rest }

def afterPoll (w : World) (now : Nat) : World :=
  let next := { w with phase := .registering, session := (w.session.fire now w.store).1 }
  if w.session.debouncer.due now then
    { next with
      printed := (w.session.fire now w.store).2
      listening := w.registered
      unheard := ∅ }
  else next

section
variable (w : World) (now : Nat)

theorem afterPoll_phase : (w.afterPoll now).phase = .registering := by
  unfold afterPoll
  split <;> rfl

theorem afterPoll_store : (w.afterPoll now).store = w.store := by
  unfold afterPoll
  split <;> rfl

theorem afterPoll_queue : (w.afterPoll now).queue = w.queue := by
  unfold afterPoll
  split <;> rfl

theorem afterPoll_session : (w.afterPoll now).session = (w.session.fire now w.store).1 := by
  unfold afterPoll
  split <;> rfl

end

end World

/-- Edits come in every phase. The clock is arbitrary: it is read when a notification is handled and when
the timer is asked. -/
inductive Step : World → World → Prop
  | edit (w : World) {after : Store} {news : List Notification}
      (edit : Edit w.registered w.store after news) : Step w (w.afterEdit after news)
  | register (w : World) (here : w.phase = .registering) : Step w w.afterRegister
  | receive (w : World) (now : Nat) {n : Notification} {rest : List Notification}
      (here : w.phase = .waiting) (queued : w.queue = n :: rest) : Step w (w.afterReceive now n rest)
  | expire (w : World) (here : w.phase = .waiting)
      (pending : w.session.debouncer.isPending = true) : Step w { w with phase := .polling }
  | poll (w : World) (now : Nat) (here : w.phase = .polling) : Step w (w.afterPoll now)

/-- One world after another. -/
abbrev Leads : World → World → Prop := Relation.ReflTransGen Step

namespace World

/-- After the first report, with no directory registered yet. -/
def start (style : Terminal.Style) (store : Store) (subject : Subject) (delay : Nat) : World where
  session := (Session.start style store subject delay).1
  phase := .registering
  printed := (Session.start style store subject delay).2
  store := store
  registered := []
  queue := []
  refused := []
  listening := []
  unheard := ∅

/-- Nothing will happen unless a file changes. -/
structure Resting (w : World) : Prop where
  waits : w.phase = .waiting
  empty : w.queue = []
  idle : w.session.debouncer.isPending = false

/-- The last report is that of the files as they were then. Each report but the first stands below an
empty line. -/
def Shows (w : World) (seen : Store) : Prop :=
  let found := Session.inspect w.session.style seen w.session.subject
  w.session.reports = found.1 ∧ (w.printed = found.2 ∨ w.printed = .out (asLine []) ++ found.2)

/-- A report is on its way that will not miss the file. -/
def Awaits (w : World) (p : Path) : Prop :=
  w.session.debouncer.isPending = true ∨ ∃ n ∈ w.queue, n.change ≠ .other ∧ p ∈ n.paths

/-- Where the last report is no longer right, the session will hear of it or a change was not told. -/
structure Accounted (w : World) : Prop where
  plain : w.session.subject.file.IsPlain
  kept : w.listening ⊆ w.registered
  outside : ∀ p ∈ w.unheard, ¬Within w.listening p
  asked : ∀ dir ∈ w.session.directories, dir ∈ w.registered ∨ dir ∈ w.refused
  shows : ∃ seen : Store, seen.cwd = w.store.cwd ∧ w.Shows seen ∧
    ∀ p ∈ w.session.targets, Changed seen w.store p → p ∈ w.unheard ∨ w.Awaits p

end World

theorem Within.mono {dirs dirs' : List Path} {p : Path} (subset : dirs ⊆ dirs') (within : Within dirs p) :
    Within dirs' p := by
  obtain ⟨dir, known, parent⟩ := within
  exact ⟨dir, subset known, parent⟩

namespace Session

theorem inspect_congr {style : Terminal.Style} {subject : Subject} {store after : Store}
    (cwd : after.cwd = store.cwd)
    (same : ∀ p ∈ subject.file :: (inspect style store subject).1.map Report.stylesheet,
      after.readText p = store.readText p) :
    inspect style after subject = inspect style store subject := by
  have document := same subject.file (List.mem_cons_self ..)
  unfold inspect at same ⊢
  rw [document]
  cases held : store.readText subject.file with
  | error e => rfl
  | ok text =>
    simp only [held] at same
    have found := Engine.reports_congr ⟨subject.file, text⟩ cwd subject.object
      fun report listed => same _ (List.mem_cons_of_mem _ (List.mem_map.2 ⟨report, listed, rfl⟩))
    simp only [found]

theorem isPlain_of_inspect {style : Terminal.Style} {subject : Subject} {store : Store} {p : Path}
    (listed : p ∈ (inspect style store subject).1.map Report.stylesheet) : p.IsPlain := by
  obtain ⟨report, made, rfl⟩ := List.mem_map.1 listed
  unfold inspect at made
  cases held : store.readText subject.file with
  | error e => simp [held] at made
  | ok text =>
    simp only [held] at made
    exact Engine.isPlain_of_mem_reports made

theorem receive_eq (s : Session) (now : Nat) (n : Notification) :
    s.receive now n =
      { s with debouncer := if s.concerns n then s.debouncer.trigger now else s.debouncer } := by
  unfold receive
  split <;> rfl

theorem concerns_of_mem {s : Session} {n : Notification} {p : Path} (matters : n.change ≠ .other)
    (named : p ∈ n.paths) (target : p ∈ s.targets) : s.concerns n = true := by
  simp only [concerns, Bool.and_eq_true, decide_eq_true_eq, List.any_eq_true]
  exact ⟨matters, p, named, p, target, beq_self_eq_true _⟩

end Session

namespace World

theorem Shows.isPlain {w : World} {seen : Store} (shows : w.Shows seen)
    (plain : w.session.subject.file.IsPlain) {p : Path} (target : p ∈ w.session.targets) : p.IsPlain := by
  obtain rfl | listed := List.mem_cons.1 target
  · exact plain
  · exact Session.isPlain_of_inspect (shows.1 ▸ listed)

/-- A report stays right while every file that it was made from reads as it did. -/
theorem Shows.unchanged {w : World} {seen now : Store} (shows : w.Shows seen) (cwd : seen.cwd = now.cwd)
    (same : ∀ p ∈ w.session.targets, ¬Changed seen now p) : w.Shows now := by
  have again : Session.inspect w.session.style now w.session.subject =
      Session.inspect w.session.style seen w.session.subject := by
    refine Session.inspect_congr cwd.symm fun p source => ?_
    have target : p ∈ w.session.targets := by rwa [Session.targets, shows.1]
    have held : now.read p = seen.read p := not_not.1 (same p target)
    rw [Store.readText, Store.readText, held]
  rw [Shows, again]
  exact shows

theorem accounted_start {style : Terminal.Style} {store : Store} {subject : Subject} {delay : Nat}
    (plain : subject.file.IsPlain) : (start style store subject delay).Accounted where
  plain := plain
  kept := List.Subset.refl _
  outside := by simp [start]
  asked := by simp [start, Session.start]
  shows := ⟨store, rfl, ⟨rfl, .inl rfl⟩, fun p _ changed => absurd rfl changed⟩

theorem Accounted.afterEdit {w : World} (h : w.Accounted) {after : Store} {news : List Notification}
    (edit : Edit w.registered w.store after news) :
    (w.afterEdit after news).Accounted := by
  obtain ⟨seen, cwd, shows, sources⟩ := h.shows
  refine ⟨h.plain, h.kept, ?_, h.asked, seen, cwd.trans edit.cwd.symm, shows, fun p target changed => ?_⟩
  · rintro p (before | ⟨-, apart⟩)
    · exact h.outside p before
    · exact fun within => apart (within.mono h.kept)
  · by_cases now : Changed w.store after p
    · by_cases within : Within w.registered p
      · obtain ⟨n, new, told⟩ := edit.told p (shows.isPlain h.plain target) within now
        exact .inr (.inr ⟨n, List.mem_append_right _ new, told⟩)
      · exact .inl (.inr ⟨now, within⟩)
    · have before : Changed seen w.store p := by
        rwa [Changed, ← not_not.1 now]
      obtain unheard | pending | ⟨n, queued, told⟩ := sources p target before
      · exact .inl (.inl unheard)
      · exact .inr (.inl pending)
      · exact .inr (.inr ⟨n, List.mem_append_left _ queued, told⟩)

/-- The session takes a notification of a target for what it is, and passes over others. -/
theorem Awaits.afterReceive {w : World} {p : Path} (awaits : w.Awaits p) (target : p ∈ w.session.targets)
    (now : Nat) {n : Notification} {rest : List Notification} (queued : w.queue = n :: rest) :
    (w.afterReceive now n rest).Awaits p := by
  rw [World.afterReceive, Session.receive_eq]
  cases concerned : w.session.concerns n with
  | true => exact .inl rfl
  | false =>
    obtain pending | ⟨m, known, matters, named⟩ := awaits
    · exact .inl pending
    · rw [queued] at known
      obtain rfl | later := List.mem_cons.1 known
      · rw [Session.concerns_of_mem matters named target] at concerned
        cases concerned
      · exact .inr ⟨m, later, matters, named⟩

theorem Accounted.afterRegister {w : World} (h : w.Accounted) : w.afterRegister.Accounted := by
  refine ⟨h.plain, List.subset_append_of_subset_left _ h.kept, h.outside, fun dir known => ?_, h.shows⟩
  obtain new | before := List.mem_append.1 known
  · cases isDirectory : w.store.isDirectory dir with
    | true => exact .inl (List.mem_append_right _ (List.mem_filter.2 ⟨new, isDirectory⟩))
    | false => exact .inr (List.mem_append_right _ (List.mem_filter.2 ⟨new, by simp [isDirectory]⟩))
  · exact (h.asked dir before).imp (List.mem_append_left _) (List.mem_append_left _)

theorem Accounted.afterReceive {w : World} (h : w.Accounted) (now : Nat) {n : Notification}
    {rest : List Notification} (queued : w.queue = n :: rest) : (w.afterReceive now n rest).Accounted := by
  obtain ⟨seen, cwd, shows, sources⟩ := h.shows
  have awaited (p : Path) (target : p ∈ w.session.targets) (changed : Changed seen w.store p) :=
    (sources p target changed).imp_right fun awaits => awaits.afterReceive target now queued
  rw [World.afterReceive, Session.receive_eq] at awaited ⊢
  exact ⟨h.plain, h.kept, h.outside, h.asked, seen, cwd, shows, awaited⟩

theorem Accounted.afterPoll {w : World} (h : w.Accounted) (now : Nat) : (w.afterPoll now).Accounted := by
  unfold World.afterPoll
  rw [Session.fire_eq, Debouncer.poll]
  cases w.session.debouncer.due now with
  | false => exact ⟨h.plain, h.kept, h.outside, h.asked, h.shows⟩
  | true =>
    exact ⟨h.plain, List.Subset.refl _, by simp, h.asked, w.store, rfl, ⟨rfl, .inr rfl⟩,
      fun p _ changed => absurd rfl changed⟩

theorem Accounted.step {w w' : World} (h : w.Accounted) (step : Step w w') : w'.Accounted := by
  cases step with
  | edit edit => exact h.afterEdit edit
  | register => exact h.afterRegister
  | receive now here queued => exact h.afterReceive now queued
  | expire => exact ⟨h.plain, h.kept, h.outside, h.asked, h.shows⟩
  | poll now => exact h.afterPoll now

theorem accounted_of_leads {style : Terminal.Style} {store : Store} {subject : Subject} {delay : Nat}
    (plain : subject.file.IsPlain) {w : World} (reached : Leads (start style store subject delay) w) :
    w.Accounted := by
  induction reached with
  | refl => exact accounted_start plain
  | tail _ step ih => exact ih.step step

section
variable {style : Terminal.Style} {first : Store} {subject : Subject} {delay : Nat}

/-- Whatever the files do, a session is somewhere in the rounds of its loop: before the first of them, at a wait
after some wakes, or beyond it. -/
def InRounds (style : Terminal.Style) (first : Store) (subject : Subject) (delay : Nat) :
    Phase → Session → Prop
  | .waiting, s => ∃ wakes, s = (watch style first subject delay wakes).2
  | .polling, s => ∃ wakes wake, s = (watch style first subject delay wakes).2.handle wake
  | .registering, s => s = (Session.start style first subject delay).1 ∨ ∃ wakes wake,
      s = (((watch style first subject delay wakes).2.handle wake).fire wake.asked wake.store).1

theorem inRounds_afterRegister {w : World} (here : w.phase = .registering)
    (at_ : InRounds style first subject delay w.phase w.session) :
    InRounds style first subject delay .waiting w.afterRegister.session := by
  rw [here] at at_
  obtain same | ⟨wakes, wake, same⟩ := at_
  · exact ⟨[], congrArg Session.register same⟩
  · refine ⟨wakes ++ [wake], (congrArg Session.register same).trans ?_⟩
    simp [watch, Session.turn_eq]

theorem inRounds_afterPoll {w : World} (now : Nat) (here : w.phase = .polling)
    (at_ : InRounds style first subject delay w.phase w.session) :
    InRounds style first subject delay .registering (w.afterPoll now).session := by
  rw [here] at at_
  obtain ⟨wakes, wake, same⟩ := at_
  rw [afterPoll_session, same]
  -- the wake is handled before it is known when the timer is asked and what the files are by then
  exact .inr ⟨wakes, { wake with asked := now, store := w.store }, rfl⟩

/-- Each step of the loop goes on to what comes next in a round; an edit is in none of them. -/
theorem InRounds.step {w w' : World} (at_ : InRounds style first subject delay w.phase w.session)
    (step : Step w w') : InRounds style first subject delay w'.phase w'.session := by
  cases step with
  | edit => exact at_
  | register here => exact inRounds_afterRegister here at_
  | receive now here =>
    rw [here] at at_
    obtain ⟨wakes, same⟩ := at_
    exact ⟨wakes, ⟨some _, now, now, w.store⟩, congrArg (Session.receive · now _) same⟩
  | expire here =>
    rw [here] at at_
    obtain ⟨wakes, same⟩ := at_
    exact ⟨wakes, ⟨none, 0, 0, w.store⟩, same⟩
  | poll now here =>
    rw [afterPoll_phase]
    exact inRounds_afterPoll now here at_

theorem inRounds_of_leads {w : World} (reached : Leads (start style first subject delay) w) :
    InRounds style first subject delay w.phase w.session := by
  induction reached with
  | refl => exact .inl rfl
  | tail _ step ih => exact ih.step step

/-- From a wait until its report the directories of all targets have been asked for. -/
theorem asked_of_leads {w : World} (reached : Leads (start style first subject delay) w)
    (registered : w.phase ≠ .registering) {p dir : Path} (target : p ∈ w.session.targets)
    (parent : p.parent? = some dir) : dir ∈ w.session.directories := by
  have at_ := inRounds_of_leads reached
  cases here : w.phase with
  | registering => exact absurd here registered
  | waiting =>
    rw [here] at at_
    obtain ⟨wakes, same⟩ := at_
    rw [same] at target ⊢
    exact (settled_watch wakes).watched p target dir parent
  | polling =>
    rw [here] at at_
    obtain ⟨wakes, wake, same⟩ := at_
    rw [same, Session.handle_eq] at target ⊢
    exact (settled_watch wakes).watched p target dir parent

end

/-- **Nothing is missed but what the watcher was not listening to yet.** In every order of edits and
steps of the loop, the files that changed unheard since the last report stand in directories that were not
registered when it was made. If none of them is a target, the last report of a session at rest is right
for the files as they are; so it is if the directories of all targets were registered before it. And once the
session waits, it listens to the directories of all its targets, but those that were not there when it
asked. -/
theorem rests_current {style : Terminal.Style} {store : Store} {named : Path} {subject : Subject}
    {delay : Nat} (document : store.canonical named = .ok subject.file) {w : World}
    (reached : Leads (start style store subject delay) w) :
    (∀ p ∈ w.unheard, ¬Within w.listening p) ∧
      (w.Resting → (∀ p ∈ w.session.targets, p ∉ w.unheard) → w.Shows w.store) ∧
      (w.Resting → (∀ p ∈ w.session.targets, Within w.listening p) → w.Shows w.store) ∧
      (w.phase ≠ .registering → ∀ p ∈ w.session.targets, ∀ dir, p.parent? = some dir →
        dir ∈ w.registered ∨ dir ∈ w.refused) := by
  have h := accounted_of_leads (Store.isPlain_of_canonical document) reached
  obtain ⟨seen, cwd, shows, sources⟩ := h.shows
  have heard (resting : w.Resting) (all : ∀ p ∈ w.session.targets, p ∉ w.unheard) : w.Shows w.store := by
    refine shows.unchanged cwd fun p target changed => ?_
    obtain unheard | pending | ⟨n, queued, -⟩ := sources p target changed
    · exact all p target unheard
    · rw [resting.idle] at pending
      cases pending
    · rw [resting.empty] at queued
      cases queued
  refine ⟨h.outside, heard, fun resting all => heard resting fun p target unheard => ?_,
    fun waits p target dir parent => h.asked dir (asked_of_leads reached waits target parent)⟩
  exact h.outside p unheard (all p target)

/-- The page is edited at 10 in a directory that is registered, and the report for it comes at 510. -/
theorem rests_current_after_edit :
    let before : Store := ⟨⟨"/"⟩, [(["page.js"], .file (Text.encode "import s from './a.css'\ns.a")),
      (["a.css"], .file (Text.encode ".a"))]⟩
    let after := before.set ["page.js"] (.file (Text.encode "import s from './a.css'\ns.cd"))
    before.canonical ⟨"page.js"⟩ = .ok ⟨"/page.js"⟩ ∧
      ∃ w, Leads (start ⟨false⟩ before ⟨⟨"/page.js"⟩, none⟩ 500) w ∧ w.Resting ∧ w.store = after ∧
        (∀ p ∈ w.session.targets, Within w.listening p) ∧ w.Shows after := by
  intro before after
  have document : before.canonical ⟨"page.js"⟩ = .ok ⟨"/page.js"⟩ := rfl
  let watching := (start ⟨false⟩ before ⟨⟨"/page.js"⟩, none⟩ 500).afterRegister
  have registered : watching.registered = [⟨"/"⟩] := by decide +kernel
  have edit : Edit watching.registered before after [⟨.modified, [⟨"/page.js"⟩]⟩] :=
    edit_set (p := ⟨"/page.js"⟩) rfl _ rfl ⟨⟨"/"⟩, by simp [registered], by decide⟩
  let changed := watching.afterEdit after [⟨.modified, [⟨"/page.js"⟩]⟩]
  let heard := changed.afterReceive 10 ⟨.modified, [⟨"/page.js"⟩]⟩ []
  let w := (heard.afterPoll 510).afterRegister
  have reached : Leads (start ⟨false⟩ before ⟨⟨"/page.js"⟩, none⟩ 500) w :=
    .tail (.tail (.tail (.tail (.single (.register _ rfl)) (.edit watching edit))
      (.receive changed 10 rfl rfl)) (.poll heard 510 rfl)) (.register _ (afterPoll_phase heard 510))
  have resting : w.Resting := ⟨rfl, afterPoll_queue heard 510, by decide +kernel⟩
  have all : ∀ p ∈ w.session.targets, Within w.listening p := by
    have targets : w.session.targets = [⟨"/page.js"⟩, ⟨"/a.css"⟩] := by decide +kernel
    have listening : w.listening = [⟨"/"⟩] := by decide +kernel
    rw [targets, listening]
    simp only [List.forall_mem_cons]
    exact ⟨⟨_, List.mem_singleton_self _, by decide⟩, ⟨_, List.mem_singleton_self _, by decide⟩,
      by simp⟩
  have stored : w.store = after := afterPoll_store heard 510
  have current := (rests_current document reached).2.2.1 resting all
  exact ⟨document, w, reached, resting, stored, all, stored ▸ current⟩

/-- A stylesheet is written unheard if its directory was not there when it was asked for; and so is any
file between the first report and the registration. -/
theorem rests_outdated :
    (let before : Store := ⟨⟨"/"⟩, [(["x"], .directory),
      (["page.js"], .file (Text.encode "import s from './x/lib/a.css'\ns.cd\n"))]⟩
    let created : List (Location × Entry) := [(["x", "lib"], .directory),
      (["x", "lib", "a.css"], .file (Text.encode ".cd \x7b\n\x7d\n"))]
    let after : Store := ⟨⟨"/"⟩, before.entries ++ created⟩
    ∃ w, Leads (start ⟨false⟩ before ⟨⟨"/page.js"⟩, none⟩ 20) w ∧ w.Resting ∧ w.store = after ∧
      ¬w.Shows after) ∧
    (let before : Store := ⟨⟨"/"⟩, [(["page.js"], .file (Text.encode "import s from './a.css'\ns.cd")),
      (["a.css"], .file (Text.encode ".ab \x7b\n\x7d\n"))]⟩
    let after := before.set ["a.css"] (.file (Text.encode ".cd \x7b\n\x7d\n"))
    ∃ w, Leads (start ⟨false⟩ before ⟨⟨"/page.js"⟩, none⟩ 20) w ∧ w.Resting ∧ w.store = after ∧
      ¬w.Shows after) := by
  constructor
  · intro before created after
    let watching := (start ⟨false⟩ before ⟨⟨"/page.js"⟩, none⟩ 20).afterRegister
    have registered : watching.registered = [⟨"/"⟩] := by decide +kernel
    have untold : Edit watching.registered before after [] := by
      refine ⟨rfl, ?_, by simp⟩
      rintro p plain ⟨dir, known, parent⟩ changed
      obtain rfl := List.mem_singleton.1 (registered ▸ known)
      obtain ⟨n, below⟩ := Path.location_of_parent? plain parent
      have top : Path.location ⟨"/"⟩ = [] := by decide
      refine absurd (Store.read_congr_of_parent? plain parent (fun k above => ?_) ?_) changed
      · rw [top, List.prefix_nil] at above
        rw [above]
        rfl
      · have deeper : List.lookup [n] created = none := by simp [created, List.lookup_cons]
        rw [below, top]
        simp [Store.entry?, after, List.lookup_append, deeper]
    refine ⟨_, .tail (.single (.register _ rfl)) (.edit watching untold), ⟨rfl, rfl, rfl⟩, rfl, ?_⟩
    exact fun shows => absurd shows.1 (by decide +kernel)
  · intro before after
    let first := start ⟨false⟩ before ⟨⟨"/page.js"⟩, none⟩ 20
    have untold : Edit first.registered before after [] := ⟨rfl, by simp [first, start, Within], by simp⟩
    refine ⟨_, .tail (.single (.edit first untold)) (.register _ rfl), ⟨rfl, rfl, rfl⟩, rfl, ?_⟩
    exact fun shows => absurd shows.1 (by decide +kernel)

end World

end ClassNav.Watch
