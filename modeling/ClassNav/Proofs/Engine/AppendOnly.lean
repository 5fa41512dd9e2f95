import ClassNav.Proofs.Engine.Answers
import ClassNav.Proofs.Store.Grown

/-!
Runs of the engine. Between two calls nothing is kept but the tree, and of all calls only two write: one
rule each, at the end of one stylesheet.
-/

namespace ClassNav

inductive Call
  | supports (p : Path)
  | definition (d : Document) (line column : Nat)
  | completions (d : Document) (line column : Nat)
  | classes (p : Path) (part : Text)
  | missingFor (d : Document) (object : Text)
  | missingAll (d : Document)
  | createMissing (d : Document) (line column : Nat)
  | scaffold (p : Path) (name : Text)

inductive Answer
  | supported (yes : Bool)
  | target (found : Except Failure (Option Target))
  | candidates (found : Except Failure (List Text))
  | names (declared : List Text)
  | report (found : Option Report)
  | reports (found : List Report)
  | created (stylesheet : Except Failure (Option Path))
  | scaffolded (done : Except Failure Unit)

/-- Whether the answer tells of a rule that was written. -/
def Answer.tellsOfRule : Answer → Bool
  | created (.ok (some _)) => true
  | scaffolded (.ok ()) => true
  | _ => false

namespace Engine

open Stylesheet Store

/-- One call: its answer, and the tree afterwards. -/
def perform (e : Engine) (store : Store) : Call → Answer × Store
  | .supports p => (.supported (e.supports p), store)
  | .definition d line column =>
    (.target ((e.definition store d line column).map Logged.value), store)
  | .completions d line column =>
    (.candidates ((e.completions store d line column).map Logged.value), store)
  | .classes p part => (.names (classes store p part).value, store)
  | .missingFor d object => (.report (missingFor store d object).value, store)
  | .missingAll d => (.reports (missingAll store d).value, store)
  | .createMissing d line column =>
    match (e.createMissing store d line column).value with
    | .error failure => (.created (.error failure), store)
    | .ok none => (.created (.ok none), store)
    | .ok (some w) => (.created (.ok (some w.stylesheet)), w.store)
  | .scaffold p name =>
    match (Engine.scaffold store p name).value with
    | .error failure => (.scaffolded (.error failure), store)
    | .ok later => (.scaffolded (.ok ()), later)

/-- Calls one after another, each to an engine with settings of its own. -/
def run (store : Store) : List (Engine × Call) → List (Call × Answer) × Store
  | [] => ([], store)
  | (e, call) :: rest =>
    let (answer, next) := e.perform store call
    let (log, final) := run next rest
    ((call, answer) :: log, final)

/-- The stylesheet and the class of the rule that an answered call tells of. -/
def rule? : Call → Answer → Option (Path × Text)
  | .createMissing d line column, .created (.ok (some sheet)) =>
    ((d.cursor line column).toOption.bind Cursor.reference?).map fun r => (sheet, r.field)
  | .scaffold p name, .scaffolded (.ok ()) => some (p, name)
  | _, _ => none

/-- What a log tells to be added at a place: the rules of its calls, in their order, for paths that lead
there. -/
def added (store : Store) (log : List (Call × Answer)) (l : Location) : Text :=
  (log.filterMap fun (call, answer) => rule? call answer).flatMap fun (p, name) =>
    if (store.locate p).toOption = some l then emptyRule name else []

/-- A call leaves the tree alone and tells of no rule, or it tells of the one that it appended. -/
theorem perform_cases (e : Engine) (store : Store) (call : Call) :
    (rule? call (e.perform store call).1 = none ∧ (e.perform store call).1.tellsOfRule = false ∧
      (e.perform store call).2 = store) ∨
    ∃ p name, rule? call (e.perform store call).1 = some (p, name) ∧
      (e.perform store call).1.tellsOfRule = true ∧
      store.append p (emptyRule name) = .ok (e.perform store call).2 := by
  cases call with
  | supports | definition | completions | classes | missingFor | missingAll => exact .inl ⟨rfl, rfl, rfl⟩
  | createMissing d line column =>
    cases created : (e.createMissing store d line column).value with
    | error failure => simp [perform, created, rule?, Answer.tellsOfRule]
    | ok written? =>
      cases written? with
      | none => simp [perform, created, rule?, Answer.tellsOfRule]
      | some w =>
        obtain ⟨c, r, here, reads, -, -, -, appended⟩ := written_of_createMissing created
        right
        refine ⟨w.stylesheet, r.field, ?_, ?_, ?_⟩
        · simp [perform, created, rule?, here, reads, Except.toOption]
        · simp [perform, created, Answer.tellsOfRule]
        · simpa [perform, created] using appended
  | scaffold p name =>
    cases appended : store.append p (emptyRule name) with
    | error cause => simp [perform, appended, rule?, Answer.tellsOfRule]
    | ok later =>
      right
      refine ⟨p, name, ?_, ?_, ?_⟩
      · simp [perform, appended, rule?]
      · simp [perform, appended, Answer.tellsOfRule]
      · simp [perform, appended]

theorem perform_grown (e : Engine) (store : Store) (call : Call) :
    Grown (added store [(call, (e.perform store call).1)]) store (e.perform store call).2 := by
  obtain ⟨silent, -, same⟩ | ⟨p, name, tells, -, appended⟩ := perform_cases e store call
  · have nothing : added store [(call, (e.perform store call).1)] = fun _ => [] := by
      funext l
      simp [added, silent]
    rw [nothing, same]
    exact .refl store
  · obtain ⟨l, reached, grown⟩ := append_grown appended
    have one : added store [(call, (e.perform store call).1)] =
        fun k => if k = l then emptyRule name else [] := by
      funext k
      simp [added, tells, reached, Except.toOption, eq_comm]
    rw [one]
    exact grown

/-- What a log adds is told by the paths of any earlier tree. -/
theorem added_of_grown {a : Location → Text} {s s' : Store} (grown : Grown a s s')
    (log : List (Call × Answer)) : added s' log = added s log := by
  funext l
  simp only [added, grown.locate]

theorem run_grown (store : Store) (calls : List (Engine × Call)) :
    Grown (added store (run store calls).1) store (run store calls).2 := by
  induction calls generalizing store with
  | nil => exact .refl store
  | cons first rest ih =>
    obtain ⟨e, call⟩ := first
    have step := perform_grown e store call
    have later := ih (e.perform store call).2
    rw [added_of_grown step] at later
    have whole : added store (run store ((e, call) :: rest)).1 = fun l =>
        added store [(call, (e.perform store call).1)] l ++
          added store (run (e.perform store call).2 rest).1 l := by
      funext l
      cases told : rule? call (e.perform store call).1 <;> simp [added, run, told]
    rw [whole]
    exact step.trans later

/-- A rule is appended to a file. For anything else the path is reported, and nothing is created. -/
theorem perform_scaffold (e : Engine) (store : Store) (p : Path) (name : Text) :
    (store.isFile p = true → (e.perform store (.scaffold p name)).1 = .scaffolded (.ok ())) ∧
    (store.isFile p = false → ∃ cause, e.perform store (.scaffold p name) =
      (.scaffolded (.error (.unwritableStylesheet p cause)), store)) := by
  constructor
  · intro file
    obtain ⟨later, appended⟩ : ∃ s', store.append p (emptyRule name) = .ok s' := append_isOk_iff.2 file
    simp [perform, appended]
  · intro other
    cases appended : store.append p (emptyRule name) with
    | error cause => exact ⟨cause, by simp [perform, appended]⟩
    | ok later =>
      have file := append_isOk_iff.1 ⟨later, appended⟩
      simp [file] at other

/-- **A run only appends.** Whatever is called in whatever order, no entry comes or goes, and each file
ends as it began with the rules after it that the answers tell of. A call whose answer tells of no rule
leaves the whole tree as it was, as every refused one does. -/
theorem run_append_only :
    (∀ (store : Store) (calls : List (Engine × Call)),
      Grown (added store (run store calls).1) store (run store calls).2) ∧
    (∀ (e : Engine) (store : Store) (call : Call),
      (rule? call (e.perform store call).1).isSome = (e.perform store call).1.tellsOfRule ∧
      ((e.perform store call).1.tellsOfRule = false → (e.perform store call).2 = store)) ∧
    ∀ (e : Engine) (store : Store) (p : Path) (name : Text),
      (store.isFile p = true → (e.perform store (.scaffold p name)).1 = .scaffolded (.ok ())) ∧
      (store.isFile p = false → ∃ cause, e.perform store (.scaffold p name) =
        (.scaffolded (.error (.unwritableStylesheet p cause)), store)) := by
  refine ⟨run_grown, fun e store call => ?_, perform_scaffold⟩
  obtain ⟨silent, tells, same⟩ | ⟨p, name, told, tells, -⟩ := perform_cases e store call
  · exact ⟨by rw [silent, tells]; rfl, fun _ => same⟩
  · refine ⟨by rw [told, tells]; rfl, fun untold => ?_⟩
    rw [tells] at untold
    cases untold

/-- A path that leads nowhere, a class created and then found, and a rule by another spelling of the
path. -/
theorem run_append_only_twice :
    Store.entry? (run (.ofSheet ".a \x7b") [
        (⟨.default⟩, .scaffold ⟨"/none.css"⟩ "x"),
        (⟨.default⟩, .createMissing (.importing "s.cd") 1 3),
        (⟨.default⟩, .createMissing (.importing "s.cd") 1 3),
        (⟨.default⟩, .scaffold ⟨"/./a.css"⟩ "y")]).2 ["a.css"] =
      some (.file (Text.encode ".a \x7b" ++ Text.encode (emptyRule "cd" ++ emptyRule "y"))) ∧
    ∃ cause, (Engine.mk .default).perform (.ofSheet ".a \x7b") (.scaffold ⟨"/none.css"⟩ "x") =
      (.scaffolded (.error (.unwritableStylesheet ⟨"/none.css"⟩ cause)), .ofSheet ".a \x7b") := by
  obtain ⟨runs, -, scaffolds⟩ := run_append_only
  refine ⟨?_, (scaffolds ⟨.default⟩ _ ⟨"/none.css"⟩ "x").2 (by decide +kernel)⟩
  have first : Store.entry? (.ofSheet ".a \x7b") ["a.css"] = some (.file (Text.encode ".a \x7b")) := rfl
  have rules : added (.ofSheet ".a \x7b") (run (.ofSheet ".a \x7b") [
      (⟨.default⟩, .scaffold ⟨"/none.css"⟩ "x"),
      (⟨.default⟩, .createMissing (.importing "s.cd") 1 3),
      (⟨.default⟩, .createMissing (.importing "s.cd") 1 3),
      (⟨.default⟩, .scaffold ⟨"/./a.css"⟩ "y")]).1 ["a.css"] =
      emptyRule "cd" ++ emptyRule "y" := by decide +kernel
  rw [(runs _ _).entry, first, rules]
  rfl

end Engine

end ClassNav
