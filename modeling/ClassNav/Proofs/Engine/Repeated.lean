import ClassNav.Proofs.Document.Token
import ClassNav.Proofs.Engine.AppendOnly
import ClassNav.Proofs.Stylesheet.Appended

/-!
The same class created again and again. A rule that was written is found by the next call, if the
stylesheet can be read at all; in one that is no text nothing is ever found, and each call writes.
-/

namespace ClassNav

theorem Cursor.isNameChar_field {c : Cursor} {r : Reference} (reads : c.reference? = some r)
    (undotted : '.' ∉ r.field) : ∀ d ∈ r.field, Stylesheet.isNameChar d = true := by
  obtain ⟨-, -, chars⟩ := chars_of_reference? reads
  intro d found
  obtain joins | rfl := Character.isTokenChar_iff.1 (chars d found)
  · exact Character.isNameChar_iff.2 (.inl joins)
  · exact absurd found undotted

namespace Engine

open Stylesheet Store

/-- After a rule was written the class has a position, exactly if the stylesheet could be read. -/
theorem position?_of_append {store later : Store} {p : Path} {name : Text} (named : name ≠ [])
    (chars : ∀ c ∈ name, isNameChar c = true) (appended : store.append p (emptyRule name) = .ok later)
    (policy : Naming.Policy) :
    (position? later p name policy).value.isSome = (store.readText p).isOk := by
  rw [position?_value, ← Store.readText_isOk_of_append appended]
  cases read : store.readText p with
  | ok content =>
    obtain ⟨s', same, -, grown⟩ := Store.append_of_readText read (emptyRule name)
    obtain rfl : s' = later := by simpa [same] using appended
    simpa [grown, Except.toOption, Except.isOk, Except.toBool] using
      locate?_appended content named chars policy
  | error cause =>
    have unread := Store.readText_isOk_of_append appended
    cases again : later.readText p with
    | ok content => simp [read, again, Except.isOk, Except.toBool] at unread
    | error cause => rfl

/-- The call after one that wrote finds the class, or it writes to the same stylesheet, which can be
read no better. -/
theorem createMissing_again {e : Engine} {store later : Store} {d : Document} {line column : Nat}
    {p : Path} (created : (e.createMissing store d line column).value = .ok (some ⟨p, later⟩)) :
    ((store.readText p).isOk = true → (e.createMissing later d line column).value = .ok none) ∧
    ((store.readText p).isOk = false → (later.readText p).isOk = false ∧
      ∃ last, (e.createMissing later d line column).value = .ok (some ⟨p, last⟩)) := by
  obtain ⟨c, r, here, reads, named, undotted, imports, appended⟩ := written_of_createMissing created
  simp only at imports appended
  have found := position?_of_append named (Cursor.isNameChar_field reads undotted) appended e.policy
  obtain ⟨cwd, last, again⟩ := Store.append_again appended (emptyRule r.field)
  have imports' : (stylesheetOf? later d.text r.object d.baseDir).value = some p := by
    rwa [stylesheetOf?_value, cwd, ← stylesheetOf?_value]
  rw [createMissing_of_reference e later here reads]
  refine ⟨fun readable => ?_, fun unreadable => ⟨?_, ?_⟩⟩
  · exact (createFor_eq_none_iff named undotted imports').2 (found.trans readable)
  · exact (Store.readText_isOk_of_append appended).trans unreadable
  · have absent : (position? later p r.field e.policy).value = none := by
      simpa [unreadable] using found
    exact ⟨last, (createFor_eq_some_iff named undotted imports').2 ⟨absent, rfl, again⟩⟩

theorem perform_createMissing_eq_some_iff {e : Engine} {store later : Store} {d : Document}
    {line column : Nat} {p : Path} :
    e.perform store (.createMissing d line column) = (.created (.ok (some p)), later) ↔
      (e.createMissing store d line column).value = .ok (some ⟨p, later⟩) := by
  rw [perform]
  obtain failure | _ | ⟨sheet, after⟩ := (e.createMissing store d line column).value <;> simp

theorem perform_createMissing_of_none {e : Engine} {store : Store} {d : Document} {line column : Nat}
    (found : (e.createMissing store d line column).value = .ok none) :
    e.perform store (.createMissing d line column) = (.created (.ok none), store) := by
  rw [perform, found]

/-- A call that leaves the tree as it is does so any number of times. -/
theorem run_replicate {e : Engine} {store : Store} {call : Call} {answer : Answer}
    (still : e.perform store call = (answer, store)) (n : Nat) :
    run store (.replicate n (e, call)) = (.replicate n (call, answer), store) := by
  induction n with
  | zero => rfl
  | succ n ih => simp [List.replicate_succ, run, still, ih]

/-- A call that wrote where nothing can be read writes there any number of times. -/
theorem log_of_unreadable {e : Engine} {store later : Store} {d : Document} {line column : Nat} {p : Path}
    (created : (e.createMissing store d line column).value = .ok (some ⟨p, later⟩))
    (unreadable : (store.readText p).isOk = false) (n : Nat) :
    (run later (.replicate n (e, .createMissing d line column))).1 =
      .replicate n (.createMissing d line column, .created (.ok (some p))) := by
  induction n generalizing store later with
  | zero => rfl
  | succ n ih =>
    obtain ⟨still, last, again⟩ := (createMissing_again created).2 unreadable
    have step := perform_createMissing_eq_some_iff.2 again
    simp [List.replicate_succ, run, step, ih again still]

theorem sheet_of_rule? {d : Document} {line column : Nat} {p sheet : Path} {name : Text}
    (told : rule? (.createMissing d line column) (.created (.ok (some p))) = some (sheet, name)) :
    sheet = p := by
  obtain ⟨r, -, same⟩ := Option.map_eq_some_iff.1 told
  exact (congrArg Prod.fst same).symm

/-- What one answer tells of, told again and again, stands at one place. -/
theorem added_replicate {store : Store} {call : Call} {answer : Answer} {p : Path} {name : Text}
    {l : Location} (told : rule? call answer = some (p, name)) (leads : store.locate p = .ok l) (n : Nat) :
    added store (.replicate n (call, answer)) =
      fun k => if k = l then (List.replicate n (emptyRule name)).flatten else [] := by
  funext k
  by_cases here : k = l
  · subst here
    simp [added, told, leads, Except.toOption, List.flatMap_replicate]
  · have elsewhere : (store.locate p).toOption ≠ some k := by
      rw [leads]
      exact fun same => here (Option.some.inj same).symm
    simp [added, told, elsewhere, here, List.flatMap_replicate]

/-- **A rule is written once, in a stylesheet that can be read.** Each call after the one that wrote it
finds the class and leaves the tree as it is. In a stylesheet that is no text the class is never found:
each call writes the rule again, at the end of the stylesheet and nowhere else. -/
theorem created_once_if_readable {e : Engine} {store later : Store} {d : Document} {line column : Nat}
    {p : Path}
    (created : e.perform store (.createMissing d line column) = (.created (.ok (some p)), later))
    (n : Nat) :
    ((store.readText p).isOk = true →
      run later (.replicate n (e, .createMissing d line column)) =
        (.replicate n (.createMissing d line column, .created (.ok none)), later)) ∧
    ((store.readText p).isOk = false →
      (run later (.replicate n (e, .createMissing d line column))).1 =
        .replicate n (.createMissing d line column, .created (.ok (some p))) ∧
      ∃ l name, store.locate p = .ok l ∧
        rule? (.createMissing d line column) (.created (.ok (some p))) = some (p, name) ∧
        Grown (fun k => if k = l then emptyRule name else []) store later ∧
        Grown (fun k => if k = l then (List.replicate n (emptyRule name)).flatten else []) later
          (run later (.replicate n (e, .createMissing d line column))).2) := by
  have first := perform_grown e store (.createMissing d line column)
  obtain ⟨-, untold, -⟩ | ⟨sheet, name, told, -, appended⟩ :=
    perform_cases e store (.createMissing d line column)
  · rw [created] at untold
    cases untold
  rw [created] at first told appended
  obtain rfl : sheet = p := sheet_of_rule? told
  obtain ⟨l, leads, -⟩ := append_grown appended
  rw [perform_createMissing_eq_some_iff] at created
  constructor
  · intro readable
    have found := (createMissing_again created).1 readable
    exact run_replicate (perform_createMissing_of_none found) n
  · intro unreadable
    have log := log_of_unreadable created unreadable n
    have once : added store [(.createMissing d line column, .created (.ok (some sheet)))] =
        fun k => if k = l then emptyRule name else [] := by
      simpa using added_replicate told leads 1
    refine ⟨log, l, name, leads, told, ?_, ?_⟩
    · rwa [once] at first
    · have grown := run_grown later (.replicate n (e, .createMissing d line column))
      rwa [log, added_of_grown first, added_replicate told leads] at grown

theorem perform_createMissing (e : Engine) (store : Store) (d : Document) (line column : Nat) :
    (e.perform store (.createMissing d line column)).1 =
      .created ((e.createMissing store d line column).value.map (Option.map Written.stylesheet)) := by
  rw [perform]
  obtain failure | _ | w := (e.createMissing store d line column).value <;> rfl

/-- A class behind an open block, asked for three times. -/
theorem created_once_if_readable_unterminated :
    let call : Call := .createMissing (.importing "s.cd") 1 3
    let later := ((Engine.mk .default).perform (.ofSheet ".a \x7b") call).2
    (Engine.mk .default).perform (.ofSheet ".a \x7b") call = (.created (.ok (some ⟨"/a.css"⟩)), later) ∧
    ((Store.ofSheet ".a \x7b").readText ⟨"/a.css"⟩).isOk = true ∧
    run later (.replicate 2 (⟨.default⟩, call)) = (.replicate 2 (call, .created (.ok none)), later) := by
  intro call later
  have written : ((Engine.mk .default).createMissing (.ofSheet ".a \x7b") (.importing "s.cd") 1
      3).value.map (Option.map Written.stylesheet) = .ok (some ⟨"/a.css"⟩) := by decide +kernel
  have created : (Engine.mk .default).perform (.ofSheet ".a \x7b") call =
      (.created (.ok (some ⟨"/a.css"⟩)), later) := by
    refine Prod.ext ?_ rfl
    rw [perform_createMissing, written]
  have readable : ((Store.ofSheet ".a \x7b").readText ⟨"/a.css"⟩).isOk = true := by decide +kernel
  exact ⟨created, readable, (created_once_if_readable created 2).1 readable⟩

/-- One byte that is no text, and a class is created twice. -/
theorem created_twice_in_unreadable :
    ¬ ∀ (e : Engine) (store later : Store) (d : Document) (line column : Nat) (p : Path),
      e.perform store (.createMissing d line column) = (.created (.ok (some p)), later) →
      e.perform later (.createMissing d line column) = (.created (.ok none), later) := by
  intro once
  let store : Store := ⟨⟨"/"⟩, [(["a.css"], .file ⟨#[0xff]⟩)]⟩
  let call : Call := .createMissing (.importing "s.cd") 1 3
  have written : ((Engine.mk .default).createMissing store (.importing "s.cd") 1 3).value.map
      (Option.map Written.stylesheet) = .ok (some ⟨"/a.css"⟩) := by decide +kernel
  have again : ((Engine.mk .default).createMissing ((Engine.mk .default).perform store call).2
      (.importing "s.cd") 1 3).value.map (Option.map Written.stylesheet) = .ok (some ⟨"/a.css"⟩) := by
    decide +kernel
  have created : (Engine.mk .default).perform store call = (.created (.ok (some ⟨"/a.css"⟩)),
      ((Engine.mk .default).perform store call).2) := by
    refine Prod.ext ?_ rfl
    rw [perform_createMissing, written]
  have second := congrArg Prod.fst (once _ _ _ _ _ _ _ created)
  rw [perform_createMissing, again] at second
  cases second

end Engine

end ClassNav
