import ClassNav.Proofs.Path.Places

/-!
The parts of a path between slashes. Joining two paths puts their parts one behind the other, and a parent
has all parts that mean a step but the last.
-/

namespace ClassNav.Path

/-- What stands between slashes, if anything does. -/
def components (p : Path) : List Text := (p.text.splitOn '/').filter (· ≠ [])

/-- The moves that the parts of a path mean, wherever it begins. -/
def moves (p : Path) : List Step := (p.text.splitOn '/').filterMap stepOf?

theorem filled_of_mem_components {p : Path} {part : Text} (found : part ∈ p.components) : part ≠ [] := by
  simpa using (List.mem_filter.1 found).2

theorem moves_eq (p : Path) : p.moves = p.components.filterMap stepOf? := by
  rw [moves, components, List.filterMap_filter]
  refine List.filterMap_congr fun part _ => ?_
  by_cases empty : part = [] <;> simp [empty, stepOf?]

theorem moves_ne_nil {p : Path} (named : ∃ part ∈ p.components, part ≠ ['.']) : p.moves ≠ [] := by
  obtain ⟨part, found, other⟩ := named
  rw [moves_eq, Ne, List.filterMap_eq_nil_iff]
  intro idle
  have means := idle part found
  unfold stepOf? at means
  split at means
  next none => exact none.elim (filled_of_mem_components found) other
  next => split at means <;> cases means

/-- From the root only the moves count. -/
theorem location_eq (p : Path) : p.location = p.moves.foldl Location.step [] := by
  rw [location, Location.ofSteps, steps, List.foldl_append, moves]
  congr 1
  split
  · rfl
  · split <;> rfl

theorem isAbsolute_iff {p : Path} : p.isAbsolute = true ↔ p.text.head? = some '/' := by
  rw [isAbsolute, beq_iff_eq]

theorem join_of_absolute {base : Path} {spec : Text} (absolute : spec.head? = some '/') :
    base.join spec = ⟨spec⟩ := by
  rw [join, if_pos absolute]

theorem moves_append (a b : Text) : moves ⟨a ++ '/' :: b⟩ = moves ⟨a⟩ ++ moves ⟨b⟩ := by
  rw [moves, List.splitOn_append_cons_self, List.filterMap_append, ← moves, ← moves]

section
variable {base : Path} {spec : Text} (relative : spec.head? ≠ some '/')
include relative

theorem isAbsolute_join : (base.join spec).isAbsolute = base.isAbsolute := by
  rw [join, if_neg relative, Bool.eq_iff_iff, isAbsolute_iff, isAbsolute_iff]
  obtain ⟨_ | ⟨c, text⟩⟩ := base
  · simp [relative]
  · split <;> simp

/-- Behind a joined path stand the parts of both. -/
theorem moves_join : (base.join spec).moves = base.moves ++ moves ⟨spec⟩ := by
  obtain ⟨text⟩ := base
  rw [join, if_neg relative]
  split
  next closed =>
    obtain rfl | ended := closed
    · rfl
    · obtain ⟨front, rfl⟩ := List.getLast?_eq_some_iff.1 ended
      have front_only : moves ⟨front ++ ['/']⟩ = moves ⟨front⟩ := by
        rw [moves_append]
        exact List.append_nil _
      rw [front_only, ← moves_append]
      simp
  next => exact moves_append text spec

end

/-- The moves from the root to a path that is seen from the working directory. -/
def movesFrom (cwd p : Path) : List Step := if p.isAbsolute then p.moves else cwd.moves ++ p.moves

/-- The base counts by its moves from the root only, and for an absolute path not at all. -/
theorem location_resolve (cwd base : Path) (spec : Text) :
    (resolve cwd base spec).location =
      ((if spec.head? = some '/' then [] else movesFrom cwd base) ++ moves ⟨spec⟩).foldl
        Location.step [] := by
  rw [resolve, Location.location_path (proper_location _), location_eq]
  congr 1
  split
  next absolute => rw [join_of_absolute absolute, join_of_absolute absolute, List.nil_append]
  next relative =>
    rw [movesFrom, ← isAbsolute_join relative]
    split
    next absolute =>
      rw [join_of_absolute (isAbsolute_iff.1 absolute), moves_join relative]
    next below =>
      rw [moves_join (mt isAbsolute_iff.2 below), moves_join relative, List.append_assoc]

theorem filterMap_dropIdle (parts : List Text) :
    (dropIdle parts).filterMap stepOf? = parts.filterMap stepOf? := by
  have idle : ∀ part ∈ parts.reverse.takeWhile (fun part => (stepOf? part).isNone), stepOf? part = none :=
    fun part found => by simpa using List.mem_takeWhile_imp found
  have split := List.takeWhile_append_dropWhile (p := fun part => (stepOf? part).isNone) (l := parts.reverse)
  have reversed := congrArg (List.filterMap stepOf?) split
  rw [List.filterMap_append, List.filterMap_eq_nil_iff.2 idle, List.nil_append, List.filterMap_reverse] at reversed
  rw [dropIdle, List.filterMap_reverse, reversed, List.reverse_reverse]

/-- A path begins with a slash, with a dot for its first part, or with neither. -/
theorem anchor_cases (p : Path) :
    (∃ rest, p = ⟨'/' :: rest⟩ ∧ p.anchor = ['/']) ∨
      (∃ rest parts, p = ⟨'.' :: rest⟩ ∧ p.anchor = ['.'] ∧ rest.splitOn '/' = [] :: parts) ∨
      p.isAbsolute = false ∧ p.anchor = [] := by
  obtain ⟨_ | ⟨c, rest⟩⟩ := p
  · exact .inr (.inr ⟨rfl, rfl⟩)
  · by_cases slash : c = '/'
    · subst slash
      exact .inl ⟨rest, rfl, rfl⟩
    · have relative : isAbsolute ⟨c :: rest⟩ = false := by simp [isAbsolute, slash]
      obtain ⟨first, parts, split⟩ := List.exists_cons_of_ne_nil (List.splitOn_ne_nil '/' rest)
      have whole : (c :: rest).splitOn '/' = (c :: first) :: parts := by
        rw [List.splitOn_cons_eq_if_modifyHead, split]
        simp [slash]
      by_cases dot : c :: first = ['.']
      · obtain ⟨rfl, rfl⟩ := List.cons.inj dot
        refine .inr (.inl ⟨rest, parts, rfl, ?_, split⟩)
        rw [anchor, relative, whole]
        rfl
      · refine .inr (.inr ⟨relative, ?_⟩)
        rw [anchor, relative, whole]
        simp [dot]

theorem moves_slash (t : Text) : moves ⟨'/' :: t⟩ = moves ⟨t⟩ := moves_append [] t

/-- The anchor is no move, and nor is the idle end. -/
theorem moves_eq_body (p : Path) : p.moves = p.body.filterMap stepOf? := by
  rw [body, filterMap_dropIdle]
  obtain ⟨rest, rfl, anchored⟩ | ⟨rest, parts, rfl, anchored, split⟩ | ⟨-, anchored⟩ := p.anchor_cases
  · rw [anchored, moves_slash]
    rfl
  · rw [anchored, moves, List.splitOn_cons_eq_if_modifyHead, List.length_singleton, List.drop_one,
      List.tail_cons, split]
    rfl
  · rw [anchored]
    rfl

theorem moves_joinWith {parts : List Text} (undivided : ∀ part ∈ parts, '/' ∉ part) :
    moves ⟨Text.joinWith ['/'] parts⟩ = parts.filterMap stepOf? := by
  by_cases none : parts = []
  · rw [none]
    rfl
  · rw [moves, Text.joinWith, List.splitOn_intercalate '/' undivided none]

theorem moves_dropLast_body {p : Path} (some : p.body ≠ []) :
    p.moves.dropLast = p.body.dropLast.filterMap stepOf? := by
  have busy := List.rdropWhile_last_not (fun part => (stepOf? part).isNone) _ some
  obtain ⟨step, means⟩ := Option.ne_none_iff_exists'.1 (mt Option.isNone_iff_eq_none.2 busy)
  have last : [p.body.getLast some].filterMap stepOf? = [step] :=
    List.filterMap_cons_some means
  have whole := congrArg (List.filterMap stepOf?) (List.dropLast_append_getLast some)
  rw [List.filterMap_append, last] at whole
  rw [moves_eq_body, ← whole, List.dropLast_concat]

/-- A dot before a slash is no move. -/
theorem moves_dot {parts parts' : List Text} (within : parts <+: [] :: parts') :
    moves ⟨'.' :: Text.joinWith ['/'] parts⟩ = moves ⟨Text.joinWith ['/'] parts⟩ := by
  obtain _ | ⟨first, more⟩ := parts
  · rfl
  · obtain ⟨rfl, -⟩ := List.cons_prefix_cons.1 within
    obtain _ | ⟨next, more⟩ := more
    · rfl
    · have slash : Text.joinWith ['/'] ([] :: next :: more) = '/' :: Text.joinWith ['/'] (next :: more) := by
        simp [Text.joinWith]
      rw [slash, moves_slash]
      exact moves_append ['.'] _

section
variable {p : Path} {kept : List Text} (within : kept <+: (p.text.drop p.anchor.length).splitOn '/')
include within

theorem moves_of_kept : moves ⟨p.anchor ++ Text.joinWith ['/'] kept⟩ = kept.filterMap stepOf? := by
  rw [← moves_joinWith fun part found => Text.not_mem_of_mem_splitOn (within.subset found)]
  obtain ⟨rest, -, anchored⟩ | ⟨rest, parts, rfl, anchored, split⟩ | ⟨-, anchored⟩ := p.anchor_cases
  · rw [anchored, List.singleton_append, moves_slash]
  · rw [anchored, List.length_singleton, List.drop_one, List.tail_cons, split] at within
    rw [anchored, List.singleton_append, moves_dot within]
  · rw [anchored, List.nil_append]

theorem isAbsolute_of_kept : isAbsolute ⟨p.anchor ++ Text.joinWith ['/'] kept⟩ = p.isAbsolute := by
  obtain ⟨rest, rfl, anchored⟩ | ⟨rest, parts, rfl, anchored, -⟩ | ⟨relative, anchored⟩ := p.anchor_cases
  · rw [anchored]
    rfl
  · rw [anchored]
    rfl
  · rw [anchored, List.length_nil, List.drop_zero] at within
    obtain ⟨more, whole⟩ := Text.joinWith_prefix ['/'] within
    rw [Text.joinWith, Text.joinWith, List.intercalate_splitOn] at whole
    rw [anchored, List.nil_append, relative, ← Bool.not_eq_true, isAbsolute_iff, Text.joinWith]
    intro slash
    have absolute : p.isAbsolute = true := by
      rw [isAbsolute_iff, ← whole, List.head?_append, slash, Option.some_or]
    rw [relative] at absolute
    cases absolute

end

/-- A parent is without the last move, and begins at the root if the path does. -/
theorem exists_parent {p : Path} (some_move : p.moves ≠ []) :
    ∃ q, p.parent? = some q ∧ q.moves = p.moves.dropLast ∧ q.isAbsolute = p.isAbsolute := by
  have some_part : p.body ≠ [] := by
    intro none
    rw [moves_eq_body, none] at some_move
    exact some_move rfl
  have within : dropIdle p.body.dropLast <+: (p.text.drop p.anchor.length).splitOn '/' :=
    (dropIdle_within _).trans ((List.dropLast_prefix _).trans (dropIdle_within _))
  refine ⟨_, by rw [parent?, if_neg some_part], ?_, isAbsolute_of_kept within⟩
  rw [moves_of_kept within, filterMap_dropIdle, moves_dropLast_body some_part]

end ClassNav.Path
