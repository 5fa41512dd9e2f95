import ClassNav.Store.Basic

/-!
Changes that come from outside: files put in place and taken away.
-/

namespace ClassNav.Store

def removeAt (s : Store) (l : Location) : Store :=
  { s with entries := s.entries.filter fun (k, _) => decide (k ≠ l) }

/-- The directories above a place that are not yet there. -/
def withParents (s : Store) (l : Location) : Store :=
  (List.range l.length).foldl
    (fun s n => if (s.entry? (l.take n)).isSome then s
      else { s with entries := s.entries ++ [(l.take n, .directory)] }) s

/-- An entry learned of; one already known stays. -/
def learn (s : Store) (l : Location) (e : Entry) : Store :=
  if (s.entry? l).isSome then s else { s with entries := s.entries ++ [(l, e)] }

/-- The entry at a place, whatever was there before. -/
def put (s : Store) (l : Location) (e : Entry) : Store :=
  let s := (s.removeAt l).withParents l
  { s with entries := s.entries ++ [(l, e)] }

def putAt (s : Store) (p : Path) (e : Entry) : Store := s.put (s.cwd.join p.text).location e

end ClassNav.Store
