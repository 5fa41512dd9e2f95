import ClassNav.Document.ImportLine

/-!
The expression that an import is written by, and the search for it that goes back where it cannot go on:

    KEY\s+(?:from\s+|=\s+require(?:<any>)?\()["'](.+\.\S{1,2}ss)["']\)?

Each part of an expression has its ways of reading a text, in an order. A way is taken only if all that
follows in the expression can be read behind it; the first such way counts, at the leftmost place that
has one.
-/

namespace ClassNav

inductive Expression
  | one (holds : Char → Bool)
  | word (t : Text)
  /-- At least one such character, and rather more of them than fewer. -/
  | run (holds : Char → Bool)
  /-- Rather there than not. -/
  | optional (e : Expression)
  | both (first second : Expression)
  | either (first second : Expression)
  /-- What the expression reads is kept. -/
  | group (e : Expression)

namespace Expression

variable {α : Type}

/-- The longest run behind which the text can be read on. -/
def readRun (holds : Char → Bool) (next : Text → Option α) : Text → Option α
  | [] => none
  | c :: r => if holds c then (readRun holds next r).or (next r) else none

/-- What comes of reading the expression and then what is `next`. The groups are kept in order; none stands
in another. -/
def read : Expression → (next : List Text → Text → Option α) → (groups : List Text) → Text → Option α
  | one _, _, _, [] => none
  | one holds, next, groups, c :: r => if holds c then next groups r else none
  | word w, next, groups, t => (Text.stripPrefix? w t).bind (next groups)
  | run holds, next, groups, t => readRun holds (next groups) t
  | optional e, next, groups, t => (e.read next groups t).or (next groups t)
  | both first second, next, groups, t => first.read (second.read next) groups t
  | either first second, next, groups, t => (first.read next groups t).or (second.read next groups t)
  | group e, next, groups, t =>
    e.read (fun inner rest => next (inner ++ [t.take (t.length - rest.length)]) rest) groups t

/-- The groups of the expression read right here, and what follows it. -/
def atStart? (e : Expression) (t : Text) : Option (List Text × Text) :=
  e.read (fun groups rest => some (groups, rest)) [] t

/-- The leftmost place where the expression can be read. -/
def search? (e : Expression) : Text → Option (List Text × Text)
  | [] => e.atStart? []
  | c :: r => (e.atStart? (c :: r)).or (e.search? r)

end Expression

namespace Import

open Character Expression

def blanks : Expression := run isBlank

def isSolid (c : Char) : Bool := !isBlank c

def call : Expression := both (word "require") (both (optional (word "<any>")) (word ['(']))

def fromOrRequire : Expression :=
  either (both (word "from") blanks) (both (word ['=']) (both blanks call))

def extension : Expression :=
  both (word ['.']) (both (one isSolid) (both (optional (one isSolid)) (word "ss")))

def file : Expression := group (both (run (· != '\n')) extension)

def closing : Expression := both (one isQuote) (optional (word [')']))

def quotation : Expression := both (one isQuote) (both file closing)

/-- What stands behind the key. -/
def tail : Expression := both blanks (both fromOrRequire quotation)

def expression (key : Expression) : Expression := both key tail

/-- The module path that the text has for a key, by the expression. -/
def sought? (key text : Text) : Option Text :=
  ((expression (word key)).search? text).bind fun (groups, _) => groups[0]?

/-- The import on a line, whatever its key, by the expression. -/
def captured? (line : Text) : Option Import :=
  ((expression (group (run isSolid))).search? line).bind fun (groups, _) =>
    groups[0]?.bind fun binding => groups[1]?.map fun path => ⟨binding, path⟩

end Import

end ClassNav
