import ClassNav.Error
import ClassNav.Path.Resolve
import ClassNav.Text.Bytes

/-!
The file tree and what may be done with it. A path is followed one name at a time, as the system does
it: only directories can be passed through, and two dots lead to the directory that holds the one
reached. There are no permissions: every file may be read and written, and no links.
-/

namespace ClassNav

inductive Entry
  | directory
  | file (bytes : ByteArray)

/-- The entries below the root, and the working directory. The root is always a directory. -/
structure Store where
  cwd : Path
  entries : List (Location × Entry)

namespace Store

def longestName : Nat := 255

def longestPath : Nat := 4095

def entry? (s : Store) (l : Location) : Option Entry :=
  if l = [] then some .directory else s.entries.lookup l

/-- Follow the parts of a path between slashes, from a place reached. -/
def walk (s : Store) (place : Location) : List Text → Except FileError Location
  | [] => .ok place
  | part :: rest =>
    match s.entry? place with
    | none => .error .notFound
    | some (.file _) => .error .notDirectory
    | some .directory =>
      match Path.stepOf? part with
      | none => walk s place rest
      | some (.name n) =>
        if longestName < Text.byteLength n then .error .nameTooLong
        else
          match s.entry? (place ++ [n]) with
          | none => .error .notFound
          | some _ => walk s (place ++ [n]) rest
      | some step => walk s (place.step step) rest

/-- The place that a path leads to. -/
def locate (s : Store) (p : Path) : Except FileError Location :=
  if '\x00' ∈ p.text then .error .nulInName
  else if p.text = [] then .error .notFound
  else if longestPath < Text.byteLength p.text then .error .nameTooLong
  else s.walk (if p.isAbsolute then [] else s.cwd.location) (p.text.splitOn '/')

def find (s : Store) (p : Path) : Except FileError (Location × Entry) :=
  match s.locate p with
  | .error e => .error e
  | .ok l =>
    match s.entry? l with
    | none => .error .notFound
    | some e => .ok (l, e)

def read (s : Store) (p : Path) : Except FileError ByteArray :=
  match s.find p with
  | .error e => .error e
  | .ok (_, .directory) => .error .isDirectory
  | .ok (_, .file bytes) => .ok bytes

def readText (s : Store) (p : Path) : Except FileError Text :=
  match s.read p with
  | .error e => .error e
  | .ok bytes =>
    match Text.decode? bytes with
    | none => .error .notText
    | some t => .ok t

def has (s : Store) (p : Path) : Bool :=
  match s.find p with
  | .error _ => false
  | .ok _ => true

def isFile (s : Store) (p : Path) : Bool :=
  match s.find p with
  | .ok (_, .file _) => true
  | _ => false

def isDirectory (s : Store) (p : Path) : Bool :=
  match s.find p with
  | .ok (_, .directory) => true
  | _ => false

/-- The absolute path of the place that a path leads to. -/
def canonical (s : Store) (p : Path) : Except FileError Path := (s.locate p).map Location.path

/-- The entry at a place changed; no entry appears or goes. -/
def set (s : Store) (l : Location) (e : Entry) : Store :=
  { s with entries := s.entries.map fun (k, old) => (k, if k = l then e else old) }

/-- Text added at the end of an existing file. -/
def append (s : Store) (p : Path) (t : Text) : Except FileError Store :=
  match s.find p with
  | .error e => .error e
  | .ok (_, .directory) => .error .isDirectory
  | .ok (l, .file bytes) => .ok (s.set l (.file (bytes ++ Text.encode t)))

end Store

end ClassNav
