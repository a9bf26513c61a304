/-!
# Paths

A path is its text. `Path.join` puts one path below another, `Path.components` cuts a path into
steps, and `Path.le` orders paths step by step, so that `a/x` comes before `a-b`.

Paths whose bytes are not UTF-8 are left out: every path here is a text, and is shown as that text,
with nothing in it replaced.
-/

namespace LintRoster

/-- A path as it was written. Nothing is normalised. -/
structure Path where
  text : String
deriving DecidableEq, Repr, Inhabited

namespace Path

/-- A path that begins at the root of the file system. -/
def isAbsolute (p : Path) : Bool :=
  p.text.toList.head? == some '/'

/-- The path `q`, read below `p`. An absolute `q` replaces `p`; otherwise one slash stands between
the two, unless `p` is empty or already ends in one. -/
def join (p q : Path) : Path :=
  if q.isAbsolute then q
  else
    match p.text.toList.getLast? with
    | none => q
    | some '/' => ⟨p.text ++ q.text⟩
    | some _ => ⟨p.text ++ "/" ++ q.text⟩

/-- One step of a path. -/
inductive Component where
  | root
  | current
  | parent
  | name (s : String)
deriving DecidableEq, Repr, Inhabited

/-- The pieces of a text between slashes; there is one more of them than there are slashes. -/
def splitSlashes : List Char → List (List Char)
  | [] => [[]]
  | c :: cs =>
    if c == '/' then [] :: splitSlashes cs
    else
      match splitSlashes cs with
      | [] => [[c]]
      | piece :: pieces => (c :: piece) :: pieces

/-- The pieces of a path's text between slashes, empty ones included. -/
def pieces (p : Path) : List String :=
  (splitSlashes p.text.toList).map String.ofList

/-- The step that one piece of a path stands for. Empty pieces and single dots stand for none. -/
def componentOf (piece : String) : Option Component :=
  if piece == "" || piece == "." then none
  else if piece == ".." then some .parent
  else some (.name piece)

/-- The steps of a path. A leading dot of a relative path is kept, all other dots and all repeated
or trailing slashes are dropped. -/
def components (p : Path) : List Component :=
  let steps := p.pieces.filterMap componentOf
  if p.isAbsolute then .root :: steps
  else if p.pieces.head? == some "." then .current :: steps
  else steps

namespace Component

/-- The rank of the kind of a step. -/
def rank : Component → Nat
  | .root => 0
  | .current => 1
  | .parent => 2
  | .name _ => 3

/-- The order of steps: by kind, then names by the bytes of their text. -/
def compare : Component → Component → Ordering
  | .name a, .name b => Ord.compare a b
  | a, b => Ord.compare a.rank b.rank

/-- A step as text. -/
def text : Component → String
  | .root => ""
  | .current => "."
  | .parent => ".."
  | .name s => s

end Component

/-- The order of two lists of steps: by the first step that differs, a list before every longer
list that continues it. -/
def compareComponents : List Component → List Component → Ordering
  | [], [] => .eq
  | [], _ :: _ => .lt
  | _ :: _, [] => .gt
  | a :: as, b :: bs => (a.compare b).then (compareComponents as bs)

/-- Whether `p` comes before `q`, or has the same steps. -/
def le (p q : Path) : Bool :=
  (compareComponents p.components q.components).isLE

/-- The path with the given steps. -/
def ofComponents (steps : List Component) : Path :=
  match steps with
  | [.root] => ⟨"/"⟩
  | steps => ⟨String.intercalate "/" (steps.map Component.text)⟩

/-- The path without its last step, if that step is not the root. -/
def parent? (p : Path) : Option Path :=
  match p.components.getLast? with
  | none | some .root => none
  | some _ => some (ofComponents p.components.dropLast)

/-- A single slash-free name below a directory. -/
def child (p : Path) (name : String) : Path :=
  p.join ⟨name⟩

end Path

end LintRoster
