import LintRoster.Yaml.Node
import LintRoster.Yaml.Token.Lexer

/-!
# YAML documents

A document is the tree of its nodes, in which each alias has become the number of its anchor, and
the trees that these numbers stand for. Anchors are numbered in the order in which they stand: an
anchor gets the count of the different names before it as its number, and a number stands for the
last anchor that got it.
-/

namespace LintRoster.Yaml

/-- A node whose alias is the number of an anchor. -/
inductive Tree where
  | scalar (tag : Option String) (text : String) (plain : Bool)
  | seq (tag : Option String) (items : List Tree)
  | map (tag : Option String) (entries : List (Tree × Tree))
  | alias (number : Nat)
deriving Inhabited

/-- The anchors that were met: the number of each name, the position at which each number was last
given away, last first, the trees that begin at these positions, and how many parts of the document
were met. A scalar and an alias are one part, a collection is two and its content. -/
structure Anchors where
  numbers : List (String × Nat)
  positions : List (Nat × Nat)
  trees : List (Nat × Tree)
  parts : Nat

namespace Anchors

/-- No anchors. -/
def none : Anchors :=
  ⟨[], [], [], 0⟩

/-- The anchors after one more part of the document. -/
def addPart (st : Anchors) : Anchors :=
  { st with parts := st.parts + 1 }

/-- Gives a number to an anchor at the present position. -/
def define (st : Anchors) (anchor : Option String) : Anchors :=
  match anchor with
  | Option.none => st
  | some name =>
    let number := st.numbers.length
    { st with
      numbers := (name, number) :: st.numbers.filter fun entry => entry.1 != name
      positions := (number, st.parts) :: st.positions }

/-- Notes the tree that begins at a position. -/
def record (st : Anchors) (position : Nat) (anchor : Option String) (t : Tree) : Anchors :=
  match anchor with
  | Option.none => st
  | some _ => { st with trees := (position, t) :: st.trees }

/-- The number that a name has at present. -/
def number? (st : Anchors) (name : String) : Option Nat :=
  (st.numbers.find? fun entry => entry.1 == name).map Prod.snd

/-- The tree that a number stands for at the end of the document. -/
def tree? (st : Anchors) (number : Nat) : Option Tree :=
  match st.positions.find? fun entry => entry.1 == number with
  | Option.none => Option.none
  | some (_, position) => (st.trees.find? fun entry => entry.1 == position).map Prod.snd

end Anchors

namespace Node

mutual

/-- Replaces the names of aliases by numbers, in the order of the document. -/
def toTree : Node → Anchors → Except Fault (Tree × Anchors)
  | .scalar props text plain, st =>
    let t := Tree.scalar props.tag text plain
    .ok (t, ((st.define props.anchor).record st.parts props.anchor t).addPart)
  | .seq props items, st =>
    match toTrees items (st.define props.anchor).addPart with
    | .error e => .error e
    | .ok (ts, st') =>
      let t := Tree.seq props.tag ts
      .ok (t, (st'.record st.parts props.anchor t).addPart)
  | .map props entries, st =>
    match toTreeEntries entries (st.define props.anchor).addPart with
    | .error e => .error e
    | .ok (ts, st') =>
      let t := Tree.map props.tag ts
      .ok (t, (st'.record st.parts props.anchor t).addPart)
  | .alias name, st =>
    match st.number? name with
    | some number => .ok (.alias number, st.addPart)
    | none => .error .unknownAnchor

/-- Replaces the names of aliases in the items of a sequence. -/
def toTrees : List Node → Anchors → Except Fault (List Tree × Anchors)
  | [], st => .ok ([], st)
  | node :: nodes, st =>
    match toTree node st with
    | .error e => .error e
    | .ok (t, st) =>
      match toTrees nodes st with
      | .error e => .error e
      | .ok (ts, st) => .ok (t :: ts, st)

/-- Replaces the names of aliases in the entries of a mapping. -/
def toTreeEntries : List (Node × Node) → Anchors → Except Fault (List (Tree × Tree) × Anchors)
  | [], st => .ok ([], st)
  | (key, value) :: rest, st =>
    match toTree key st with
    | .error e => .error e
    | .ok (k, st) =>
      match toTree value st with
      | .error e => .error e
      | .ok (v, st) =>
        match toTreeEntries rest st with
        | .error e => .error e
        | .ok (ts, st) => .ok ((k, v) :: ts, st)

end

end Node

/-- A document: its root, if there is anything in it, and its anchors. -/
structure Document where
  root : Option Tree
  anchors : Anchors

namespace Document

/-- What the directives in front of a document say. -/
structure Directives where
  version : Bool
  handles : Node.Handles

/-- Reads the directives in front of a document. Each may be given once. -/
def readDirectives : Directives → List Token → Except Fault (Directives × List Token)
  | ds, .versionDirective major minor :: rest =>
    if ds.version then .error .malformedDirective
    else if major == 1 && (minor == 1 || minor == 2) then
      readDirectives { ds with version := true } rest
    else .error .incompatibleVersion
  | ds, .tagDirective handle lead :: rest =>
    if ds.handles.any fun entry => entry.1 == handle then .error .malformedDirective
    else readDirectives { ds with handles := ds.handles ++ [(handle, lead)] } rest
  | ds, rest => .ok (ds, rest)

/-- Whether the tokens go on with the edge of a document. -/
def atEdge : List Token → Bool
  | [] => true
  | .versionDirective _ _ :: _ | .tagDirective _ _ :: _ | .documentStart :: _
  | .documentEnd :: _ => true
  | _ => false

/-- Reads the root of a document after its start. -/
def readRoot (handles : Node.Handles) (ts : List Token) : Except Fault (Node × List Token) :=
  if atEdge ts then .ok (.nothing, ts)
  else Node.read handles true false (2 * ts.length + 2) ts

/-- Whether a document begins with directives or a mark. -/
def isExplicit : List Token → Bool
  | .versionDirective _ _ :: _ | .tagDirective _ _ :: _ | .documentStart :: _ => true
  | _ => false

/-- Reads the first document. -/
def readFirst (ts : List Token) : Except Fault (Node × List Token) := do
  if isExplicit ts then
    let (ds, rest) ← readDirectives ⟨false, []⟩ ts
    match rest with
    | .documentStart :: rest => readRoot (ds.handles ++ Node.defaultHandles) rest
    | _ => .error .unexpectedToken
  else Node.read Node.defaultHandles true false (2 * ts.length + 2) ts

/-- The node of the only document that the tokens hold. -/
def nodeOfTokens? (ts : List Token) : Except Fault (Option Node) := do
  if ts.isEmpty then return none
  else
    let (node, rest) ← readFirst ts
    if rest.all (· == .documentEnd) then return some node else .error .severalDocuments

/-- Reads a text that holds at most one document. -/
def ofText? (text : String) : Except Fault Document := do
  let ts ← tokens? text
  match ← nodeOfTokens? ts with
  | none => return ⟨none, .none⟩
  | some node =>
    let (root, anchors) ← node.toTree .none
    return ⟨some root, anchors⟩

end Document

end LintRoster.Yaml
