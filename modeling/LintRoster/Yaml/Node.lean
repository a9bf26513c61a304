import LintRoster.Yaml.Token

/-!
# YAML nodes

A node is a scalar, a sequence, a mapping or an alias as it stands in a document, before its tags,
anchors and aliases are given a meaning. `Node.ofTokens?` builds the node of a document from its
tokens. Where YAML allows nothing to stand for a node, an empty plain scalar takes its place.
-/

namespace LintRoster.Yaml

/-- The anchor and the tag in front of a node. -/
structure Properties where
  anchor : Option String
  tag : Option String
deriving DecidableEq, Repr

/-- A part of a document. -/
inductive Node where
  | scalar (props : Properties) (text : String) (plain : Bool)
  | seq (props : Properties) (items : List Node)
  | map (props : Properties) (entries : List (Node × Node))
  | alias (name : String)

namespace Node

/-- The node that stands where nothing is written. -/
def nothing : Node :=
  .scalar ⟨none, none⟩ "" true

instance : Inhabited Node := ⟨nothing⟩

/-- What the tag handles of a document stand for. -/
abbrev Handles := List (String × String)

/-- The meaning of the handles that no directive speaks of. -/
def defaultHandles : Handles :=
  [("!", "!"), ("!!", "tag:yaml.org,2002:")]

/-- The full text of a tag. A tag without a handle is its own text. -/
def fullTag (handles : Handles) (handle suffix : String) : Except Fault String :=
  if handle.isEmpty then .ok suffix
  else
    match handles.find? fun entry => entry.1 == handle with
    | some (_, lead) => .ok (lead ++ suffix)
    | none => .error .undefinedTagHandle

/-- Reads the anchor and the tag, in either order, in front of a node. -/
def readProperties (handles : Handles) :
    List Token → Except Fault (Properties × List Token)
  | .anchor name :: .tag handle suffix :: rest =>
    (fullTag handles handle suffix).map fun tag => (⟨some name, some tag⟩, rest)
  | .tag handle suffix :: .anchor name :: rest =>
    (fullTag handles handle suffix).map fun tag => (⟨some name, some tag⟩, rest)
  | .anchor name :: rest => .ok (⟨some name, none⟩, rest)
  | .tag handle suffix :: rest =>
    (fullTag handles handle suffix).map fun tag => (⟨none, some tag⟩, rest)
  | rest => .ok (⟨none, none⟩, rest)

/-- Whether the tokens go on with one of the given kinds. -/
def goesOnWith (kinds : List Token) : List Token → Bool
  | [] => false
  | t :: _ => kinds.contains t

/-- A node that may be missing: nothing stands for it where the tokens go on with one of the given
kinds. -/
def orNothing (missing : List Token) (read : List Token → Except Fault (Node × List Token))
    (ts : List Token) : Except Fault (Node × List Token) :=
  if goesOnWith missing ts then .ok (nothing, ts) else read ts

/-- A node of which only its properties are written. -/
def bare (props : Properties) (rest : List Token) : Except Fault (Node × List Token) :=
  if props.anchor.isSome || props.tag.isSome then .ok (.scalar props "" true, rest)
  else .error .unexpectedToken

/-- Passes the comma that stands in front of every part of a flow collection but the first. -/
def afterComma (first : Bool) : List Token → Except Fault (List Token)
  | .flowEntry :: rest => if first then .ok (.flowEntry :: rest) else .ok rest
  | ts => if first then .ok ts else .error .unexpectedToken

mutual

/-- Reads a node. Block collections are read only where `block` allows them, and a sequence that is
not indented deeper than its key only where `indentless` does. -/
def read (handles : Handles) (block indentless : Bool) :
    Nat → List Token → Except Fault (Node × List Token)
  | 0, _ => .error .unexpectedToken
  | _ + 1, .alias name :: rest => .ok (.alias name, rest)
  | fuel + 1, ts => do
    let (props, rest) ← readProperties handles ts
    match rest with
    | .blockEntry :: _ =>
      if indentless then
        let (items, rest) ← readIndentless handles fuel rest
        return (.seq props items, rest)
      else bare props rest
    | .scalar text plain :: rest => return (.scalar props text plain, rest)
    | .flowSequenceStart :: rest =>
      let (items, rest) ← readFlowItems handles true fuel rest
      return (.seq props items, rest)
    | .flowMappingStart :: rest =>
      let (entries, rest) ← readFlowEntries handles true fuel rest
      return (.map props entries, rest)
    | .blockSequenceStart :: inner =>
      if block then
        let (items, rest) ← readBlockItems handles fuel inner
        return (.seq props items, rest)
      else bare props rest
    | .blockMappingStart :: inner =>
      if block then
        let (entries, rest) ← readBlockEntries handles fuel inner
        return (.map props entries, rest)
      else bare props rest
    | rest => bare props rest

/-- Reads the items of a block sequence and its end. -/
def readBlockItems (handles : Handles) : Nat → List Token → Except Fault (List Node × List Token)
  | 0, _ => .error .unexpectedToken
  | fuel + 1, .blockEntry :: rest => do
    let (item, rest) ← orNothing [.blockEntry, .blockEnd] (read handles true false fuel) rest
    let (items, rest) ← readBlockItems handles fuel rest
    return (item :: items, rest)
  | _ + 1, .blockEnd :: rest => .ok ([], rest)
  | _ + 1, _ => .error .unexpectedToken

/-- Reads the items of a sequence that is as deep as the mapping that holds it. -/
def readIndentless (handles : Handles) : Nat → List Token → Except Fault (List Node × List Token)
  | 0, _ => .error .unexpectedToken
  | fuel + 1, .blockEntry :: rest => do
    let (item, rest) ←
      orNothing [.blockEntry, .key, .value, .blockEnd] (read handles true false fuel) rest
    let (items, rest) ← readIndentless handles fuel rest
    return (item :: items, rest)
  | _ + 1, rest => .ok ([], rest)

/-- Reads the entries of a block mapping and its end. -/
def readBlockEntries (handles : Handles) :
    Nat → List Token → Except Fault (List (Node × Node) × List Token)
  | 0, _ => .error .unexpectedToken
  | fuel + 1, .key :: rest => do
    let (key, rest) ←
      orNothing [.key, .value, .blockEnd] (read handles true true fuel) rest
    let (value, rest) ←
      match rest with
      | .value :: rest => orNothing [.key, .value, .blockEnd] (read handles true true fuel) rest
      | rest => .ok (nothing, rest)
    let (entries, rest) ← readBlockEntries handles fuel rest
    return ((key, value) :: entries, rest)
  | _ + 1, .blockEnd :: rest => .ok ([], rest)
  | _ + 1, _ => .error .unexpectedToken

/-- Reads the items of a flow sequence and its end. A pair without braces is a mapping. -/
def readFlowItems (handles : Handles) (first : Bool) :
    Nat → List Token → Except Fault (List Node × List Token)
  | 0, _ => .error .unexpectedToken
  | _ + 1, .flowSequenceEnd :: rest => .ok ([], rest)
  | fuel + 1, ts => do
    let ts ← afterComma first ts
    match ts with
    | .flowSequenceEnd :: rest => return ([], rest)
    | .key :: rest =>
      let (pair, rest) ← readFlowPair handles fuel rest
      let (items, rest) ← readFlowItems handles false fuel rest
      return (.map ⟨none, none⟩ [pair] :: items, rest)
    | ts =>
      let (item, rest) ← read handles false false fuel ts
      let (items, rest) ← readFlowItems handles false fuel rest
      return (item :: items, rest)

/-- Reads a pair in a flow sequence after its key indicator. Where no key is written, the token
after the indicator is passed over. -/
def readFlowPair (handles : Handles) :
    Nat → List Token → Except Fault ((Node × Node) × List Token)
  | 0, _ => .error .unexpectedToken
  | fuel + 1, ts => do
    let (key, rest) ←
      if goesOnWith [.value, .flowEntry, .flowSequenceEnd] ts then .ok (nothing, ts.drop 1)
      else read handles false false fuel ts
    let (value, rest) ←
      match rest with
      | .value :: rest =>
        orNothing [.flowEntry, .flowSequenceEnd] (read handles false false fuel) rest
      | rest => .ok (nothing, rest)
    return ((key, value), rest)

/-- Reads the entries of a flow mapping and its end. A node without a colon is a key without a
value. -/
def readFlowEntries (handles : Handles) (first : Bool) :
    Nat → List Token → Except Fault (List (Node × Node) × List Token)
  | 0, _ => .error .unexpectedToken
  | _ + 1, .flowMappingEnd :: rest => .ok ([], rest)
  | fuel + 1, ts => do
    let ts ← afterComma first ts
    match ts with
    | .flowMappingEnd :: rest => return ([], rest)
    | .key :: rest =>
      let (key, rest) ←
        orNothing [.value, .flowEntry, .flowMappingEnd] (read handles false false fuel) rest
      let (value, rest) ←
        match rest with
        | .value :: rest =>
          orNothing [.flowEntry, .flowMappingEnd] (read handles false false fuel) rest
        | rest => .ok (nothing, rest)
      let (entries, rest) ← readFlowEntries handles false fuel rest
      return ((key, value) :: entries, rest)
    | ts =>
      let (key, rest) ← read handles false false fuel ts
      let (entries, rest) ← readFlowEntries handles false fuel rest
      return ((key, nothing) :: entries, rest)

end

end Node

end LintRoster.Yaml
