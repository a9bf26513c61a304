import LintRoster.FileSystem
import LintRoster.Shell.Pattern
import LintRoster.Text.Bytes

/-!
# Patterns of paths

A word with active signs stands for the paths that fit it, step by step. A name that begins with a dot
is fitted only by a step that begins with one.
-/

namespace LintRoster.Shell.Glob

/-- The path of a byte text. -/
def pathOf (s : String) : Path :=
  ⟨Bytes.toText s⟩

/-- Whether brackets are closed, after the opening one. -/
def isClosed (signs : List Sign) : Bool :=
  let signs := if signs.head? == some ⟨'!', true⟩ then signs.drop 1 else signs
  (signs.drop 1).contains ⟨']', true⟩

/-- Whether a step fits more than one name. -/
def isActive : List Sign → Bool
  | [] => false
  | s :: rest =>
    (s.active && (s.char == '*' || s.char == '?' || (s.char == '[' && isClosed rest))) ||
      isActive rest

/-- The steps of a pattern, between slashes. -/
def steps : List Sign → List (List Sign)
  | [] => [[]]
  | s :: rest =>
    match steps rest with
    | [] => [[s]]
    | step :: more => if s.char == '/' then [] :: step :: more else (s :: step) :: more

/-- The names in a directory, those of itself and its parent included. -/
def names (fs : FileSystem) (dir : String) : List String :=
  match fs.stat (pathOf (if dir == "" then "." else dir)) with
  | .ok (_, .dir d) => "." :: ".." :: d.names.map Bytes.ofText
  | _ => []

/-- Whether there is something at a path, be it a link that leads nowhere. -/
def isThere (fs : FileSystem) (path : String) : Bool :=
  match fs.resolveLink (pathOf path) with
  | .ok (.node _ _) => true
  | _ => false

/-- The names in a directory that fit a step. -/
def fitting (fs : FileSystem) (dir : String) (step : List Sign) : List String :=
  let pieces := Pattern.ofSigns step
  let showsHidden := (step.head?.map Sign.char) == some '.'
  (names fs dir).filter fun name =>
    (showsHidden || name.toList.head? != some '.') && Pattern.fits pieces name.toList

/-- The text of signs. -/
def textOf (signs : List Sign) : String :=
  String.ofList (signs.map Sign.char)

/-- The paths that fit steps, below what the text in front leads to. -/
def below (fs : FileSystem) (front : String) : List (List Sign) → List String
  | [] => [front]
  | step :: rest =>
    if isActive step then
      (fitting fs front step).flatMap fun name =>
        if rest.isEmpty then [front ++ name] else below fs (front ++ name ++ "/") rest
    else
      let path := front ++ textOf step
      if rest.isEmpty then if isThere fs path then [path] else []
      else below fs (path ++ "/") rest

/-- The paths that fit a pattern, in order. There are none if it fits only one path anyway. -/
def paths (fs : FileSystem) (signs : List Sign) : List String :=
  let steps := steps (Pattern.settle signs)
  if steps.any isActive then (below fs "" steps).mergeSort fun a b => a ≤ b else []

end LintRoster.Shell.Glob
