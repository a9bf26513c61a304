import LintRoster.NameMap
import LintRoster.Yaml.Value

/-!
# Workflows

Of a workflow only the environments matter: its own and those of its jobs. An environment is kept as
the value that was written, because one that is not a mapping is legal and declares nothing.
`Workflow.declared?` is the value that a workflow holds under a key in one scope, and
`Workflow.find?` is the first such value in the order of a lookup.
-/

namespace LintRoster

/-- A job of a workflow. -/
structure Job where
  env : Option Yaml.Value
deriving Inhabited

/-- A workflow: its own environment and its jobs by name. -/
structure Workflow where
  env : Option Yaml.Value
  jobs : NameMap Job
deriving Inhabited

/-- Where in a workflow a key may stand: in the environment of the workflow or in that of a job. -/
inductive Scope where
  | root
  | job (name : String)
deriving DecidableEq, Repr

/-- Which scope is searched first. -/
inductive LookupOrder where
  | rootFirst
  | jobFirst
deriving DecidableEq, Repr, Inhabited

/-- What to look up: a key, in the environments of the workflow and of one job, in an order. -/
structure Lookup where
  key : String
  job : String
  order : LookupOrder
deriving DecidableEq, Repr

namespace Scope

/-- The text of a scope. -/
def text : Scope → String
  | root => "env"
  | job name => "jobs." ++ name ++ ".env"

end Scope

namespace Lookup

/-- The scopes of a lookup, in the order of the search. -/
def scopes (lookup : Lookup) : List Scope :=
  match lookup.order with
  | .rootFirst => [.root, .job lookup.job]
  | .jobFirst => [.job lookup.job, .root]

end Lookup

namespace Workflow

/-- The workflow that declares nothing. -/
def empty : Workflow :=
  ⟨none, .empty⟩

/-- The environment of a scope. -/
def envOf? (w : Workflow) : Scope → Option Yaml.Value
  | .root => w.env
  | .job name => (w.jobs.get? name).bind Job.env

/-- The value under a key in an environment. A value of nothing counts as none, and so does an
environment that is no mapping. -/
def cellOf? (env : Option Yaml.Value) (key : String) : Option Yaml.Value :=
  ((env.bind Yaml.Value.entries?).bind (Yaml.Value.lookup? key)).filter fun value => !value.isNull

/-- The value that a workflow declares under a key in a scope. -/
def declared? (w : Workflow) (key : String) (scope : Scope) : Option Yaml.Value :=
  cellOf? (w.envOf? scope) key

/-- The first declared value in the order of a lookup, with its scope. -/
def find? (w : Workflow) (lookup : Lookup) : Option (Scope × Yaml.Value) :=
  lookup.scopes.findSome? fun scope => (w.declared? lookup.key scope).map fun value => (scope, value)

end Workflow

end LintRoster
