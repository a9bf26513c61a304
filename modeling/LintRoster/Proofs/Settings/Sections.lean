import LintRoster.Proofs.NameMap
import LintRoster.Proofs.Settings.Fields

/-!
# The settings in the sections of a document

The settings of a workspace but its root, one by one: in which section each of them stands and under
which name, what kind of value it has, and what it is by default. `Kind.Writes` says how a value is
written in a document and `Kind.Misfit` which scalars are no values of a kind, both without reading
anything; `Kind.read?_of_writes` and `Kind.read?_of_misfit` say that the readers agree.
-/

namespace LintRoster

open Toml (Entries Item)

/-- The kinds of values that settings have. -/
inductive Kind where
  | text
  | path
  | order
  | seconds
  | texts
  | map
deriving DecidableEq

namespace Kind

/-- The values of a kind. -/
abbrev Value : Kind → Type
  | text => String
  | path => Path
  | order => LookupOrder
  | seconds => Nat
  | texts => List String
  | map => NameMap String

/-- Reads a value of a kind. -/
def read? : (kind : Kind) → Item → Option kind.Value
  | text => Item.text?
  | path => Item.path?
  | order => Item.order?
  | seconds => Item.seconds?
  | texts => Item.texts?
  | map => Item.map?

/-- `kind.Writes v item` says the item is a value of a kind as a document holds it. A map may be
written in any order. A moment in the place of a map stands for the map of its text under a fixed
name. -/
inductive Writes : (kind : Kind) → kind.Value → Item → Prop where
  | text (s : String) : Writes .text s (.string s)
  | path (p : Path) : Writes .path p (.string p.text)
  | rootFirst : Writes .order .rootFirst (.string "root-first")
  | jobFirst : Writes .order .jobFirst (.string "job-first")
  | seconds (n : Nat) : Writes .seconds n (.integer n)
  | texts (isOpen) (ss : List String) : Writes .texts ss (.array isOpen (ss.map .string))
  | map (origin) (m : NameMap String) (entries : List (String × String)) :
      entries.Perm m.toList →
      Writes .map m (.table origin (entries.map fun entry ↦ (entry.1, .string entry.2)))
  | moment (m : NameMap String) (s : String) :
      m.toList = [("$__toml_private_datetime", s)] → Writes .map m (.moment s)

/-- The texts of strings are their texts. -/
theorem textsOf?_map_string (ss : List String) :
    Item.textsOf? (ss.map .string) = some ss := by
  induction ss with
  | nil => rfl
  | cons s ss ih => simp [Item.textsOf?, Item.text?, ih]

/-- The texts of entries of strings are their texts. -/
theorem entryTexts?_map_string (entries : List (String × String)) :
    Item.entryTexts? (entries.map fun entry ↦ (entry.1, .string entry.2)) = some entries := by
  induction entries with
  | nil => rfl
  | cons entry entries ih => simp [Item.entryTexts?, Item.text?, ih]

/-- A value that is written is read. -/
theorem read?_of_writes {kind : Kind} {v : kind.Value} {item : Item} (h : kind.Writes v item) :
    kind.read? item = some v := by
  cases h with
  | text | path | rootFirst | jobFirst => rfl
  | seconds n => simp [read?, Item.seconds?]
  | texts isOpen ss => exact textsOf?_map_string ss
  | map origin m entries hperm =>
      simp [read?, Item.map?, entryTexts?_map_string, NameMap.ofList_of_perm hperm]
  | moment m s hm =>
      have hperm : [(Item.momentName, s)].Perm m.toList := .of_eq hm.symm
      simp [read?, Item.map?, NameMap.ofList_of_perm hperm]

/-- The types of scalars. -/
inductive Scalar where
  | string
  | integer
  | float
  | boolean
  | moment
deriving DecidableEq

/-- The type of a scalar. An array and a table have none. -/
def scalarOf? : Item → Option Scalar
  | .string _ => some .string
  | .integer _ => some .integer
  | .float => some .float
  | .boolean _ => some .boolean
  | .moment _ => some .moment
  | .array .. | .table .. => none

/-- The type of the scalars that values of a kind are written as, if they are written as scalars. -/
def scalar? : Kind → Option Scalar
  | text | path | order => some .string
  | seconds => some .integer
  | texts | map => none

/-- `kind.Misfit item` says the item is a scalar that is no value of the kind: one of another type,
a negative number of seconds, or a word that names no order. -/
inductive Misfit : Kind → Item → Prop where
  | type (kind item scalar) :
      scalarOf? item = some scalar → kind.scalar? ≠ some scalar → Misfit kind item
  | negative (n) : n < 0 → Misfit .seconds (.integer n)
  | word (s) : s ≠ "root-first" → s ≠ "job-first" → Misfit .order (.string s)

/-- A scalar that is no value of a kind is refused, unless it is a moment in the place of a map. -/
theorem read?_of_misfit {kind : Kind} {item : Item} (h : kind.Misfit item)
    (hmoment : kind = .map → ∀ s, item ≠ .moment s) : kind.read? item = none := by
  cases h with
  | type _ _ scalar hitem hkind =>
      -- A moment is the only scalar that a reader takes for something that it is not.
      cases item with
      | array | table => cases hitem
      | string | integer | float | boolean =>
          cases hitem
          cases kind <;> first | rfl | exact absurd rfl hkind
      | moment s =>
          cases kind with
          | map => exact absurd rfl (hmoment rfl s)
          | text | path | order | seconds | texts => rfl
  | negative n hn => simp [read?, Item.seconds?, hn]
  | word s hroot hjob => simp [read?, Item.order?, Item.orderOf?, hroot, hjob]

end Kind

/-- The sections of a document with settings. -/
inductive Section where
  | workflow
  | workspace
  | policy
  | emulator
deriving DecidableEq

namespace Section

/-- The name of a section. -/
def name : Section → String
  | workflow => "workflow"
  | workspace => "workspace"
  | policy => "policy"
  | emulator => "emulator"

/-- What a section holds. -/
abbrev Record : Section → Type
  | workflow => WorkflowSettings
  | workspace => WorkspaceSettings
  | policy => CratePolicy
  | emulator => EmulatorSettings

/-- The section of some settings. -/
def get : (σ : Section) → Settings → σ.Record
  | workflow, s => s.workflow
  | workspace, s => s.workspace
  | policy, s => s.policy
  | emulator, s => s.emulator

/-- The settings with another section. -/
def set : (σ : Section) → Settings → σ.Record → Settings
  | workflow, s, r => { s with workflow := r }
  | workspace, s, r => { s with workspace := r }
  | policy, s, r => { s with policy := r }
  | emulator, s, r => { s with emulator := r }

/-- The fields of a section. -/
def fields : (σ : Section) → List (Field σ.Record)
  | workflow => WorkflowSettings.fields
  | workspace => WorkspaceSettings.fields
  | policy => CratePolicy.fields
  | emulator => EmulatorSettings.fields

end Section

/-- The settings in each section. -/
inductive Setting : Section → Type where
  | path : Setting .workflow
  | job : Setting .workflow
  | key : Setting .workflow
  | lookup : Setting .workflow
  | cargo : Setting .workspace
  | metadataSeconds : Setting .workspace
  | required : Setting .policy
  | forbidden : Setting .policy
  | binary : Setting .emulator
  | event : Setting .emulator
  | eventPath : Setting .emulator
  | platforms : Setting .emulator
  | matrix : Setting .emulator
  | extraArgs : Setting .emulator
  | preflightSeconds : Setting .emulator
  | runSeconds : Setting .emulator
  | forbiddenSignatures : Setting .emulator
  | optInVariable : Setting .emulator
  | optInToken : Setting .emulator
deriving DecidableEq

namespace Setting

variable {σ : Section}

/-- The name of a setting. -/
def name : Setting σ → String
  | path => "path"
  | job => "job"
  | key => "key"
  | lookup => "lookup"
  | cargo => "cargo"
  | metadataSeconds => "metadata_timeout_secs"
  | required => "required"
  | forbidden => "forbidden"
  | binary => "binary"
  | event => "event"
  | eventPath => "event_path"
  | platforms => "platforms"
  | matrix => "matrix"
  | extraArgs => "extra_args"
  | preflightSeconds => "preflight_timeout_secs"
  | runSeconds => "run_timeout_secs"
  | forbiddenSignatures => "forbidden_signatures"
  | optInVariable => "opt_in_var"
  | optInToken => "opt_in_token"

/-- The kind of the values of a setting. -/
def kind : Setting σ → Kind
  | path | eventPath => .path
  | lookup => .order
  | metadataSeconds | preflightSeconds | runSeconds => .seconds
  | required | forbidden | platforms | extraArgs | forbiddenSignatures => .texts
  | matrix => .map
  | job | key | cargo | binary | event | optInVariable | optInToken => .text

/-- The value of a setting in its section. -/
def get : (k : Setting σ) → σ.Record → k.kind.Value
  | path, r => r.path
  | job, r => r.job
  | key, r => r.key
  | lookup, r => r.order
  | cargo, r => r.buildTool
  | metadataSeconds, r => r.metadataSeconds
  | required, r => r.required
  | forbidden, r => r.forbidden
  | binary, r => r.program
  | event, r => r.event
  | eventPath, r => r.eventPath
  | platforms, r => r.platforms
  | matrix, r => r.matrix
  | extraArgs, r => r.extraArgs
  | preflightSeconds, r => r.preflightSeconds
  | runSeconds, r => r.runSeconds
  | forbiddenSignatures, r => r.forbiddenSignatures
  | optInVariable, r => r.optInVariable
  | optInToken, r => r.optInToken

/-- A section with another value of a setting. -/
def set : (k : Setting σ) → σ.Record → k.kind.Value → σ.Record
  | path, r, v => { r with path := v }
  | job, r, v => { r with job := v }
  | key, r, v => { r with key := v }
  | lookup, r, v => { r with order := v }
  | cargo, r, v => { r with buildTool := v }
  | metadataSeconds, r, v => { r with metadataSeconds := v }
  | required, r, v => { r with required := v }
  | forbidden, r, v => { r with forbidden := v }
  | binary, r, v => { r with program := v }
  | event, r, v => { r with event := v }
  | eventPath, r, v => { r with eventPath := v }
  | platforms, r, v => { r with platforms := v }
  | matrix, r, v => { r with matrix := v }
  | extraArgs, r, v => { r with extraArgs := v }
  | preflightSeconds, r, v => { r with preflightSeconds := v }
  | runSeconds, r, v => { r with runSeconds := v }
  | forbiddenSignatures, r, v => { r with forbiddenSignatures := v }
  | optInVariable, r, v => { r with optInVariable := v }
  | optInToken, r, v => { r with optInToken := v }

/-- The documented default of a setting. -/
def documented : (k : Setting σ) → k.kind.Value
  | path => ⟨".github/workflows/rolling-release.yml"⟩
  | job => "build-lints"
  | key => "LINT_CRATES"
  | lookup => .rootFirst
  | cargo => "cargo"
  | metadataSeconds => (120 : Nat)
  | required => []
  | forbidden => []
  | binary => "act"
  | event => "workflow_dispatch"
  | eventPath => ⟨"tests/workflows/fixtures/workflow_dispatch.rolling-release.event.json"⟩
  | platforms => ["ubuntu-latest=catthehacker/ubuntu:act-latest"]
  | matrix => ⟨[("os", "ubuntu-latest"), ("target", "x86_64-unknown-linux-gnu")], by decide⟩
  | extraArgs => ["--json", "--bind"]
  | preflightSeconds => (60 : Nat)
  | runSeconds => (3600 : Nat)
  | forbiddenSignatures => ["cannot specify features for packages outside of workspace"]
  | optInVariable => "ACT_WORKFLOW_TESTS"
  | optInToken => "1"

/-- The value of a setting. -/
def value (k : Setting σ) (s : Settings) : k.kind.Value :=
  k.get (σ.get s)

/-- A setting that is not given is as documented. -/
theorem value_default (k : Setting σ) : k.value {} = k.documented := by
  cases k <;> rfl

end Setting

namespace Section

/-- The settings of a section, in the order of its fields. -/
def settings : (σ : Section) → List (Setting σ)
  | workflow => [.path, .job, .key, .lookup]
  | workspace => [.cargo, .metadataSeconds]
  | policy => [.required, .forbidden]
  | emulator => [.binary, .event, .eventPath, .platforms, .matrix, .extraArgs, .preflightSeconds,
      .runSeconds, .forbiddenSignatures, .optInVariable, .optInToken]

/-- Every setting is one of its section. -/
theorem mem_settings {σ : Section} (k : Setting σ) : k ∈ σ.settings := by
  cases k <;> decide

/-- The settings of a section are listed once. -/
theorem nodup_settings (σ : Section) : σ.settings.Nodup := by
  cases σ <;> decide

/-- A section as a record of its settings. -/
def schema (σ : Section) : Schema σ.Record (Setting σ) fun k ↦ k.kind.Value where
  name := Setting.name
  read? k := k.kind.read?
  get := Setting.get
  set := Setting.set
  get_set_self k _ _ := by cases k <;> rfl
  get_set_of_ne {k other} _ _ hne := by
    cases k <;> cases other <;> first | rfl | exact absurd rfl hne

/-- The fields of a section serve its settings. -/
theorem serves_fields (σ : Section) : List.Forall₂ σ.schema.Serves σ.fields σ.settings := by
  have hfields : σ.fields = σ.settings.map fun k ↦
      .of (σ.schema.name k) (σ.schema.read? k) (σ.schema.set k) := by
    cases σ <;> rfl
  rw [hfields, List.forall₂_map_left_iff, List.forall₂_same]
  exact fun k _ ↦ σ.schema.serves_of k

/-- All sections, in order. -/
def all : List Section :=
  [workflow, workspace, policy, emulator]

/-- Every section is one of them. -/
theorem mem_all (σ : Section) : σ ∈ all := by
  cases σ <;> decide

/-- The section of settings of which none is given. -/
def start (σ : Section) : σ.Record :=
  σ.get {}

end Section

/-- Settings as a record of their sections. -/
def Settings.schema : Schema Settings Section Section.Record where
  name := Section.name
  read? σ := Schema.readRecord? σ.fields σ.start
  get := Section.get
  set := Section.set
  get_set_self σ _ _ := by cases σ <;> rfl
  get_set_of_ne {σ other} _ _ hne := by
    cases σ <;> cases other <;> first | rfl | exact absurd rfl hne

/-- Each field of settings reads a section. -/
theorem Settings.fields_eq : fields = Section.all.map fun σ ↦
    .ofRecord (schema.name σ) σ.fields σ.start (schema.set σ) := rfl

/-- The fields of settings serve the sections. -/
theorem Settings.serves_fields : List.Forall₂ schema.Serves fields Section.all := by
  rw [fields_eq, List.forall₂_map_left_iff, List.forall₂_same]
  exact fun σ _ ↦ schema.serves_ofRecord rfl

/-- No section changes the root. -/
theorem Section.root_set (σ : Section) (s : Settings) (r : σ.Record) :
    (σ.set s r).root = s.root := by
  cases σ <;> rfl

/-- Sections with the same value of every setting are the same. -/
theorem Section.ext_of_get {σ : Section} {r r' : σ.Record}
    (h : ∀ k : Setting σ, k.get r = k.get r') : r = r' := by
  cases σ with
  | workflow =>
      cases r
      cases r'
      exact WorkflowSettings.mk.injEq .. ▸ ⟨h .path, h .job, h .key, h .lookup⟩
  | workspace =>
      cases r
      cases r'
      exact WorkspaceSettings.mk.injEq .. ▸ ⟨h .cargo, h .metadataSeconds⟩
  | policy =>
      cases r
      cases r'
      exact CratePolicy.mk.injEq .. ▸ ⟨h .required, h .forbidden⟩
  | emulator =>
      cases r
      cases r'
      exact EmulatorSettings.mk.injEq .. ▸ ⟨h .binary, h .event, h .eventPath, h .platforms,
        h .matrix, h .extraArgs, h .preflightSeconds, h .runSeconds, h .forbiddenSignatures,
        h .optInVariable, h .optInToken⟩

/-- Settings with the same root and the same value of every setting are the same. -/
theorem Settings.ext_of_value {s t : Settings} (hroot : s.root = t.root)
    (h : ∀ (σ : Section) (k : Setting σ), k.value s = k.value t) : s = t := by
  have hsection (σ : Section) : σ.get s = σ.get t := Section.ext_of_get (h σ)
  cases s
  cases t
  exact Settings.mk.injEq .. ▸ ⟨hroot, hsection .workflow, hsection .workspace, hsection .policy,
    hsection .emulator⟩

end LintRoster
