import LintRoster.FileSystem
import LintRoster.Error
import LintRoster.Settings
import LintRoster.Toml.Document

/-!
# Reading settings

Settings are read from the tables of a document, one field at a time. A field that is missing keeps
its default, an entry under an unknown name is ignored, and a value of the wrong type is refused. A
section may also be given as an array of its fields in order.
-/

namespace LintRoster

open Toml (Entries Item)

/-- A field of a record: its name, and how a value of the field changes the record. -/
structure Field (α : Type) where
  name : String
  put : Item → α → Except Toml.Fault α

namespace Field

variable {α β : Type}

/-- A field with values of a type. Values are read by `read?`. -/
def of (name : String) (read? : Item → Option β) (set : α → β → α) : Field α :=
  ⟨name, fun item a =>
    match read? item with
    | none => .error (.unexpectedValue name)
    | some b => .ok (set a b)⟩

/-- Sets the fields that a table has. -/
def putEntries (es : Entries) : List (Field α) → α → Except Toml.Fault α
  | [], a => .ok a
  | field :: fields, a =>
    match es.get? field.name with
    | none => putEntries es fields a
    | some item =>
      match field.put item a with
      | .error fault => .error fault
      | .ok a => putEntries es fields a

/-- Sets fields in order from the items of an array. Items that are left over are ignored. -/
def putItems : List Item → List (Field α) → α → Except Toml.Fault α
  | item :: items, field :: fields, a =>
    match field.put item a with
    | .error fault => .error fault
    | .ok a => putItems items fields a
  | _, _, a => .ok a

/-- A record from a table or from an array. A moment has none of the fields. -/
def record (fields : List (Field α)) (start : α) : Item → Option (Except Toml.Fault α)
  | .table _ es => some (putEntries es fields start)
  | .array _ items => some (putItems items fields start)
  | .moment _ => some (.ok start)
  | _ => none

/-- A field whose value is a record. -/
def ofRecord (name : String) (fields : List (Field β)) (start : β) (set : α → β → α) : Field α :=
  ⟨name, fun item a =>
    match record fields start item with
    | none => .error (.unexpectedValue name)
    | some (.error fault) => .error fault
    | some (.ok b) => .ok (set a b)⟩

end Field

namespace Toml.Item

/-- The text of a string. -/
def text? : Item → Option String
  | .string s => some s
  | _ => none

/-- The path that a string gives. -/
def path? (item : Item) : Option Path :=
  item.text?.map Path.mk

/-- A number of seconds: an integer that is not negative. -/
def seconds? : Item → Option Nat
  | .integer n => if n < 0 then none else some n.toNat
  | _ => none

/-- The texts of strings. -/
def textsOf? : List Item → Option (List String)
  | [] => some []
  | item :: items =>
    match item.text? with
    | none => none
    | some s => (textsOf? items).map (s :: ·)

/-- The texts of an array of strings. -/
def texts? : Item → Option (List String)
  | .array _ items => textsOf? items
  | _ => none

/-- The texts of entries. -/
def entryTexts? : Entries → Option (List (String × String))
  | [] => some []
  | (name, item) :: rest =>
    match item.text? with
    | none => none
    | some s => (entryTexts? rest).map ((name, s) :: ·)

/-- The name under which the text of a moment stands where a table is expected. -/
def momentName : String := "$__toml_private_datetime"

/-- The map that a table of strings gives. -/
def map? : Item → Option (NameMap String)
  | .table _ es => (entryTexts? es).map NameMap.ofList
  | .moment text => some (.ofList [(momentName, text)])
  | _ => none

/-- The order of a lookup that a word names. -/
def orderOf? (word : String) : Option LookupOrder :=
  if word == "root-first" then some .rootFirst
  else if word == "job-first" then some .jobFirst
  else none

/-- Whether an item is a table or an array without content. -/
def isEmptyCollection : Item → Bool
  | .table _ es => es.isEmpty
  | .array _ items => items.isEmpty
  | _ => false

/-- The order of a lookup: a word, or a table with this word as its only name and nothing under
it. -/
def order? : Item → Option LookupOrder
  | .string word => orderOf? word
  | .table _ [(word, item)] => if item.isEmptyCollection then orderOf? word else none
  | _ => none

end Toml.Item

/-- The fields of the settings of the workflow, in order. -/
def WorkflowSettings.fields : List (Field WorkflowSettings) :=
  [.of "path" Item.path? fun s path => { s with path },
   .of "job" Item.text? fun s job => { s with job },
   .of "key" Item.text? fun s key => { s with key },
   .of "lookup" Item.order? fun s order => { s with order }]

/-- The fields of the settings of the workspace, in order. -/
def WorkspaceSettings.fields : List (Field WorkspaceSettings) :=
  [.of "cargo" Item.text? fun s buildTool => { s with buildTool },
   .of "metadata_timeout_secs" Item.seconds? fun s metadataSeconds => { s with metadataSeconds }]

/-- The fields of a policy, in order. -/
def CratePolicy.fields : List (Field CratePolicy) :=
  [.of "required" Item.texts? fun s required => { s with required },
   .of "forbidden" Item.texts? fun s forbidden => { s with forbidden }]

/-- The fields of the settings of the emulator, in order. -/
def EmulatorSettings.fields : List (Field EmulatorSettings) :=
  [.of "binary" Item.text? fun s program => { s with program },
   .of "event" Item.text? fun s event => { s with event },
   .of "event_path" Item.path? fun s eventPath => { s with eventPath },
   .of "platforms" Item.texts? fun s platforms => { s with platforms },
   .of "matrix" Item.map? fun s matrix => { s with matrix },
   .of "extra_args" Item.texts? fun s extraArgs => { s with extraArgs },
   .of "preflight_timeout_secs" Item.seconds? fun s preflightSeconds => { s with preflightSeconds },
   .of "run_timeout_secs" Item.seconds? fun s runSeconds => { s with runSeconds },
   .of "forbidden_signatures" Item.texts? fun s forbiddenSignatures =>
      { s with forbiddenSignatures },
   .of "opt_in_var" Item.text? fun s optInVariable => { s with optInVariable },
   .of "opt_in_token" Item.text? fun s optInToken => { s with optInToken }]

namespace Settings

/-- The sections of the settings, in order. -/
def fields : List (Field Settings) :=
  [.ofRecord "workflow" WorkflowSettings.fields {} fun s workflow => { s with workflow },
   .ofRecord "workspace" WorkspaceSettings.fields {} fun s workspace => { s with workspace },
   .ofRecord "policy" CratePolicy.fields {} fun s policy => { s with policy },
   .ofRecord "emulator" EmulatorSettings.fields {} fun s emulator => { s with emulator }]

/-- The settings in the entries of a document. The root of the workspace is left empty. -/
def ofEntries (es : Entries) : Except Toml.Fault Settings :=
  Field.putEntries es fields {}

/-- The settings in a text. -/
def ofText? (text : String) : Except Toml.Fault Settings :=
  match Toml.document? text with
  | .error fault => .error fault
  | .ok es => ofEntries es

/-- Reads settings from a text. -/
def parse (text : String) : Except Error Settings :=
  match ofText? text with
  | .error fault => .error (.config (.unreadable fault.message))
  | .ok s => .ok s

/-- The name of the file with the settings of a workspace. -/
def fileName : Path := ⟨"workflow-contract.toml"⟩

/-- Reads the settings of a workspace from a file. -/
def loadFile (fs : FileSystem) (root path : Path) : Except Error Settings :=
  match fs.readText path with
  | .error fault => .error (.io fault)
  | .ok text =>
    match ofText? text with
    | .error fault => .error (.config (.unreadableFile path fault.message))
    | .ok s => .ok { s with root }

/-- Reads the settings of a workspace from the file at its root. Without that file they are the
default ones. -/
def load (fs : FileSystem) (root : Path) : Except Error Settings :=
  let path := root.join fileName
  if fs.pathExists path then loadFile fs root path else .ok (new root)

end Settings

end LintRoster
