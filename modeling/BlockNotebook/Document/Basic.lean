import BlockNotebook.Notebook.Basic
import BlockNotebook.Document.Finding
import BlockNotebook.Yaml.Load
import BlockNotebook.Log.Record
/-!
Documents: projects of notebooks.
-/

namespace BlockNotebook

open Schema

structure Document where
  content : Checked
  deriving Inhabited

namespace Document

open Block (required requiredAs optional optionalAs)

def integrationShape : Shape :=
  .record "Integration" false [required "id" .text, required "name" .text, required "type" .text]

def environmentShape : Shape :=
  .record "EnvironmentSettings" false
    [optionalAs "custom_image" "customImage" .text, optionalAs "python_version" "pythonVersion" .text]

def settingsShape : Shape :=
  .record "ProjectSettings" false [
    optional "environment" environmentShape,
    optional "requirements" (.listOf .text),
    optionalAs "sql_cache_max_age" "sqlCacheMaxAge" .number]

def projectShape : Shape :=
  .record "Project" false [
    required "id" .text,
    required "name" .text,
    required "notebooks" (.listOf Notebook.shape),
    optionalAs "init_notebook_id" "initNotebookId" .text,
    optional "integrations" (.listOf integrationShape),
    optional "settings" settingsShape]

def metadataShape : Shape :=
  .record "FileMetadata" false [
    requiredAs "created_at" "createdAt" .text,
    optionalAs "exported_at" "exportedAt" .text,
    optionalAs "modified_at" "modifiedAt" .text,
    optional "checksum" .text]

/-- The shape of a document. Around the blocks, entries it does not know are dropped. -/
def shape : Shape :=
  .record "DeepnoteFile" false
    [required "version" .text, required "metadata" metadataShape, required "project" projectShape]

/-- The document that data describes, or all that is wrong with the data. -/
def read (v : Value) : Except (List Finding) Document :=
  match check shape v with
  | .ok c => .ok ⟨c⟩
  | .error is => .error (is.map Finding.ofIssue)

/-- What is logged when data is no document. -/
def refused (fs : List Finding) : Log.Record :=
  ⟨.debug, .documents, s!"Deepnote file failed validation with {fs.length} issue(s)"⟩

/-- Why a text is no document. -/
inductive Fault
  | yaml (fault : Yaml.Fault)
  | findings (fs : List Finding)

/-- The document that a YAML text describes. -/
def ofText (t : Text) : Except Fault Document :=
  match Yaml.loadPlain t with
  | .error f => .error (.yaml f)
  | .ok v => (read v).mapError .findings

def project (d : Document) : Checked := (d.content.record? "project").getD (.record [] [])

def notebooks (d : Document) : List Notebook :=
  ((d.project.items? "notebooks").getD []).map Notebook.mk

/-- The notebook that runs first, if one is named. -/
def initialNotebook? (d : Document) : Option Text := d.project.text? "initNotebookId"

/-! ## References -/

/-- Every id once, in the order of first occurrence. -/
def distinctIds (ids : List Text) : List Text := ids.eraseDups

def duplicate (id : Text) (count : Nat) : String :=
  "Duplicate notebook id " ++ Text.quote id ++ s!" ({count} notebooks)"

def dangling (id : Text) : String :=
  "initNotebookId " ++ Text.quote id ++ " does not match any notebook"

/-- Problems between the notebooks: ids that several have, and a first notebook that does not exist. -/
def problems (d : Document) : List String :=
  let ids := d.notebooks.map Notebook.id
  let repeated := (distinctIds ids).filterMap fun id =>
    let n := ids.count id
    if 1 < n then some (duplicate id n) else none
  repeated ++
    match d.initialNotebook? with
    | some id => if ids.contains id then [] else [dangling id]
    | none => []

end Document

end BlockNotebook
