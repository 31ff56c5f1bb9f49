import MailboxSync.Fault
import MailboxSync.Settings.Dotenv
import MailboxSync.Settings.Value
import MailboxSync.Text.Fold

/-!
# Settings

What can be set from outside, by variables of the environment or by a file of assignments; the environment goes first.
A name is matched in any case.  Every text that is no value of its setting is a problem, and `Settings.read` gives
either settings or all problems.
-/

namespace MailboxSync

/-- Where settings say that progress is kept. -/
inductive StateBackend where
  | sqlite
  | memory
  deriving DecidableEq, Repr, Inhabited

def StateBackend.name : StateBackend → String
  | .sqlite => "sqlite"
  | .memory => "memory"

def StateBackend.ofName (s : String) : Option StateBackend :=
  if s = "sqlite" then some .sqlite else if s = "memory" then some .memory else none

/-- What can be set. -/
structure Settings where
  appName : String := "Mailmirror"
  appVersion : String := "0.1.0"
  logLevel : String := "INFO"
  url : String := "https://localhost/EWS/Exchange.asmx"
  username : Option String := none
  password : Option String := none
  timeout : Binary64 := .ofDecimal false 60 0
  verifyTls : Bool := true
  syncUsers : String := ""
  syncRoots : String := "msgfolderroot"
  idPageSize : Int := 512
  itemPageSize : Int := 100
  maxFolderWorkers : Int := 4
  backend : StateBackend := .sqlite
  databasePath : String := "/app/data/mailmirror.db"
  pollMinutes : Int := 15
  deriving Repr, Inhabited

namespace Settings

def fields : List String := [
  "app_name", "app_version", "log_level", "ews_url", "ews_username", "ews_password", "ews_timeout_seconds",
  "ews_verify_tls", "sync_users", "sync_roots", "id_page_size", "item_page_size", "max_folder_workers",
  "state_backend", "state_db_path", "poll_interval_minutes"]

def users (s : Settings) : List String := Setting.listOf s.syncUsers

def roots (s : Settings) : List String := Setting.listOf s.syncRoots

/-- Texts of settings by the name of the setting. -/
abbrev Source := String → Option String

/-- The source of named texts, of which a later one goes first. -/
def Source.ofList (named : List (String × String)) : Source := fun field =>
  (named.reverse.find? fun e => Text.fold e.1 = field).map (·.2)

/-- The source that asks `first`, then `second`. -/
def Source.orElse (first second : Source) : Source := fun field =>
  match first field with
  | some text => some text
  | none => second field

/-- The value of a setting, its default if it is not set, or its problem. -/
def Source.value {α : Type} (source : Source) (field : String) (problem : SettingProblem) (read : String → Option α)
    (default : α) : Except (String × SettingProblem) α :=
  match source field with
  | none => .ok default
  | some text =>
    match read text with
    | some a => .ok a
    | none => .error (field, problem)

def problemOf {α : Type} : Except (String × SettingProblem) α → List (String × SettingProblem)
  | .ok _ => []
  | .error problem => [problem]

/-- The settings a source gives, or all problems. -/
def ofSource (source : Source) : Except Fault Settings :=
  let base : Settings := {}
  let text (field default : String) : String := (source field).getD default
  let integer (field : String) (default : Int) := source.value field .notInteger Setting.integerOf default
  let timeout := source.value "ews_timeout_seconds" .notFloat Setting.numberOf base.timeout
  let verifyTls := source.value "ews_verify_tls" .notBoolean Setting.truthOf base.verifyTls
  let idPageSize := integer "id_page_size" base.idPageSize
  let itemPageSize := integer "item_page_size" base.itemPageSize
  let maxFolderWorkers := integer "max_folder_workers" base.maxFolderWorkers
  let backend := source.value "state_backend" .notChoice StateBackend.ofName base.backend
  let pollMinutes := integer "poll_interval_minutes" base.pollMinutes
  match timeout, verifyTls, idPageSize, itemPageSize, maxFolderWorkers, backend, pollMinutes with
  | .ok timeout, .ok verifyTls, .ok idPageSize, .ok itemPageSize, .ok maxFolderWorkers, .ok backend,
    .ok pollMinutes =>
    .ok
      { appName := text "app_name" base.appName
        appVersion := text "app_version" base.appVersion
        logLevel := text "log_level" base.logLevel
        url := text "ews_url" base.url
        username := source "ews_username"
        password := source "ews_password"
        timeout, verifyTls
        syncUsers := text "sync_users" base.syncUsers
        syncRoots := text "sync_roots" base.syncRoots
        idPageSize, itemPageSize, maxFolderWorkers, backend
        databasePath := text "state_db_path" base.databasePath
        pollMinutes }
  | _, _, _, _, _, _, _ =>
    .error (.badSettings (problemOf timeout ++ problemOf verifyTls ++ problemOf idPageSize ++ problemOf itemPageSize ++
      problemOf maxFolderWorkers ++ problemOf backend ++ problemOf pollMinutes))

/-- The settings of an environment and of a file of assignments, if there is one. -/
def read (env : List (String × String)) (file : Option String) : Except Fault Settings :=
  let ofFile : Source :=
    match file with
    | none => fun _ => none
    | some text => fun field =>
      ((Dotenv.values env text).entries.reverse.find? fun e => Text.fold e.1 = field).bind (·.2)
  ofSource ((Source.ofList env).orElse ofFile)

end Settings

end MailboxSync
