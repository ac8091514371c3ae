import Reconcile.Gvk

/-!
# Notices

What a run reports while it goes on, by cause. `Notice.line` gives the level and the text.
-/

namespace Reconcile

/-- How much a notice matters. -/
inductive Level where
  | info | warn | error
deriving DecidableEq

/-- The name of a level at the start of a line. -/
def Level.name : Level → String
  | .info => "INFO"
  | .warn => "WARN"
  | .error => "ERROR"

/-- A report of a run. -/
inductive Notice where
  /-- An update begins. -/
  | updateBegins (objects : Nat) (dryRun : Bool)
  | updating (object : String) (dryRun : Bool)
  | creating (object : String) (dryRun : Bool)
  | deleting (object : String)
  | collecting (object apiVersion : String) (dryRun : Bool)
  | validating (object : String)
  /-- An object is skipped because the server does not serve its kind. -/
  | unknownKind (gvk : Gvk) (name : String)
  /-- The objects of a kind may not be listed. -/
  | unlistable (gvk : Gvk) (scope : Option String)
  /-- A snapshot that cannot be read counts as none. -/
  | unreadableSnapshot (name kind : String)
  /-- The server publishes no schema for a kind that it serves. -/
  | noSchema (apiVersion object : String)
  /-- An object does not fit its schema. -/
  | problem (object text : String)

namespace Notice

/-- How much a notice matters. -/
def level : Notice → Level
  | .unknownKind .. | .unlistable .. | .unreadableSnapshot .. | .noSchema .. => .warn
  | .problem .. => .error
  | _ => .info

/-- What marks a dry run at the end of a text. -/
def dryMark (dryRun : Bool) : String := if dryRun then " (dry-run)" else ""

/-- The text of a notice, its fields last. -/
def text : Notice → String
  | .updateBegins objects dryRun =>
    "updating objects=" ++ toString objects ++ " dry_run=" ++ (if dryRun then "true" else "false")
  | .updating object dryRun => "Updating " ++ object ++ dryMark dryRun
  | .creating object dryRun => "Creating non-existent " ++ object ++ dryMark dryRun
  | .deleting object => "Deleting " ++ object
  | .collecting object apiVersion dryRun =>
    "Garbage collecting " ++ object ++ " (" ++ apiVersion ++ ")"
      ++ (if dryRun then " dry_run=true" else "")
  | .validating object => "Validating " ++ object
  | .unknownKind gvk name => "skipping object of unknown kind gvk=" ++ gvk.text ++ " name=" ++ name
  | .unlistable gvk scope =>
    "cannot list objects, skipping gvk=" ++ gvk.text ++ " ns=" ++ scope.getD ""
  | .unreadableSnapshot name kind =>
    "ignoring undecodable last-applied snapshot name=" ++ name ++ " kind=" ++ kind
  | .noSchema apiVersion object =>
    "Skipping validation of known resource " ++ apiVersion ++ " " ++ object
      ++ " that lacks a registered schema"
  | .problem object text => "Error in " ++ object ++ ": " ++ text

/-- The level and the text. -/
def line (n : Notice) : String := n.level.name ++ " " ++ n.text

end Notice

end Reconcile
