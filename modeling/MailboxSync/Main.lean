import MailboxSync.Command.OneShot
import MailboxSync.Http.Transport

/-!
# The command line

The one-shot command on the words, the environment and the assignments in `.env`.  There is no network here: every
request finds the service unreachable, and progress begins empty.
-/

namespace MailboxSync

def offline : Site Unit where
  connect client := .ok (Http.transport none client.url fun s _ => (.unreachable "no network", false, s))

/-- The variables of the environment that hold settings. -/
def settingVariables : IO (List (String × String)) :=
  Settings.fields.filterMapM fun field => do
    let name := Text.upper field
    return (← IO.getEnv name).map fun text => (name, text)

/-- The text of the file of assignments, if it can be read. -/
def assignmentFile : IO (Option String) := do
  try
    return some (← IO.FS.readFile ".env")
  catch _ =>
    return none

/-- Shows the notes of a command and what it prints, and gives its exit code. -/
def report (result : Except Fault Outcome) (w : World Unit Progress) : IO UInt32 := do
  for event in w.events do
    if let .noted note := event then IO.eprintln note.text
  match result with
  | .error fault =>
    IO.eprintln fault.message
    return 1
  | .ok outcome =>
    IO.print outcome.output
    return UInt32.ofNat outcome.exitCode

/-- More rounds than a run without a network takes. -/
def rounds : Nat := 1073741824

def runOneShot (words : List String) : IO UInt32 := do
  let settings := Settings.read (← settingVariables) (← assignmentFile)
  match OneShot.run offline rounds settings words { remote := (), stores := {} } with
  | none => return 1
  | some (result, w) => report result w

end MailboxSync

/-- Runs the one-shot command on the words of the command line. -/
def main (words : List String) : IO UInt32 := MailboxSync.runOneShot words
