import MailboxSync.Command.Basic
import MailboxSync.Sync.Worker

/-!
# The daemon

Runs a worker on the users of the settings until it is stopped.  Its exit code is 1 when there are no users or no
transport, else 0.
-/

namespace MailboxSync.Daemon

variable {τ : Type}

def banner (settings : Settings) (w : World τ Progress) : World τ Progress :=
  let rule := String.ofList (List.replicate 60 '=')
  ((w.note .info rule).note .info s!"{settings.appName} Sync Worker v{settings.appVersion}").note .info rule

def work (site : Site τ) (transport : Transport τ) (fuel : Nat) (settings : Settings) (bySignal : Bool)
    (pauses : Nat) (w : World τ Progress) : Commanded τ :=
  match settings.openStores w with
  | (.error fault, w) => some (.error fault, w)
  | (.ok backend, w) =>
    let e : Env τ Progress :=
      { transport, stores := backend.stores, config := settings.config, clock := site.clock }
    ((Worker.new settings.users settings.roots settings.pollMinutes).run e fuel bySignal pauses w).map
      fun (waits, _, w) => (.ok { exitCode := 0, waits }, w)

/-- Runs the daemon until it is stopped, at the latest by the pause number `pauses`. -/
def run (site : Site τ) (fuel : Nat) (settings : Except Fault Settings) (bySignal : Bool) (pauses : Nat)
    (w : World τ Progress) : Commanded τ :=
  match settings with
  | .error fault => some (.error fault, w)
  | .ok settings =>
    match settings.threshold with
    | .error fault => some (.error fault, w)
    | .ok _ =>
      let w := banner settings w
      if settings.users.isEmpty then
        some (.ok { exitCode := 1 }, w.note .error "No users configured! Set SYNC_USERS")
      else
        match site.connect settings.client with
        | .error fault =>
          let text := fault.message
          some (.ok { exitCode := 1 }, w.note .error s!"Failed to initialize transport: {text}")
        | .ok transport => work site transport fuel settings bySignal pauses w

end MailboxSync.Daemon
