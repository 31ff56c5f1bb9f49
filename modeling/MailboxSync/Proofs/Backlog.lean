import MailboxSync.Proofs.Run
import Mathlib.Data.List.Perm.Basic
import Mathlib.Logic.Relation

/-!
# Runs in any order

A folder comes into a slot, has its turns there, and its result is taken in.  Between any two of these others may move
and the caller may cancel, and results that wait may be taken in in any order.

* `Backlog` — a pool with the ends that wait; `Backlog.Steps` — everything that can happen to it next;
* `RunsLate` — what can come of a user's run.  Runs that move a folder on as soon as it is in its slot and take in
  every end at once are among them (`RunsLate.of_follow`), and so is `syncUser` (`runsLate_of_syncUser`);
* `Backlog.Inv` — every folder waits, is in a slot or has ended, as its exchanges and writes say; one step keeps this
  (`Backlog.Inv.step`), and so does any number (`Backlog.Inv.steps`);
* `RunsLate.cases` — a run that finds its folders brings each of them to an end and closes on these; every other run
  has found trouble in discovery and touched nothing.
-/

namespace MailboxSync

open Journal

variable {τ ς : Type} {e : Env τ ς} {user : User} {roots : List FolderId} {now : Option Stamp}
  {w w' w₀ : World τ ς}

/-! ## Starting a folder and its first turn -/

/-- Starts a folder short of its first turn: its token is read, and if the run has been stopped it is skipped. -/
def Task.enter (e : Env τ ς) (user : User) (stopped : Bool) (folder : FolderId) (w : World τ ς) :
    Move × World τ ς :=
  match w.readToken e.stores user folder with
  | (.error fault, w) => (.ended (.error fault), w)
  | (.ok stored, w) =>
    if stopped || w.cancelled then
      (.ended (.ok (.failed folder stored (.cancelled (.notStarted folder)))),
        w.note .debug s!"Folder {folder} for {user} skipped, run already stopped")
    else (.going { stored, paging := .start folder stored }, w)

theorem Task.start_eq (e : Env τ ς) (user : User) (stopped : Bool) (folder : FolderId) (w : World τ ς) :
    start e user stopped folder w =
      match enter e user stopped folder w with
      | (.going task, w) => task.step e user w
      | (.ended r, w) => (.ended r, w) := by
  unfold start enter
  rcases w.readToken e.stores user folder with ⟨fault | stored, w₁⟩
  · rfl
  · dsimp only
    split <;> rfl

/-- Everything a folder that comes into a slot can do. -/
inductive Task.Enters (e : Env τ ς) (user : User) (stopped : Bool) (folder : FolderId) (w : World τ ς) :
    Move → Prop
  | unread {fault : Fault} (h : e.stores.token w.stores user folder = .error fault) :
    Enters e user stopped folder w (.ended (.error fault))
  | skipped {stored : Token} {notes : List Note} (h : e.stores.token w.stores user folder = .ok (stored, notes))
    (hs : stopped = true ∨ w.cancelled = true) :
    Enters e user stopped folder w (.ended (.ok (.failed folder stored (.cancelled (.notStarted folder)))))
  | entered {stored : Token} {notes : List Note} (h : e.stores.token w.stores user folder = .ok (stored, notes)) :
    Enters e user stopped folder w (.going { stored, paging := .start folder stored })

theorem Task.enter_enters (e : Env τ ς) (user : User) (stopped : Bool) (folder : FolderId) (w : World τ ς) :
    Enters e user stopped folder w (enter e user stopped folder w).1 ∧
      w.Acts e [] (enter e user stopped folder w).2 := by
  unfold enter World.readToken
  cases h : e.stores.token w.stores user folder with
  | error fault => exact ⟨.unread h, .refl⟩
  | ok r =>
    have ha : w.Acts e [] (w.noteAll r.2) := World.Acts.refl.noteAll r.2
    have hc : (w.noteAll r.2).cancelled = w.cancelled := by simp [World.cancelled]
    dsimp only
    rw [hc]
    split
    · rename_i hs
      exact ⟨.skipped h (by simpa using hs), ha.note _⟩
    · exact ⟨.entered h, ha⟩

theorem Task.Enters.stands {stopped : Bool} {folder : FolderId} {ds : List Event} {move : Move}
    (hm : Task.Enters e user stopped folder w move) (hl : w₀.Leads e ds w) (hn : savedTokens user folder ds = []) :
    Stands e user w₀ folder [] [] move := by
  cases hm with
  | unread h => exact .unread hl h
  | skipped h _ => exact .skipped ⟨_, _, _, hl, hn, h⟩
  | entered h => exact .underway ⟨_, _, _, hl, hn, h⟩ .start

/-! ## What can happen to a pool whose ends wait -/

def Move.slot : Move → Option Task
  | .going task => some task
  | .ended _ => none

/-- Whether a folder has failed, and not by a cancellation. -/
def FolderResult.isCause (r : FolderResult) : Bool := r.error.any (!·.isCancelled)

/-- Whether a move stops the run before its end is taken in. -/
def Move.stops : Move → Bool
  | .ended (.ok r) => r.isCause
  | _ => false

theorem Pool.slots_settle (p : Pool) (i : Nat) (m : Move) : (p.settle i m).slots = p.slots.set i m.slot := by
  cases m <;> simp [settle, Move.slot]

/-- A pool, and the ends of folders that have not been taken in. -/
structure Backlog where
  pool : Pool
  late : Ends := []

namespace Backlog

/-- Puts the outcome of a move of slot `i` into the pool.  An end has to wait. -/
def settle (b : Backlog) (i : Nat) (folder : FolderId) (m : Move) : Backlog where
  pool := { b.pool with slots := b.pool.slots.set i m.slot, stopped := b.pool.stopped || m.stops }
  late := b.late ++ m.ends folder

@[simp] theorem late_settle (b : Backlog) (i : Nat) (folder : FolderId) (m : Move) :
    (b.settle i folder m).late = b.late ++ m.ends folder := rfl

/-- What can happen next: a folder that waits comes into an empty slot, a folder in a slot has a turn, an end is taken
in unless a fault has been, or the caller cancels. -/
inductive Steps (e : Env τ ς) (user : User) : Backlog × World τ ς → Backlog × World τ ς → Prop
  | enters {b : Backlog} {w : World τ ς} (i : Nat) (folder : FolderId) (queue : List FolderId)
    (hi : b.pool.slots[i]? = some none) (hq : b.pool.queue = folder :: queue) :
    Steps e user (b, w)
      ({ b with pool := { b.pool with queue } }.settle i folder (Task.enter e user b.pool.stopped folder w).1,
        (Task.enter e user b.pool.stopped folder w).2)
  | turns {b : Backlog} {w : World τ ς} (i : Nat) (task : Task) (hi : b.pool.slots[i]? = some (some task)) :
    Steps e user (b, w) (b.settle i task.paging.folder (task.step e user w).1, (task.step e user w).2)
  | takes {b : Backlog} {w : World τ ς} (i : Nat) (hi : i < b.late.length) (hf : b.pool.fault = none) :
    Steps e user (b, w) ({ pool := b.pool.take b.late[i].2, late := b.late.eraseIdx i }, w)
  | cancels {b : Backlog} {w : World τ ς} : Steps e user (b, w) (b, w.trip)

theorem Steps.deeds {b b' : Backlog} (hs : Steps e user (b, w) (b', w')) :
    ∃ ds, w.Leads e ds w' ∧ (ds = [] ∨ ∃ task move, Task.Moves e user task w ds move) := by
  cases hs with
  | enters i folder queue _ _ =>
    obtain ⟨-, ha⟩ := Task.enter_enters e user b.pool.stopped folder w
    exact ⟨[], ha.leads, .inl rfl⟩
  | turns i task _ =>
    obtain ⟨ds, hm, ha⟩ := Task.step_moves e user task w
    exact ⟨ds, ha.leads, .inr ⟨task, _, hm⟩⟩
  | takes _ _ _ => exact ⟨[], .refl, .inl rfl⟩
  | cancels => exact ⟨[], World.Leads.refl.trip, .inl rfl⟩

theorem active_settle (b : Backlog) (i : Nat) (folder : FolderId) (m : Move) :
    (b.settle i folder m).pool.active = (b.pool.settle i m).active := by
  simp [Pool.active, Pool.slots_settle, Backlog.settle]

/-! ## The folders of a backlog -/

/-- A backlog with the census of its folders, of whose ends those of `taken` have been taken in. -/
structure Inv (e : Env τ ς) (user : User) (w₀ : World τ ς) (folders : List FolderId) (ds : List Event)
    (b : Backlog) (w : World τ ς) (taken : Ends) : Prop where
  leads : w₀.Leads e ds w
  census : Census e user w₀ folders ds [] b.pool.queue b.pool.active (taken ++ b.late)
  took : b.pool.Took (taken.map (·.2))

namespace Inv

variable {folders : List FolderId} {folder : FolderId} {ds ds' : List Event} {b b' : Backlog} {taken : Ends} {i : Nat}
  {move : Move}

theorem ofFolders (user : User) (workers : Nat) (hl : w₀.Leads e ds w) (hn : folders.Nodup) (hq : Quiet ds) :
    Inv e user w₀ folders ds ⟨.ofFolders workers folders, []⟩ w [] := by
  obtain ⟨hleads, hcensus, htook⟩ := Pool.Inv.ofFolders user workers hl hn hq
  exact ⟨hleads, hcensus, htook⟩

theorem enter (h : Inv e user w₀ folders ds b w taken) {queue : List FolderId} (hi : b.pool.slots[i]? = some none)
    (hq : b.pool.queue = folder :: queue) (hm : Task.Enters e user b.pool.stopped folder w move) (ha : w.Acts e [] w') :
    Inv e user w₀ folders ds ({ b with pool := { b.pool with queue } }.settle i folder move) w' taken := by
  obtain ⟨rest, hactive, hsettle⟩ := Pool.active_settle (p := { b.pool with queue }) hi
  have hc : Census e user w₀ folders ds [] (folder :: queue) rest (taken ++ b.late) :=
    (hq ▸ h.census).perm_active hactive
  obtain ⟨hx, ht⟩ := hc.waiting folder List.mem_cons_self
  have hs := hm.stands h.leads ht
  have hnext := hc.hold_queue.release .nil (by simpa [hx, ht] using hs)
  rw [List.append_nil] at hnext
  refine ⟨by simpa using h.leads.trans ha.leads, ?_, h.took⟩
  rw [active_settle]
  simpa [Backlog.settle] using hnext.perm_active (hsettle _).symm

theorem turn (h : Inv e user w₀ folders ds b w taken) {task : Task} (hi : b.pool.slots[i]? = some (some task))
    (hm : Task.Moves e user task w ds' move) (ha : w.Acts e ds' w') :
    About user task.paging.folder ds' ∧
      Inv e user w₀ folders (ds ++ ds') (b.settle i task.paging.folder move) w' taken := by
  obtain ⟨rest, hactive, hsettle⟩ := Pool.active_settle hi
  have hc : Census e user w₀ folders ds [] b.pool.queue (task :: rest) (taken ++ b.late) :=
    h.census.perm_active hactive
  obtain ⟨about, hs⟩ := hm.stands h.leads (hc.active task List.mem_cons_self)
  have hnext := hc.hold_active.release about hs
  refine ⟨about, h.leads.trans ha.leads, ?_, h.took⟩
  rw [active_settle]
  simpa [Backlog.settle] using hnext.perm_active (hsettle _).symm

theorem take (h : Inv e user w₀ folders ds b w taken) (hi : i < b.late.length) :
    Inv e user w₀ folders ds ⟨b.pool.take b.late[i].2, b.late.eraseIdx i⟩ w (taken ++ [b.late[i]]) := by
  have hends : (taken ++ b.late).Perm (taken ++ [b.late[i]] ++ b.late.eraseIdx i) := by
    rw [List.append_assoc, List.singleton_append]
    exact (List.getElem_cons_eraseIdx_perm hi).symm.append_left taken
  refine ⟨h.leads, ?_, by simpa using h.took.take b.late[i].2⟩
  simpa [Pool.active] using h.census.perm_ends hends

theorem step (h : Inv e user w₀ folders ds b w taken) (hs : Steps e user (b, w) (b', w')) :
    ∃ ds' taken', Inv e user w₀ folders (ds ++ ds') b' w' (taken ++ taken') := by
  cases hs with
  | enters i folder queue hi hq =>
    obtain ⟨hm, ha⟩ := Task.enter_enters e user b.pool.stopped folder w
    exact ⟨[], [], by simpa using h.enter hi hq hm ha⟩
  | turns i task hi =>
    obtain ⟨ds', hm, ha⟩ := Task.step_moves e user task w
    exact ⟨ds', [], by simpa using (h.turn hi hm ha).2⟩
  | takes i hi _ => exact ⟨[], [b.late[i]], by simpa using h.take hi⟩
  | cancels => exact ⟨[], [], by simpa using ⟨h.leads.trip, h.census, h.took⟩⟩

theorem steps (h : Inv e user w₀ folders ds b w taken) (hs : Relation.ReflTransGen (Steps e user) (b, w) (b', w')) :
    ∃ ds' taken', Inv e user w₀ folders (ds ++ ds') b' w' (taken ++ taken') := by
  generalize hlast : (b', w') = s at hs
  induction hs generalizing b' w' with
  | refl =>
    cases hlast
    exact ⟨[], [], by simpa using h⟩
  | @tail s _ _ hstep ih =>
    subst hlast
    obtain ⟨ds₁, taken₁, h₁⟩ := ih rfl
    obtain ⟨ds₂, taken₂, h₂⟩ := h₁.step hstep
    exact ⟨ds₁ ++ ds₂, taken₁ ++ taken₂, by simpa using h₂⟩

theorem ends_perm (h : Inv e user w₀ folders ds b w taken) (hi : b.pool.idle = true) :
    ((taken ++ b.late).map (·.1)).Perm folders := by
  obtain ⟨hq, ha⟩ := Pool.idle_iff.mp hi
  simpa [hq, ha] using h.census.parts

theorem took_all (h : Inv e user w₀ folders ds b w taken) (hl : b.pool.fault = none → b.late = []) :
    b.pool.Took ((taken ++ b.late).map (·.2)) := by
  cases hf : b.pool.fault with
  | none =>
    rw [hl hf, List.append_nil]
    exact h.took
  | some fault =>
    have htook := h.took
    unfold Pool.Took at htook ⊢
    simp only [hf] at htook ⊢
    rw [List.map_append]
    exact List.mem_append_left _ htook

theorem ran {folders : FolderSet} {result : Except Fault Report} (h : Inv e user w₀ folders ds b w taken)
    (hsorted : folders.Pairwise (· < ·)) (hi : b.pool.idle = true)
    (hc : Closes e roots now user w ((taken ++ b.late).map (·.2)) ds' result) :
    Ran e roots now user w₀ folders (taken ++ b.late) (ds ++ ds') result where
  sorted := hsorted
  all := h.ends_perm hi
  stands := by
    intro x hmem
    rw [exchanges_append, savedTokens_append, (hc.elsewhere user x.1).1, (hc.elsewhere user x.1).2, List.append_nil,
      List.append_nil]
    exact h.census.ended x hmem
  elsewhere := by
    intro u f hn
    rw [exchanges_append, savedTokens_append, (hc.elsewhere u f).1, (hc.elsewhere u f).2, List.append_nil,
      List.append_nil]
    exact h.census.elsewhere u f hn
  closes := ⟨w, ds, ds', h.leads, h.census.savedWatermarks, hc, rfl⟩

end Inv

end Backlog

/-! ## Pools that take in every end at once -/

/-- A pool that takes in every end at once: nothing waits before a fault, and a fault has stopped it. -/
structure Backlog.Prompt (b : Backlog) : Prop where
  late : b.pool.fault = none → b.late = []
  stopped : b.pool.fault.isSome = true → b.pool.stopped = true

theorem Pool.stopped_take {p : Pool} (h : p.fault.isSome = true → p.stopped = true) (r : Except Fault FolderResult) :
    (p.take r).fault.isSome = true → (p.take r).stopped = true := by
  intro hf
  unfold take at hf ⊢
  split
  · rename_i hfault
    exact h (by rw [hfault]; rfl)
  · rfl
  · rename_i r hfault
    unfold accept at hf ⊢
    split
    · simp_all
    · rfl

theorem Pool.take_stopping {p : Pool} (h : p.fault = none) (r : Except Fault FolderResult) :
    { p with stopped := p.stopped || (Move.ended r).stops }.take r = p.take r := by
  cases r with
  | error fault => simp [take, h]
  | ok r =>
    simp only [take, h, accept, Move.stops, FolderResult.isCause]
    cases r.error <;> simp

namespace Backlog

variable {b : Backlog}

/-- To settle a pool is to let an end wait and take it in at once, unless a fault has been taken in before. -/
theorem Prompt.settle (h : b.Prompt) (e : Env τ ς) (user : User) (i : Nat) (folder : FolderId) (m : Move)
    (w : World τ ς) :
    ∃ late, Relation.ReflTransGen (Steps e user) (b.settle i folder m, w) (⟨b.pool.settle i m, late⟩, w) ∧
      (⟨b.pool.settle i m, late⟩ : Backlog).Prompt := by
  obtain ⟨p, late⟩ := b
  obtain ⟨hlate, hstopped⟩ := h
  dsimp only at hstopped hlate
  cases m with
  | going task =>
    have hsettle : (⟨p, late⟩ : Backlog).settle i folder (.going task) = ⟨p.settle i (.going task), late⟩ := by
      simp [Backlog.settle, Pool.settle, Move.slot, Move.stops, Move.ends]
    rw [hsettle]
    exact ⟨late, .refl, hlate, hstopped⟩
  | ended r =>
    let vacated : Pool := { p with slots := p.slots.set i none }
    have hprompt : (vacated.take r).fault.isSome = true → (vacated.take r).stopped = true :=
      Pool.stopped_take (p := vacated) hstopped r
    cases hf : p.fault with
    | some fault =>
      have hp : p.stopped = true := hstopped (by rw [hf]; rfl)
      have htake : vacated.take r = vacated := by simp [Pool.take, vacated, hf]
      have hsettle : (⟨p, late⟩ : Backlog).settle i folder (.ended r) =
          ⟨p.settle i (.ended r), late ++ [(folder, r)]⟩ := by
        change _ = (⟨vacated.take r, _⟩ : Backlog)
        rw [htake]
        simp [Backlog.settle, Move.slot, Move.ends, vacated, hp]
      rw [hsettle]
      refine ⟨_, .refl, fun hnone => ?_, hprompt⟩
      change (vacated.take r).fault = none at hnone
      rw [htake, hf] at hnone
      cases hnone
    | none =>
      obtain rfl := hlate hf
      have htake := Pool.take_stopping (p := vacated) hf r
      refine ⟨[], .single ?_, fun _ => rfl, hprompt⟩
      change Steps e user _ (⟨vacated.take r, []⟩, w)
      rw [← htake]
      exact .takes (b := (⟨p, []⟩ : Backlog).settle i folder (.ended r)) 0 Nat.one_pos hf

theorem Prompt.occupied (h : b.Prompt) {i : Nat} (hi : i < b.pool.slots.length) (folder : FolderId) (task : Task) :
    (b.settle i folder (.going task)).Prompt ∧
      (b.settle i folder (.going task)).pool.slots[i]? = some (some task) ∧
      ∀ m, (b.settle i folder (.going task)).pool.settle i m = b.pool.settle i m := by
  have hpool : (b.settle i folder (.going task)).pool = { b.pool with slots := b.pool.slots.set i (some task) } := by
    simp [Backlog.settle, Move.slot, Move.stops]
  have hlate : (b.settle i folder (.going task)).late = b.late := by simp [Backlog.settle, Move.ends]
  refine ⟨⟨by rw [hpool, hlate]; exact h.late, by rw [hpool]; exact h.stopped⟩, ?_, fun m => ?_⟩
  · rw [hpool]
    exact List.getElem?_set_self hi
  · rw [hpool]
    cases m <;> simp [Pool.settle]

/-- A visit of a slot that takes in every end at once is something that can happen to ends that wait. -/
theorem Prompt.visit (h : b.Prompt) (e : Env τ ς) (user : User) (i : Nat) (w : World τ ς) :
    ∃ late, Relation.ReflTransGen (Steps e user) (b, w)
        (⟨(Pool.visit e user i (b.pool, w)).1, late⟩, (Pool.visit e user i (b.pool, w)).2) ∧
      (⟨(Pool.visit e user i (b.pool, w)).1, late⟩ : Backlog).Prompt := by
  cases hi : b.pool.slots[i]? with
  | none =>
    rw [Pool.visit_absent hi]
    exact ⟨b.late, .refl, h⟩
  | some x =>
    cases x with
    | some task =>
      rw [Pool.visit_task hi]
      obtain ⟨late, hsteps, hprompt⟩ := h.settle e user i task.paging.folder
        (task.step e user w).1 (task.step e user w).2
      exact ⟨late, .head (.turns i task hi) hsteps, hprompt⟩
    | none =>
      cases hq : b.pool.queue with
      | nil =>
        rw [Pool.visit_empty hi hq]
        exact ⟨b.late, .refl, h⟩
      | cons folder queue =>
        rw [Pool.visit_start hi hq, Task.start_eq]
        have henters : Steps e user (b, w) _ := .enters i folder queue hi hq
        have hqueued : ({ b with pool := { b.pool with queue } } : Backlog).Prompt := ⟨h.late, h.stopped⟩
        generalize Task.enter e user b.pool.stopped folder w = r at henters
        obtain ⟨move, w₁⟩ := r
        cases move with
        | ended r =>
          obtain ⟨late, hsteps, hprompt⟩ := hqueued.settle e user i folder (.ended r) w₁
          exact ⟨late, .head henters hsteps, hprompt⟩
        | going task =>
          -- the folder comes into its slot, and there it has its first turn
          obtain ⟨hprompt₁, hslot, hsettle⟩ := hqueued.occupied (List.getElem?_eq_some_iff.mp hi).1 folder task
          obtain ⟨late, hsteps, hprompt⟩ := hprompt₁.settle e user i task.paging.folder
            (task.step e user w₁).1 (task.step e user w₁).2
          rw [hsettle] at hsteps hprompt
          exact ⟨late, .head henters (.head (.turns i task hslot) hsteps), hprompt⟩

theorem Prompt.follow (h : b.Prompt) (e : Env τ ς) (user : User) (schedule : List Nat) (w : World τ ς) :
    ∃ late, Relation.ReflTransGen (Steps e user) (b, w)
        (⟨(Pool.follow e user schedule (b.pool, w)).1, late⟩, (Pool.follow e user schedule (b.pool, w)).2) ∧
      (⟨(Pool.follow e user schedule (b.pool, w)).1, late⟩ : Backlog).Prompt := by
  induction schedule generalizing b w with
  | nil => exact ⟨b.late, .refl, h⟩
  | cons i schedule ih =>
    obtain ⟨late, hsteps, hprompt⟩ := h.visit e user i w
    obtain ⟨late', hsteps', hprompt'⟩ := ih hprompt (Pool.visit e user i (b.pool, w)).2
    exact ⟨late', hsteps.trans hsteps', hprompt'⟩

end Backlog

/-! ## Runs -/

/-- What can come of a user's run, in whatever order the slots of its pool move and ends are taken in, and whenever the
caller cancels.  After a fault the ends that wait are left where they are. -/
inductive RunsLate (e : Env τ ς) (roots : List FolderId) (now : Option Stamp) (user : User) (w : World τ ς) :
    Except Fault Report × World τ ς → Prop
  | undiscovered {failure : Failure} {w' : World τ ς}
    (h : discoverAll e.transport user roots [] w = (.error (.failure failure), w')) :
    RunsLate e roots now user w (.ok { user, roots, error := some failure }, w')
  | broken {fault : Fault} {w' : World τ ς}
    (h : discoverAll e.transport user roots [] w = (.error (.fault fault), w')) :
    RunsLate e roots now user w (.error fault, w')
  | ran {folders : FolderSet} {w₁ w₂ : World τ ς} {b : Backlog}
    (h : discoverAll e.transport user roots [] w = (.ok folders, w₁))
    (hs : Relation.ReflTransGen (Backlog.Steps e user) (⟨.ofFolders e.config.maxFolderWorkers folders, []⟩, w₁)
    (b, w₂)) (hi : b.pool.idle = true) (hl : b.pool.fault = none → b.late = []) :
    RunsLate e roots now user w (concludeRun e { user, roots } folders.length now b.pool w₂)

theorem RunsLate.of_follow {folders : FolderSet} {w₁ w₂ : World τ ς} {p : Pool}
    (hd : discoverAll e.transport user roots [] w = (.ok folders, w₁)) {schedule : List Nat}
    (hp : Pool.follow e user schedule (.ofFolders e.config.maxFolderWorkers folders, w₁) = (p, w₂))
    (hi : p.idle = true) :
    RunsLate e roots now user w (concludeRun e { user, roots } folders.length now p w₂) := by
  have hprompt : (⟨.ofFolders e.config.maxFolderWorkers folders, []⟩ : Backlog).Prompt :=
    ⟨fun _ => rfl, fun hfault => by cases hfault⟩
  obtain ⟨late, hsteps, hlast⟩ := hprompt.follow e user schedule w₁
  rw [hp] at hsteps hlast
  exact .ran hd hsteps hi hlast.late

theorem runsLate_of_syncUser {fuel : Nat} {out : Except Fault Report × World τ ς}
    (h : syncUser e fuel roots now user w = some out) : RunsLate e roots now user w out := by
  unfold syncUser at h
  split at h
  · rename_i hd
    cases h
    exact .broken hd
  · rename_i hd
    cases h
    exact .undiscovered hd
  · rename_i folders w₁ hd
    obtain ⟨⟨p, w₂⟩, hp, rfl⟩ := Option.map_eq_some_iff.mp h
    obtain ⟨schedule, hs, hi⟩ := Pool.follow_of_drive hp
    exact .of_follow hd hs.symm hi

theorem RunsLate.through {out : Except Fault Report × World τ ς} {folders : FolderSet}
    (h : RunsLate e roots now user w out) (hd : (discoverAll e.transport user roots [] w).1 = .ok folders) :
    ∃ w₁ w₂ b, discoverAll e.transport user roots [] w = (.ok folders, w₁) ∧
      Relation.ReflTransGen (Backlog.Steps e user) (⟨.ofFolders e.config.maxFolderWorkers folders, []⟩, w₁)
        (b, w₂) ∧ b.pool.idle = true ∧ (b.pool.fault = none → b.late = []) ∧
      out = concludeRun e { user, roots } folders.length now b.pool w₂ := by
  cases h with
  | undiscovered h =>
    rw [h] at hd
    cases hd
  | broken h =>
    rw [h] at hd
    cases hd
  | @ran found w₁ w₂ b h hs hi hlate =>
    rw [h] at hd
    obtain rfl : found = folders := Except.ok.inj hd
    exact ⟨w₁, w₂, b, h, hs, hi, hlate, rfl⟩

/-- In the run whose slots move in turn nothing happens but what it does by itself. -/
theorem syncUser_acts {fuel : Nat} {out : Except Fault Report × World τ ς}
    (h : syncUser e fuel roots now user w = some out) : ∃ ds, w.Acts e ds out.2 := by
  obtain ⟨ds₁, ha₁, hq⟩ := discoverAll_acts e user roots [] w
  unfold syncUser at h
  split at h
  · rename_i hd
    cases h
    rw [hd] at ha₁
    exact ⟨ds₁, ha₁⟩
  · rename_i hd
    cases h
    rw [hd] at ha₁
    exact ⟨ds₁, ha₁⟩
  · rename_i folders w₁ hd
    rw [hd] at ha₁
    obtain ⟨⟨p, w₂⟩, hp, rfl⟩ := Option.map_eq_some_iff.mp h
    obtain ⟨schedule, hs, -⟩ := Pool.follow_of_drive hp
    obtain ⟨ds₂, ha₂⟩ := Pool.follow_acts e user schedule (.ofFolders e.config.maxFolderWorkers folders) w₁
    have hnodup := FolderSet.nodup_of_sorted (discoverAll_sorted List.Pairwise.nil hd)
    obtain ⟨_, ends, hinv⟩ :=
      (Pool.Inv.ofFolders user e.config.maxFolderWorkers ha₁.leads hnodup hq).follow schedule
    rw [← hs] at ha₂ hinv
    obtain ⟨ds₃, -, ha₃⟩ := concludeRun_closes e roots now user hinv.took folders.length w₂
    exact ⟨ds₁ ++ ds₂ ++ ds₃, (ha₁.trans ha₂).trans ha₃⟩

/-- Either discovery meets with trouble and the run ends there, or the run goes through its folders. -/
theorem RunsLate.cases {result : Except Fault Report} (h : RunsLate e roots now user w (result, w')) :
    ∃ ds, w.Leads e ds w' ∧
      ((∃ trouble, (discoverAll e.transport user roots [] w).1 = .error trouble ∧ Quiet ds ∧
          result = resultOfTrouble user roots trouble) ∨
        ∃ folders ends, (discoverAll e.transport user roots [] w).1 = .ok folders ∧
          Ran e roots now user w folders ends ds result) := by
  obtain ⟨ds₁, ha₁, hq⟩ := discoverAll_acts e user roots [] w
  generalize hout : (result, w') = out at h
  cases h with
  | undiscovered hd =>
    cases hout
    rw [hd] at ha₁
    exact ⟨ds₁, ha₁.leads, .inl ⟨_, by rw [hd], hq, rfl⟩⟩
  | broken hd =>
    cases hout
    rw [hd] at ha₁
    exact ⟨ds₁, ha₁.leads, .inl ⟨_, by rw [hd], hq, rfl⟩⟩
  | @ran folders w₁ w₂ b hd hs hi hlate =>
    rw [hd] at ha₁
    have hsorted := discoverAll_sorted List.Pairwise.nil hd
    obtain ⟨ds₂, taken, hinv⟩ := (Backlog.Inv.ofFolders user e.config.maxFolderWorkers ha₁.leads
      (FolderSet.nodup_of_sorted hsorted) hq).steps hs
    rw [List.nil_append] at hinv
    obtain ⟨ds₃, hc, ha₃⟩ := concludeRun_closes e roots now user (hinv.took_all hlate) folders.length w₂
    rw [← hout] at hc ha₃
    exact ⟨ds₁ ++ ds₂ ++ ds₃, hinv.leads.trans ha₃.leads,
      .inr ⟨folders, _, by rw [hd], hinv.ran hsorted hi hc⟩⟩

end MailboxSync
