import MailboxSync.Proofs.Backlog
import MailboxSync.Proofs.Requests

/-!
# A pool nobody cancels

* `Pool.Failed` — a folder has ended in trouble and the pool has taken it in; then the pool is stopped, and a folder
  in a slot has asked for something (`Pool.Sound`);
* `PagedOut` — exchanges whose last one brought the final page or trouble;
* `Undisturbed` — as long as nobody cancels, a folder that has ended has paged out, or has asked for nothing because
  the pool was stopped or its token could not be read; and a pool is stopped by trouble that a folder met with itself.

A turn keeps both (`Pool.Sound.turn`, `Pool.Inv.undisturbed`), and the second is kept by everything that can happen to
ends that wait (`Backlog.Inv.steps_undisturbed`).  That nobody cancels is asked of the world afterwards: an event that
is not set then was not set before.
-/

namespace MailboxSync

open Journal

/-- The last of the exchanges brought the final page or trouble. -/
def PagedOut (xs : List SyncExchange) : Prop :=
  ∃ ys x, xs = ys ++ [x] ∧ ∀ page, Page.read x.1.token x.2 = .ok page → page.last = true

/-- The folder was left out, since the run had been stopped. -/
def Skipped (folder : FolderId) (r : Except Fault FolderResult) : Prop :=
  ∃ stored, r = .ok (.failed folder stored (.cancelled (.notStarted folder)))

/-- The end of a folder that did not end well. -/
def Troubled (r : Except Fault FolderResult) : Prop := ∀ result, r = .ok result → result.ok = false

theorem PagedOut.ne_nil {xs : List SyncExchange} (h : PagedOut xs) : xs ≠ [] := by
  obtain ⟨ys, x, rfl, -⟩ := h
  simp

theorem Skipped.troubled {folder : FolderId} {r : Except Fault FolderResult} (h : Skipped folder r) : Troubled r := by
  obtain ⟨stored, rfl⟩ := h
  rintro result hr
  cases hr
  rfl

theorem Skipped.error_eq {folder : FolderId} {result : FolderResult} (h : Skipped folder (.ok result)) :
    result.error = some (.cancelled (.notStarted folder)) := by
  obtain ⟨stored, hr⟩ := h
  rw [Except.ok.inj hr]
  rfl

section Ends

variable {τ ς : Type} {e : Env τ ς} {user : User} {w : World τ ς} {folder : FolderId} {ds : List Event}

/-! ## What one turn can bring when nobody cancels -/

/-- A folder that ends has asked, and got the final page or trouble. -/
theorem Task.Moves.pagedOut {task : Task} {r : Except Fault FolderResult} (h : Task.Moves e user task w ds (.ended r))
    (hc : w.cancelled = false) (xs : List SyncExchange) :
    PagedOut (xs ++ exchanges user task.paging.folder ds) := by
  have hx : exchanges user task.paging.folder [.asked user (.sync (task.request e)) (task.outcome e user w)] =
      [(task.request e, task.outcome e user w)] := by
    rw [exchanges_asked, if_pos ⟨rfl, rfl⟩]
  cases h with
  | cancelled hc' =>
    rw [hc] at hc'
    cases hc'
  | failed _ ho =>
    refine ⟨xs, _, by rw [hx], fun page hpage => ?_⟩
    cases ho.symm.trans hpage
  | broken _ ho =>
    refine ⟨xs, _, by rw [hx], fun page hpage => ?_⟩
    cases ho.symm.trans hpage
  | finished _ ho hlast =>
    rw [← List.singleton_append, exchanges_append, hx, exchanges_saved, List.append_nil]
    refine ⟨xs, _, rfl, fun page hpage => ?_⟩
    cases ho.symm.trans hpage
    exact hlast
  | unsaved _ ho hlast _ =>
    refine ⟨xs, _, by rw [hx], fun page hpage => ?_⟩
    cases ho.symm.trans hpage
    exact hlast

theorem Task.Starts.quiet_of_stopped {move : Move} (h : Task.Starts e user true folder w ds move) : ds = [] := by
  cases h with
  | unread _ => rfl
  | skipped _ _ => rfl
  | begun _ hs _ => cases hs

theorem Task.Starts.ended {stopped : Bool} {r : Except Fault FolderResult}
    (h : Task.Starts e user stopped folder w ds (.ended r)) (hc : w.cancelled = false) :
    PagedOut (exchanges user folder ds) ∨
      ds = [] ∧ ((∃ fault, r = .error fault) ∨ (stopped = true ∧ Skipped folder r)) := by
  cases h with
  | unread _ => exact .inr ⟨rfl, .inl ⟨_, rfl⟩⟩
  | @skipped stored _ _ hs =>
    rcases hs with hs | hs
    · exact .inr ⟨rfl, .inr ⟨hs, stored, rfl⟩⟩
    · rw [hc] at hs
      cases hs
  | begun _ _ hm =>
    refine .inl ?_
    simpa [Paging.start] using hm.pagedOut (by simpa [World.cancelled] using hc) []

end Ends

namespace Pool

variable {τ ς : Type} {e : Env τ ς} {user : User} {w₀ w w' : World τ ς} {folders : List FolderId}
  {folder : FolderId} {ds ds' : List Event} {p p' : Pool} {ends : Ends} {move : Move}

/-! ## A stopped pool -/

/-- A folder has ended in trouble, and the pool has taken it in. -/
def Failed (p : Pool) : Prop := p.fault.isSome = true ∨ ∃ r ∈ p.results, r.ok = false

/-- What is true of every pool on its way. -/
structure Sound (p : Pool) : Prop where
  asked : ∀ t ∈ p.active, 0 < t.paging.requests
  stopped : p.Failed → p.stopped = true

theorem Sound.ofFolders (workers : Nat) (folders : List FolderId) : Sound (ofFolders workers folders) where
  asked := by simp [Pool.ofFolders, Pool.active]
  stopped := by
    rintro (h | ⟨r, hr, -⟩)
    · cases h
    · cases hr

/-- Taking in an end leaves the pool stopped if it was stopped before, and else only if the end is one in trouble. -/
theorem take_stopped (p : Pool) (r : Except Fault FolderResult) :
    (p.stopped = true → (p.take r).stopped = true) ∧
      ((p.take r).stopped = true → p.stopped = true ∨ Troubled r) := by
  cases hf : p.fault with
  | some fault =>
    have htake : p.take r = p := by simp [take, hf]
    rw [htake]
    exact ⟨id, .inl⟩
  | none =>
    cases r with
    | error fault =>
      have htake : p.take (.error fault) = { p with fault := some fault, stopped := true } := by simp [take, hf]
      rw [htake]
      refine ⟨fun _ => rfl, fun _ => .inr fun result hr => ?_⟩
      cases hr
    | ok r =>
      have htake : p.take (.ok r) = p.accept r := by simp [take, hf]
      rw [htake]
      unfold accept
      cases hr : r.error with
      | none => exact ⟨id, .inl⟩
      | some failure =>
        refine ⟨fun _ => rfl, fun _ => .inr fun result hresult => ?_⟩
        cases hresult
        simp [FolderResult.ok, hr]

/-- A pool that is stopped once it has failed is so when it has taken in another end. -/
theorem take_failed (h : p.Failed → p.stopped = true) (r : Except Fault FolderResult) :
    (p.take r).Failed → (p.take r).stopped = true := by
  cases hf : p.fault with
  | some fault =>
    have htake : p.take r = p := by simp [take, hf]
    rw [htake]
    exact h
  | none =>
    cases r with
    | error fault =>
      have htake : p.take (.error fault) = { p with fault := some fault, stopped := true } := by simp [take, hf]
      rw [htake]
      exact fun _ => rfl
    | ok r =>
      have htake : p.take (.ok r) = p.accept r := by simp [take, hf]
      rw [htake]
      unfold accept
      cases hr : r.error with
      | none =>
        refine fun hfailed => h ?_
        rcases hfailed with hfault | ⟨q, hq, hok⟩
        · exact .inl hfault
        · rcases List.mem_append.mp hq with hq | hq
          · exact .inr ⟨q, hq, hok⟩
          · obtain rfl := List.mem_singleton.mp hq
            simp [FolderResult.ok, hr] at hok
      | some failure => exact fun _ => rfl

theorem settle_stopped (p : Pool) (i : Nat) (m : Move) :
    (p.stopped = true → (p.settle i m).stopped = true) ∧
      ((p.settle i m).stopped = true → p.stopped = true ∨ ∃ r, m = .ended r ∧ Troubled r) := by
  cases m with
  | going next => exact ⟨id, .inl⟩
  | ended r =>
    obtain ⟨hkeep, hcause⟩ := take_stopped { p with slots := p.slots.set i none } r
    exact ⟨hkeep, fun hs => (hcause hs).imp id fun h => ⟨r, rfl, h⟩⟩

theorem active_of_settle {i : Nat} {x : Option Task} (hi : p.slots[i]? = some x) {t : Task}
    (ht : t ∈ (p.settle i move).active) : t ∈ move.tasks ∨ t ∈ p.active := by
  obtain ⟨rest, hactive, hsettle⟩ := active_settle hi
  rcases List.mem_append.mp ((hsettle move).mem_iff.mp ht) with ht | ht
  · exact .inl ht
  · exact .inr (hactive.mem_iff.mpr (List.mem_append_right _ ht))

theorem Sound.settle (h : Sound p) {i : Nat} {x : Option Task} (hi : p.slots[i]? = some x)
    (hm : ∀ next, move = .going next → 0 < next.paging.requests) : Sound (p.settle i move) where
  asked := by
    intro t ht
    rcases active_of_settle hi ht with ht | ht
    · cases move with
      | going next =>
        obtain rfl := List.mem_singleton.mp ht
        exact hm _ rfl
      | ended r => cases ht
    · exact h.asked t ht
  stopped := by
    cases move with
    | going next => exact h.stopped
    | ended r => exact take_failed (p := { p with slots := p.slots.set i none }) h.stopped r

theorem Sound.turn (h : Sound p) (ht : Turns e user p w folder ds move p' w') : Sound p' := by
  cases ht with
  | goesOn hi hm _ =>
    refine h.settle hi fun next hnext => ?_
    subst hnext
    rw [hm.going.2]
    exact Nat.succ_pos _
  | @begins i _ queue _ _ _ hi _ hm _ =>
    have hrest : Sound { p with queue } := ⟨h.asked, h.stopped⟩
    refine hrest.settle hi fun next hnext => ?_
    subst hnext
    rw [hm.going.2]
    exact Nat.one_pos

theorem Turns.of_stopped (ht : Turns e user p w folder ds move p' w') (hs : p.stopped = true) :
    p'.stopped = true ∧ ((∃ task ∈ p.active, task.paging.folder = folder) ∨ ds = []) := by
  cases ht with
  | @goesOn i task _ _ _ hi _ _ =>
    exact ⟨(p.settle_stopped i move).1 hs,
      .inl ⟨task, List.mem_filterMap.mpr ⟨_, List.mem_of_getElem? hi, rfl⟩, rfl⟩⟩
  | @begins i _ queue _ _ _ _ _ hm _ =>
    rw [hs] at hm
    exact ⟨(settle_stopped { p with queue } i move).1 hs, .inr hm.quiet_of_stopped⟩

end Pool

/-! ## Nobody cancels -/

section Calm

variable {τ ς : Type} {e : Env τ ς} {user : User} {w₀ w w' : World τ ς} {folders : List FolderId}
  {folder : FolderId} {ds ds' : List Event} {stopped stopped' : Bool} {ends ends' : Ends} {move : Move}

/-- What is true of a pool on its way, stopped or not, as long as nobody cancels, by the ends its folders have come
to. -/
structure Undisturbed (user : User) (ds : List Event) (stopped : Bool) (ends : Ends) : Prop where
  ended : ∀ x ∈ ends, PagedOut (exchanges user x.1 ds) ∨
    exchanges user x.1 ds = [] ∧ ((∃ fault, x.2 = .error fault) ∨ stopped = true ∧ Skipped x.1 x.2)
  cause : stopped = true →
    ∃ x ∈ ends, (∃ fault, x.2 = .error fault) ∨ PagedOut (exchanges user x.1 ds) ∧ Troubled x.2

theorem Undisturbed.nil (user : User) (ds : List Event) : Undisturbed user ds false [] where
  ended := by simp
  cause h := by cases h

/-- The end a move of a folder brings about, among all ends. -/
theorem Undisturbed.add (h : Undisturbed user ds stopped ends) (hother : ∀ x ∈ ends, x.1 ≠ folder)
    (about : About user folder ds') (hkeep : stopped = true → stopped' = true)
    (hcause : stopped' = true → stopped = true ∨ ∃ r, move = .ended r ∧ Troubled r)
    (hend : ∀ r, move = .ended r → PagedOut (exchanges user folder (ds ++ ds')) ∨
      exchanges user folder (ds ++ ds') = [] ∧
        ((∃ fault, r = .error fault) ∨ stopped = true ∧ Skipped folder r)) :
    Undisturbed user (ds ++ ds') stopped' (ends ++ move.ends folder) := by
  have hx : ∀ x ∈ ends, exchanges user x.1 (ds ++ ds') = exchanges user x.1 ds := fun x hmem => by
    rw [exchanges_append, about.exchanges user x.1 fun heq => hother x hmem heq.2, List.append_nil]
  have hcause' : stopped = true → ∃ x ∈ ends ++ move.ends folder,
      (∃ fault, x.2 = .error fault) ∨ PagedOut (exchanges user x.1 (ds ++ ds')) ∧ Troubled x.2 := by
    intro hs
    obtain ⟨x, hmem, hx'⟩ := h.cause hs
    rw [← hx x hmem] at hx'
    exact ⟨x, List.mem_append_left _ hmem, hx'⟩
  refine ⟨fun x hmem => ?_, fun hs => ?_⟩
  · rcases List.mem_append.mp hmem with hmem | hmem
    · rw [hx x hmem]
      exact (h.ended x hmem).imp id (.imp id (.imp id (.imp hkeep id)))
    · cases move with
      | going next => cases hmem
      | ended r =>
        obtain rfl := List.mem_singleton.mp hmem
        exact (hend r rfl).imp id (.imp id (.imp id (.imp hkeep id)))
  · rcases hcause hs with hs | ⟨r, rfl, htrouble⟩
    · exact hcause' hs
    · have hmem : (folder, r) ∈ ends ++ (Move.ended r).ends folder := List.mem_append_right _ List.mem_cons_self
      rcases hend r rfl with hout | ⟨-, hfault | ⟨hs, -⟩⟩
      · exact ⟨_, hmem, .inr ⟨hout, htrouble⟩⟩
      · exact ⟨_, hmem, .inl hfault⟩
      · exact hcause' hs

theorem Undisturbed.take (h : Undisturbed user ds stopped ends) (hends : ends'.Perm ends)
    (hkeep : stopped = true → stopped' = true)
    (hcause : stopped' = true → stopped = true ∨ ∃ x ∈ ends, Troubled x.2) :
    Undisturbed user ds stopped' ends' := by
  refine ⟨fun x hmem => (h.ended x (hends.mem_iff.mp hmem)).imp id (.imp id (.imp id (.imp hkeep id))),
    fun hs => ?_⟩
  have hcause' : stopped = true → ∃ x ∈ ends',
      (∃ fault, x.2 = .error fault) ∨ PagedOut (exchanges user x.1 ds) ∧ Troubled x.2 := by
    intro hs
    obtain ⟨x, hmem, hx⟩ := h.cause hs
    exact ⟨x, hends.mem_iff.mpr hmem, hx⟩
  rcases hcause hs with hs | ⟨x, hmem, htrouble⟩
  · exact hcause' hs
  · have hx := hends.mem_iff.mpr hmem
    rcases h.ended x hmem with hout | ⟨-, hfault | ⟨hs, -⟩⟩
    · exact ⟨x, hx, .inr ⟨hout, htrouble⟩⟩
    · exact ⟨x, hx, .inl hfault⟩
    · exact hcause' hs

end Calm

namespace Pool.Inv

variable {τ ς : Type} {e : Env τ ς} {user : User} {w₀ w w' : World τ ς} {folders : List FolderId}
  {folder : FolderId} {ds ds' : List Event} {p p' : Pool} {ends : Ends} {move : Move}

theorem undisturbed (hi : Inv e user w₀ folders ds p w ends) (h : Undisturbed user ds p.stopped ends)
    (ht : Turns e user p w folder ds' move p' w') (hc : w'.cancelled = false) :
    Undisturbed user (ds ++ ds') p'.stopped (ends ++ move.ends folder) := by
  have hcw : w.cancelled = false := ht.leads.uncancelled hc
  obtain ⟨hkeep, hcause⟩ : (p.stopped = true → p'.stopped = true) ∧
      (p'.stopped = true → p.stopped = true ∨ ∃ r, move = .ended r ∧ Troubled r) := by
    cases ht with
    | @goesOn i _ _ _ _ _ _ _ => exact p.settle_stopped i move
    | @begins i _ queue _ _ _ _ _ _ _ => exact settle_stopped { p with queue } i move
  refine h.add (hi.not_ended ht) (hi.turn ht).1 hkeep hcause ?_
  · rintro r rfl
    cases ht with
    | goesOn _ hm _ =>
      rw [exchanges_append]
      exact .inl (hm.pagedOut hcw _)
    | begins _ hq hm _ =>
      have hnil : exchanges user folder ds = [] := (hi.census.waiting folder (by simp [hq])).1
      rw [exchanges_append, hnil, List.nil_append]
      rcases hm.ended hcw with hout | ⟨rfl, hr⟩
      · exact .inl hout
      · exact .inr ⟨rfl, hr⟩

theorem follow_undisturbed (hi : Inv e user w₀ folders ds p w ends) (hs : Sound p)
    (hu : w.cancelled = false → Undisturbed user ds p.stopped ends) (schedule : List Nat) :
    ∃ ds' ends', Inv e user w₀ folders (ds ++ ds') (Pool.follow e user schedule (p, w)).1
        (Pool.follow e user schedule (p, w)).2 (ends ++ ends') ∧
      Sound (Pool.follow e user schedule (p, w)).1 ∧
      ((Pool.follow e user schedule (p, w)).2.cancelled = false →
        Undisturbed user (ds ++ ds') (Pool.follow e user schedule (p, w)).1.stopped (ends ++ ends')) := by
  refine follow_induction (P := fun p w => ∃ ds' ends', Inv e user w₀ folders (ds ++ ds') p w (ends ++ ends') ∧
    Sound p ∧ (w.cancelled = false → Undisturbed user (ds ++ ds') p.stopped (ends ++ ends')))
    ?_ ⟨[], [], by simpa using hi, hs, by simpa using hu⟩ schedule
  rintro p w folder ds₂ move p' w' ⟨ds₁, ends₁, hi, hs, hu⟩ ht
  refine ⟨ds₁ ++ ds₂, ends₁ ++ move.ends folder, by simpa using (hi.turn ht).2, hs.turn ht, fun hc => ?_⟩
  simpa using hi.undisturbed (hu (ht.leads.uncancelled hc)) ht hc

end Pool.Inv

namespace Backlog

variable {τ ς : Type} {e : Env τ ς} {user : User} {w₀ w w' : World τ ς} {folders : List FolderId}
  {ds : List Event} {b b' : Backlog} {taken : Ends}

theorem settle_stopped (b : Backlog) (i : Nat) (folder : FolderId) (m : Move) :
    (b.pool.stopped = true → (b.settle i folder m).pool.stopped = true) ∧
      ((b.settle i folder m).pool.stopped = true → b.pool.stopped = true ∨ ∃ r, m = .ended r ∧ Troubled r) := by
  refine ⟨fun hs => by simp [Backlog.settle, hs], fun hs => ?_⟩
  rcases (Bool.or_eq_true _ _).mp hs with hs | hm
  · exact .inl hs
  · cases m with
    | going next => cases hm
    | ended r =>
      cases r with
      | error fault => cases hm
      | ok result =>
        refine .inr ⟨_, rfl, fun q hq => ?_⟩
        cases hq
        cases hr : result.error with
        | none => simp [Move.stops, FolderResult.isCause, hr] at hm
        | some failure => simp [FolderResult.ok, hr]

/-- Whatever happens next, the pool stays undisturbed as long as nobody cancels. -/
theorem Inv.step_undisturbed (h : Inv e user w₀ folders ds b w taken)
    (hu : w.cancelled = false → Undisturbed user ds b.pool.stopped (taken ++ b.late))
    (hs : Steps e user (b, w) (b', w')) :
    ∃ ds' taken', Inv e user w₀ folders (ds ++ ds') b' w' (taken ++ taken') ∧
      (w'.cancelled = false → Undisturbed user (ds ++ ds') b'.pool.stopped (taken ++ taken' ++ b'.late)) := by
  obtain ⟨_, hl, -⟩ := hs.deeds
  have hcw : w'.cancelled = false → w.cancelled = false := hl.uncancelled
  cases hs with
  | enters i folder queue hi hq =>
    obtain ⟨hm, ha⟩ := Task.enter_enters e user b.pool.stopped folder w
    generalize Task.enter e user b.pool.stopped folder w = out at hm ha hcw
    obtain ⟨move, w₁⟩ := out
    dsimp only at hm ha hcw
    refine ⟨[], [], by simpa using h.enter hi hq hm ha, fun hc => ?_⟩
    have hwaits : folder ∈ b.pool.queue := by simp [hq]
    have hnil : exchanges user folder ds = [] := (h.census.waiting folder hwaits).1
    have hend : ∀ r, move = .ended r → PagedOut (exchanges user folder (ds ++ [])) ∨
        exchanges user folder (ds ++ []) = [] ∧
          ((∃ fault, r = .error fault) ∨ b.pool.stopped = true ∧ Skipped folder r) := by
      rintro r rfl
      rw [List.append_nil, hnil]
      cases hm with
      | unread _ => exact .inr ⟨rfl, .inl ⟨_, rfl⟩⟩
      | skipped _ hs => exact .inr ⟨rfl, .inr ⟨hs.resolve_right (by simp [hcw hc]), _, rfl⟩⟩
    obtain ⟨hkeep, hcause⟩ := settle_stopped { b with pool := { b.pool with queue } } i folder move
    simpa using (hu (hcw hc)).add (h.census.not_ended (.inl hwaits)) .nil hkeep hcause hend
  | turns i task hi =>
    obtain ⟨ds', hm, ha⟩ := Task.step_moves e user task w
    obtain ⟨about, hinv⟩ := h.turn hi hm ha
    refine ⟨ds', [], by simpa using hinv, fun hc => ?_⟩
    have hmoves : task.paging.folder ∈ b.pool.active.map (·.paging.folder) :=
      List.mem_map_of_mem (List.mem_filterMap.mpr ⟨_, List.mem_of_getElem? hi, rfl⟩)
    obtain ⟨hkeep, hcause⟩ := b.settle_stopped i task.paging.folder (task.step e user w).1
    have hnext := (hu (hcw hc)).add (h.census.not_ended (.inr hmoves)) about hkeep hcause fun r hr => by
      rw [hr] at hm
      rw [exchanges_append]
      exact .inl (hm.pagedOut (hcw hc) _)
    simpa using hnext
  | takes i hi _ =>
    refine ⟨[], [b.late[i]], by simpa using h.take hi, fun hc => ?_⟩
    obtain ⟨hkeep, hcause⟩ := b.pool.take_stopped b.late[i].2
    have hends : (taken ++ [b.late[i]] ++ b.late.eraseIdx i).Perm (taken ++ b.late) := by
      rw [List.append_assoc, List.singleton_append]
      exact (List.getElem_cons_eraseIdx_perm hi).append_left taken
    rw [List.append_nil]
    exact (hu hc).take hends hkeep fun hs => (hcause hs).imp id fun htrouble =>
      ⟨_, List.mem_append_right _ (List.getElem_mem hi), htrouble⟩
  | cancels =>
    exact ⟨[], [], by simpa using ⟨h.leads.trip, h.census, h.took⟩, fun hc => by simpa using hu (hcw hc)⟩

theorem Inv.steps_undisturbed (h : Inv e user w₀ folders ds b w taken)
    (hu : w.cancelled = false → Undisturbed user ds b.pool.stopped (taken ++ b.late))
    (hs : Relation.ReflTransGen (Steps e user) (b, w) (b', w')) :
    ∃ ds' taken', Inv e user w₀ folders (ds ++ ds') b' w' (taken ++ taken') ∧
      (w'.cancelled = false → Undisturbed user (ds ++ ds') b'.pool.stopped (taken ++ taken' ++ b'.late)) := by
  generalize hlast : (b', w') = s at hs
  induction hs generalizing b' w' with
  | refl =>
    cases hlast
    exact ⟨[], [], by simpa using h, by simpa using hu⟩
  | @tail s _ _ hstep ih =>
    subst hlast
    obtain ⟨ds₁, taken₁, h₁, hu₁⟩ := ih rfl
    obtain ⟨ds₂, taken₂, h₂, hu₂⟩ := h₁.step_undisturbed hu₁ hstep
    exact ⟨ds₁ ++ ds₂, taken₁ ++ taken₂, by simpa using h₂, by simpa using hu₂⟩

end Backlog

end MailboxSync
