import Mathlib.Algebra.Order.BigOperators.Group.List
import Mathlib.Algebra.Order.Group.Nat
import MailboxSync.Proofs.Batch
import MailboxSync.Proofs.FailStop

/-!
# When calls return

* `Pool.moved_idle` — slots that move in turn come to rest if every turn on the way brings something down; what turns
  bring down is what is still to do (`Pool.toDo`), if each folder makes a bounded number of requests;
* `Pool.drive_of_cancelled` — a pool whose cancel event is set is driven to its end, since every turn ends a folder;
* `Pool.drive_or_paged` — a pool that is not driven to its end pages one of its folders for ever;
* `Endless` — a run with such a folder: the service has more of it after however many pages, and nobody cancels.  It
  does not return (`Endless.syncUser_eq_none`);
* `syncUser_returns`, `syncUsers_returns` — a call returns, or comes to such a user.
-/

namespace MailboxSync

/-! ## A pool that comes to rest -/

namespace Pool

variable {τ ς : Type} {e : Env τ ς} {user : User} {p p' : Pool} {w w' : World τ ς} {folder : FolderId}
  {ds : List Event} {move : Move}

theorem idle_of_rests (h : ∀ i < p.slots.length, p.Rests i) (hslots : 0 < p.slots.length) : p.idle = true := by
  have hslot : ∀ i < p.slots.length, p.slots[i]? = some none ∧ p.queue = [] := by
    intro i hi
    rcases h i hi with hnone | hrest
    · rw [List.getElem?_eq_none_iff] at hnone
      omega
    · exact hrest
  refine idle_iff.mpr ⟨(hslot 0 hslots).2, List.filterMap_eq_nil_iff.mpr fun x hx => ?_⟩
  obtain ⟨i, hi, rfl⟩ := List.mem_iff_getElem.mp hx
  have hempty := (hslot i hi).1
  rw [List.getElem?_eq_getElem hi] at hempty
  exact Option.some.inj hempty

/-- A pool and its world after so many moves in turn. -/
def moved (e : Env τ ς) (user : User) (p : Pool) (w : World τ ς) (n : Nat) : Pool × World τ ς :=
  follow e user (inTurn p.slots.length n) (p, w)

theorem moved_succ (n : Nat) :
    moved e user p w (n + 1) = visit e user (n % p.slots.length) (moved e user p w n) := by
  unfold moved
  rw [inTurn_add, follow_append]
  rfl

/-- Slots that move in turn come to rest, if every turn on the way brings something down. -/
theorem moved_idle {R : Pool → Nat} (hslots : 0 < p.slots.length)
    (hless : ∀ n {folder ds move p' w'},
      Turns e user (moved e user p w n).1 (moved e user p w n).2 folder ds move p' w' →
        R p' < R (moved e user p w n).1) :
    ∃ n, (moved e user p w n).1.idle = true := by
  -- after some move nothing is brought down any more, so nothing moves and every slot rests in its turn
  obtain ⟨m, hleast⟩ : ∃ m, ∀ n, R (moved e user p w m).1 ≤ R (moved e user p w n).1 := by
    obtain ⟨-, ⟨m, rfl⟩, hm⟩ :=
      WellFounded.has_min Nat.lt_wfRel.wf (Set.range fun n => R (moved e user p w n).1)
      (Set.range_nonempty _)
    exact ⟨m, fun n => Nat.le_of_not_lt (hm _ ⟨n, rfl⟩)⟩
  have hrest : ∀ k, moved e user p w (m + k) = moved e user p w m →
      (moved e user p w m).1.Rests ((m + k) % p.slots.length) ∧
        moved e user p w (m + k + 1) = moved e user p w m := by
    intro k hk
    have hsucc : moved e user p w (m + k + 1) = visit e user ((m + k) % p.slots.length) (moved e user p w (m + k)) :=
      moved_succ (m + k)
    rw [hk] at hsucc
    rcases visit_cases e user ((m + k) % p.slots.length) (moved e user p w m).1 (moved e user p w m).2 with
      ⟨hrests, hsame⟩ | ⟨folder, ds, move, ht⟩
    · exact ⟨hrests, hsucc.trans hsame⟩
    · have hdown := hless m ht
      have hup := hleast (m + k + 1)
      rw [hsucc] at hup
      exact absurd hdown (Nat.not_lt.mpr hup)
  have hsame : ∀ k, moved e user p w (m + k) = moved e user p w m := by
    intro k
    induction k with
    | zero => rfl
    | succ k ih => exact (hrest k ih).2
  have hlength : (moved e user p w m).1.slots.length = p.slots.length := slots_length_follow e user _ p w
  refine ⟨m, idle_of_rests (fun i hi => ?_) (by rw [hlength]; exact hslots)⟩
  obtain ⟨k, hk⟩ : ∃ k, m + k = p.slots.length * m + i := by
    obtain ⟨j, hj⟩ := Nat.exists_eq_add_of_le (Nat.le_mul_of_pos_left m hslots)
    exact ⟨j + i, by omega⟩
  have hturn := (hrest k (hsame k)).1
  rw [hk, Nat.mul_add_mod, Nat.mod_eq_of_lt (by omega)] at hturn
  exact hturn

/-- What a pool has still to do, when a folder makes so many requests in all. -/
def toDo (n : FolderId → Nat) (p : Pool) : Nat :=
  (p.queue.map fun f => n f + 1).sum + (p.active.map fun t => n t.paging.folder - t.paging.requests).sum

/-- Every turn brings that down, if no folder has made all its requests and goes on. -/
theorem Turns.toDo_lt {n : FolderId → Nat} (ht : Turns e user p w folder ds move p' w')
    (hn : ∀ t ∈ p.active, t.paging.requests < n t.paging.folder) : p'.toDo n < p.toDo n := by
  -- the other slots and the rest of the queue count as before
  have hsum : ∀ {ts ts' : List Task}, ts.Perm ts' →
      (ts.map fun t => n t.paging.folder - t.paging.requests).sum =
        (ts'.map fun t => n t.paging.folder - t.paging.requests).sum := fun h => (h.map _).sum_nat
  cases ht with
  | @goesOn i task _ _ _ hi hm _ =>
    obtain ⟨rest, hactive, hsettle⟩ := active_settle hi
    have hpos : task.paging.requests < n task.paging.folder :=
      hn task (hactive.mem_iff.mpr List.mem_cons_self)
    unfold toDo
    rw [queue_settle, hsum (hsettle move), hsum hactive]
    cases move with
    | going next =>
      obtain ⟨hfolder, hrequests⟩ := hm.going
      simp only [Move.tasks, Option.toList_some, List.singleton_append, List.map_cons, List.sum_cons,
        hfolder, hrequests]
      omega
    | ended r =>
      simp only [Move.tasks, Option.toList_some, List.nil_append, List.singleton_append, List.map_cons, List.sum_cons]
      omega
  | @begins i _ queue _ _ _ hi hq hm _ =>
    obtain ⟨rest, hactive, hsettle⟩ := active_settle (p := { p with queue }) hi
    have hsame : p.active = Pool.active { p with queue } := rfl
    unfold toDo
    rw [queue_settle, hsum (hsettle move), hsame, hsum hactive, hq]
    cases move with
    | going next =>
      have hfolder : next.paging.folder = folder := hm.going.1
      simp only [Move.tasks, Option.toList_none, List.nil_append, List.singleton_append, List.map_cons, List.sum_cons,
        hfolder]
      omega
    | ended r =>
      simp only [Move.tasks, Option.toList_none, List.nil_append, List.map_cons, List.sum_cons]
      omega

/-! ### Driving on -/

theorem drive_mono {m n : Nat} {s r : Pool × World τ ς} (hmn : m ≤ n) (h : drive e user m s = some r) :
    drive e user n s = some r := by
  induction m generalizing n s with
  | zero =>
    unfold drive at h
    split at h
    · rename_i hidle
      cases h
      cases n <;> simp [drive, hidle]
    · cases h
  | succ m ih =>
    obtain ⟨n, rfl⟩ : ∃ k, n = k + 1 := ⟨n - 1, by omega⟩
    unfold drive at h ⊢
    split
    · rename_i hidle
      rw [if_pos hidle] at h
      exact h
    · rename_i hidle
      rw [if_neg hidle] at h
      exact ih (by omega) h

theorem drive_of_rounds (n : Nat) {fuel : Nat}
    (h : (drive e user fuel (follow e user (inTurn p.slots.length (p.slots.length * n)) (p, w))).isSome) :
    ∃ fuel, (drive e user fuel (p, w)).isSome := by
  induction n generalizing p w with
  | zero => exact ⟨fuel, h⟩
  | succ n ih =>
    have hlength : (round e user (p, w)).1.slots.length = p.slots.length := slots_length_follow e user _ p w
    have hround : follow e user (List.range p.slots.length) (p, w) = round e user (p, w) := rfl
    rw [Nat.mul_succ, Nat.add_comm, inTurn_round, follow_append, hround, ← hlength] at h
    obtain ⟨fuel', hfuel⟩ := ih (p := (round e user (p, w)).1) (w := (round e user (p, w)).2) h
    refine ⟨fuel' + 1, ?_⟩
    unfold drive
    split
    · rfl
    · exact hfuel

theorem drive_of_idle {n : Nat} (hslots : 0 < p.slots.length) (h : (moved e user p w n).1.idle = true) :
    ∃ fuel, (drive e user fuel (p, w)).isSome := by
  -- after as many rounds the slots have moved as often and more
  obtain ⟨k, hk⟩ : ∃ k, p.slots.length * n = n + k := Nat.exists_eq_add_of_le (Nat.le_mul_of_pos_left n hslots)
  have hlater : (drive e user 0 (follow e user (inTurn p.slots.length (p.slots.length * n)) (p, w))).isSome := by
    rw [hk, inTurn_add, follow_append]
    change (drive e user 0 (follow e user _ (moved e user p w n))).isSome = true
    rw [follow_of_idle h]
    simp [drive, h]
  exact drive_of_rounds n hlater

theorem drive_isSome {P : Pool → World τ ς → Prop} {R : Pool → Nat}
    (step : ∀ {p w folder ds move p' w'}, P p w → Turns e user p w folder ds move p' w' → P p' w' ∧ R p' < R p)
    (h : P p w) (hslots : 0 < p.slots.length) : ∃ fuel, (drive e user fuel (p, w)).isSome := by
  have hmoved : ∀ n, P (moved e user p w n).1 (moved e user p w n).2 := fun n =>
    follow_induction (P := P) (fun hp ht => (step hp ht).1) h _
  obtain ⟨n, hn⟩ := moved_idle hslots fun n _ _ _ _ _ ht => (step (hmoved n) ht).2
  exact drive_of_idle hslots hn

/-! ### A cancelled pool -/

theorem Turns.ended_of_cancelled (ht : Turns e user p w folder ds move p' w') (hc : w.cancelled = true) :
    ∃ r, move = .ended r := by
  have hmoves : ∀ {task : Task} {v : World τ ς} {ds : List Event}, v.cancelled = true →
      Task.Moves e user task v ds move → ∃ r, move = .ended r := by
    intro task v ds hv hm
    cases hm with
    | paged hn _ _ =>
      rw [hv] at hn
      cases hn
    | _ => exact ⟨_, rfl⟩
  cases ht with
  | goesOn _ hm _ => exact hmoves hc hm
  | begins _ _ hm _ =>
    cases hm with
    | unread _ => exact ⟨_, rfl⟩
    | skipped _ _ => exact ⟨_, rfl⟩
    | begun _ _ hm => exact hmoves (by simpa [World.cancelled] using hc) hm

theorem Turns.active_of_ended {r : Except Fault FolderResult} (ht : Turns e user p w folder ds (.ended r) p' w') :
    ∀ t ∈ p'.active, t ∈ p.active := by
  intro t hmem
  cases ht with
  | goesOn hi _ _ => exact (active_of_settle hi hmem).resolve_left List.not_mem_nil
  | @begins i _ queue _ _ _ hi _ _ _ =>
    exact (active_of_settle (p := { p with queue }) hi hmem).resolve_left List.not_mem_nil

theorem exists_active_requests_lt (p : Pool) : ∃ n, ∀ t ∈ p.active, t.paging.requests < n := by
  refine ⟨(p.active.map (·.paging.requests)).sum + 1, fun t ht => ?_⟩
  have hle := List.single_le_sum (l := p.active.map (·.paging.requests)) (fun _ _ => Nat.zero_le _) _
    (List.mem_map_of_mem ht)
  omega

theorem drive_of_cancelled (hc : w.cancelled = true) (hslots : 0 < p.slots.length) :
    ∃ fuel, (drive e user fuel (p, w)).isSome := by
  obtain ⟨n, hn⟩ := exists_active_requests_lt p
  let P (q : Pool) (v : World τ ς) : Prop := v.cancelled = true ∧ ∀ t ∈ q.active, t.paging.requests < n
  refine drive_isSome (P := P) (R := toDo fun _ => n) ?_ ⟨hc, hn⟩ hslots
  rintro q v folder ds move q' v' ⟨hv, hq⟩ ht
  obtain ⟨r, rfl⟩ := ht.ended_of_cancelled hv
  exact ⟨⟨ht.leads.cancelled hv, fun t hmem => hq t (ht.active_of_ended t hmem)⟩, ht.toDo_lt hq⟩

theorem follow_cancelled (hc : w.cancelled = true) (schedule : List Nat) :
    (follow e user schedule (p, w)).2.cancelled = true :=
  follow_induction (P := fun _ v => v.cancelled = true) (fun hv ht => ht.leads.cancelled hv) hc schedule

theorem drive_of_moved_cancelled {n : Nat} (hslots : 0 < p.slots.length)
    (h : (moved e user p w n).2.cancelled = true) : ∃ fuel, (drive e user fuel (p, w)).isSome := by
  obtain ⟨k, hk⟩ : ∃ k, p.slots.length * n = n + k := Nat.exists_eq_add_of_le (Nat.le_mul_of_pos_left n hslots)
  have hlater : (moved e user p w (n + k)).2.cancelled = true := by
    unfold moved
    rw [inTurn_add, follow_append]
    exact follow_cancelled h _
  have hlength : (moved e user p w (n + k)).1.slots.length = p.slots.length := slots_length_follow e user _ p w
  obtain ⟨fuel, hfuel⟩ := drive_of_cancelled hlater (by rw [hlength]; exact hslots)
  rw [← hk] at hfuel
  exact drive_of_rounds n hfuel

/-- A pool is driven to its end, or it pages one of its folders for ever. -/
theorem drive_or_paged {folders : List FolderId} (hslots : 0 < p.slots.length)
    (hfolders : ∀ n, ∀ t ∈ (moved e user p w n).1.active, t.paging.folder ∈ folders) :
    (∃ fuel, (drive e user fuel (p, w)).isSome) ∨
      ∃ folder ∈ folders, ∀ n, ∃ m,
        (∃ t ∈ (moved e user p w m).1.active, t.paging.folder = folder ∧ n ≤ t.paging.requests) ∧
          (moved e user p w m).2.cancelled = false := by
  by_cases hend : ∃ fuel, (drive e user fuel (p, w)).isSome
  · exact .inl hend
  refine .inr ?_
  -- otherwise every folder makes fewer than some number of requests, and there is ever less to do
  by_contra hbounded
  push Not at hbounded
  choose! n hn using hbounded
  have hrequests : ∀ m, ∀ t ∈ (moved e user p w m).1.active, t.paging.requests < n t.paging.folder := by
    intro m t ht
    by_contra hle
    have hcancelled := hn _ (hfolders m t ht) m ⟨t, ht, rfl, Nat.le_of_not_lt hle⟩
    exact hend (drive_of_moved_cancelled hslots (by simpa using hcancelled))
  obtain ⟨m, hidle⟩ := moved_idle (R := toDo n) hslots fun m _ _ _ _ _ ht => ht.toDo_lt (hrequests m)
  exact hend (drive_of_idle hslots hidle)

theorem exists_requests_lt (e : Env τ ς) (user : User) (p : Pool) (w : World τ ς) (moves : Nat) :
    ∃ n, ∀ m < moves, ∀ t ∈ (moved e user p w m).1.active, t.paging.requests < n := by
  induction moves with
  | zero => exact ⟨0, by simp⟩
  | succ moves ih =>
    obtain ⟨n, hn⟩ := ih
    obtain ⟨k, hk⟩ := exists_active_requests_lt (moved e user p w moves).1
    refine ⟨max n k, fun m hm t ht => ?_⟩
    rcases Nat.lt_succ_iff_lt_or_eq.mp hm with hlt | rfl
    · exact Nat.lt_of_lt_of_le (hn m hlt t ht) (Nat.le_max_left n k)
    · exact Nat.lt_of_lt_of_le (hk t ht) (Nat.le_max_right n k)

end Pool

theorem Config.slots_pos (c : Config) {folders : List FolderId} (h : folders ≠ []) :
    0 < (Pool.ofFolders c.maxFolderWorkers folders).slots.length := by
  have hworkers := c.maxFolderWorkers_pos
  have hlength := List.length_pos_iff.mpr h
  simp only [Pool.ofFolders, List.length_replicate]
  omega

/-! ## Calls that return -/

section Calls

variable {τ ς : Type} {e : Env τ ς} {roots : List FolderId} {now : Option Stamp} {user : User} {w w' : World τ ς}

/-- A user's run that has found a folder which the service pages for ever: when the slots move in turn, the folder is at
some moments in its slot after as many requests as one likes, with the next to be made, and nobody has cancelled. -/
def Endless (e : Env τ ς) (roots : List FolderId) (user : User) (w : World τ ς) : Prop :=
  ∃ folders, ∃ folder ∈ folders, ∀ n, ∃ moves p v,
    Moment e roots user w folders (Pool.inTurn (min e.config.maxFolderWorkers folders.length) moves) p v ∧
      (∃ task ∈ p.active, task.paging.folder = folder ∧ n ≤ task.paging.requests) ∧ v.cancelled = false

theorem syncUser_isSome_of_drive {folders : FolderSet}
    (hd : discoverAll e.transport user roots [] w = (.ok folders, w'))
    (h : ∃ fuel, (Pool.drive e user fuel (.ofFolders e.config.maxFolderWorkers folders, w')).isSome) :
    ∃ fuel, (syncUser e fuel roots now user w).isSome := by
  obtain ⟨fuel, hfuel⟩ := h
  refine ⟨fuel, ?_⟩
  unfold syncUser
  rw [hd]
  simpa using hfuel

/-- **A user's run returns**, or it is endless. -/
theorem syncUser_returns (e : Env τ ς) (roots : List FolderId) (now : Option Stamp) (user : User) (w : World τ ς) :
    (∃ fuel, (syncUser e fuel roots now user w).isSome) ∨ Endless e roots user w := by
  generalize hd : discoverAll e.transport user roots [] w = r
  obtain ⟨(failure | fault) | folders, w₁⟩ := r
  · exact .inl ⟨0, by simp [syncUser, hd]⟩
  · exact .inl ⟨0, by simp [syncUser, hd]⟩
  by_cases hempty : folders = []
  · subst hempty
    exact .inl (syncUser_isSome_of_drive hd ⟨0, by simp [Pool.drive, Pool.ofFolders, Pool.idle]⟩)
  have hcount : (Pool.ofFolders e.config.maxFolderWorkers folders).slots.length =
      min e.config.maxFolderWorkers folders.length := by simp [Pool.ofFolders]
  have hmoment : ∀ n, Moment e roots user w folders (Pool.inTurn (min e.config.maxFolderWorkers folders.length) n)
      (Pool.moved e user (.ofFolders e.config.maxFolderWorkers folders) w₁ n).1
      (Pool.moved e user (.ofFolders e.config.maxFolderWorkers folders) w₁ n).2 :=
    fun n => ⟨w₁, hd, by rw [Pool.moved, hcount]⟩
  have hfolders : ∀ n, ∀ t ∈ (Pool.moved e user (.ofFolders e.config.maxFolderWorkers folders) w₁ n).1.active,
      t.paging.folder ∈ folders := by
    intro n t ht
    obtain ⟨ds, ends, hinv, -⟩ := (hmoment n).census
    exact hinv.census.active_mem ht
  rcases Pool.drive_or_paged (e.config.slots_pos hempty) hfolders with hend | ⟨folder, hfolder, hpaged⟩
  · exact .inl (syncUser_isSome_of_drive hd hend)
  · refine .inr ⟨folders, folder, hfolder, fun n => ?_⟩
    obtain ⟨m, htask, hcalm⟩ := hpaged n
    exact ⟨m, _, _, hmoment m, htask, hcalm⟩

/-- An endless run does not return. -/
theorem Endless.syncUser_eq_none (h : Endless e roots user w) (fuel : Nat) :
    syncUser e fuel roots now user w = none := by
  obtain ⟨folders, folder, -, hpaged⟩ := h
  obtain ⟨-, -, -, ⟨w₁, hd, -⟩, -⟩ := hpaged 0
  have hcount : (Pool.ofFolders e.config.maxFolderWorkers folders).slots.length =
      min e.config.maxFolderWorkers folders.length := by simp [Pool.ofFolders]
  by_contra hsome
  obtain ⟨r, hr⟩ : ∃ r, Pool.drive e user fuel (.ofFolders e.config.maxFolderWorkers folders, w₁) = some r := by
    rw [← ne_eq, Option.ne_none_iff_exists'] at hsome
    obtain ⟨out, hout⟩ := hsome
    unfold syncUser at hout
    rw [hd] at hout
    obtain ⟨r, hr, -⟩ := Option.map_eq_some_iff.mp hout
    exact ⟨r, hr⟩
  -- the pool is idle after some moves, and up to them the requests are bounded
  obtain ⟨last, hlast, hidle⟩ := Pool.inTurn_of_drive hr
  obtain ⟨n, hn⟩ := Pool.exists_requests_lt e user (.ofFolders e.config.maxFolderWorkers folders) w₁ last
  obtain ⟨moves, p, v, ⟨w₁', hd', hp⟩, ⟨task, hactive, -, hrequests⟩, -⟩ := hpaged n
  rw [hd] at hd'
  cases hd'
  rw [← hcount] at hp
  by_cases hearly : moves < last
  · have hless := hn moves hearly task (by rw [Pool.moved, hp]; exact hactive)
    exact Nat.not_lt.mpr hrequests hless
  · obtain ⟨k, rfl⟩ := Nat.exists_eq_add_of_le (Nat.le_of_not_lt hearly)
    rw [Pool.inTurn_add, Pool.follow_append, ← hlast] at hp
    have hstill := hp.symm.trans (Pool.follow_of_idle hidle r.2 _)
    obtain rfl : p = r.1 := congrArg Prod.fst hstill
    rw [(Pool.idle_iff.mp hidle).2] at hactive
    cases hactive

theorem syncUser_mono {m n : Nat} {out : Except Fault Report × World τ ς} (hmn : m ≤ n)
    (h : syncUser e m roots now user w = some out) : syncUser e n roots now user w = some out := by
  unfold syncUser at h ⊢
  generalize discoverAll e.transport user roots [] w = r at h ⊢
  obtain ⟨(failure | fault) | folders, w₁⟩ := r
  · exact h
  · exact h
  · obtain ⟨s, hs, rfl⟩ := Option.map_eq_some_iff.mp h
    exact Option.map_eq_some_iff.mpr ⟨s, Pool.drive_mono hmn hs, rfl⟩

theorem Call.syncUsers_cons (c : Call τ ς) {fuel : Nat}
    (h : syncUser c.env fuel c.roots c.now c.user c.before = some (c.result, c.after)) (hc : c.before.cancelled = false)
    (users : List User) :
    syncUsers c.env fuel c.roots c.now (c.user :: users) c.before =
      (syncUsers c.env fuel c.roots c.now users c.noted).map fun out => (c.report :: out.1, out.2) := by
  rw [syncUsers, if_neg (by simp [hc]), h]
  unfold Call.noted Call.report
  cases c.result <;> rfl

theorem syncUsers_mono {m n : Nat} {users : List User} {out : List Report × World τ ς} (hmn : m ≤ n)
    (h : syncUsers e m roots now users w = some out) : syncUsers e n roots now users w = some out := by
  induction users generalizing w out with
  | nil => exact h
  | cons user users ih =>
    unfold syncUsers at h ⊢
    split at h
    · rename_i hc
      rw [if_pos hc]
      exact h
    · rename_i hc
      rw [if_neg hc]
      split at h
      · cases h
      · rename_i hrun
        rw [syncUser_mono hmn hrun]
        obtain ⟨rest, hrest, rfl⟩ := Option.map_eq_some_iff.mp h
        exact Option.map_eq_some_iff.mpr ⟨rest, ih hrest, rfl⟩
      · rename_i hrun
        rw [syncUser_mono hmn hrun]
        obtain ⟨rest, hrest, rfl⟩ := Option.map_eq_some_iff.mp h
        exact Option.map_eq_some_iff.mpr ⟨rest, ih hrest, rfl⟩

/-- Several users, one of whom has an endless run after those before have had theirs. -/
def MeetsEndless (e : Env τ ς) (roots : List FolderId) (now : Option Stamp) (users : List User) (w : World τ ς) :
    Prop :=
  ∃ before user after fuel reports v, users = before ++ user :: after ∧
    syncUsers e fuel roots now before w = some (reports, v) ∧ Endless e roots user v

/-- **A call for several users returns**, or it comes to a user whose run is endless. -/
theorem syncUsers_returns (e : Env τ ς) (roots : List FolderId) (now : Option Stamp) (users : List User)
    (w : World τ ς) :
    (∃ fuel, (syncUsers e fuel roots now users w).isSome) ∨ MeetsEndless e roots now users w := by
  induction users generalizing w with
  | nil => exact .inl ⟨0, rfl⟩
  | cons user users ih =>
    by_cases hc : w.cancelled = true
    · exact .inl ⟨0, by simp [syncUsers, hc]⟩
    rcases syncUser_returns e roots now user w with ⟨m, hm⟩ | hendless
    · let c : Call τ ς := .ofSyncUser e m roots now user w hm
      have hrun : syncUser e m roots now user w = some (c.result, c.after) := (Option.some_get hm).symm
      have hcons : ∀ k others, m ≤ k → syncUsers e k roots now (user :: others) w =
          (syncUsers e k roots now others c.noted).map fun out => (c.report :: out.1, out.2) :=
        fun k others hk => c.syncUsers_cons (syncUser_mono hk hrun) (Bool.eq_false_iff.mpr hc) others
      rcases ih c.noted with ⟨n, hn⟩ | ⟨before, u, after, n, reports, v, rfl, hbefore, hendless⟩
      · refine .inl ⟨max m n, ?_⟩
        obtain ⟨out, hout⟩ := Option.isSome_iff_exists.mp hn
        rw [hcons _ _ (Nat.le_max_left m n), syncUsers_mono (Nat.le_max_right m n) hout]
        rfl
      · refine .inr ⟨user :: before, u, after, max m n, c.report :: reports, v, rfl, ?_, hendless⟩
        rw [hcons _ _ (Nat.le_max_left m n), syncUsers_mono (Nat.le_max_right m n) hbefore]
        rfl
    · exact .inr ⟨[], user, users, 0, [], w, rfl, rfl, hendless⟩

end Calls

end MailboxSync

