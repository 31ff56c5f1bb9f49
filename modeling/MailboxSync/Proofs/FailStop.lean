import MailboxSync.Proofs.Frame
import MailboxSync.Proofs.Undisturbed

/-!
# Fail-stop

* `Moment` — a run on its way: its folders have been found, and the slots of its pool have moved in a given order;
  `Concludes` is the end of one.  The run that `syncUser` makes moves its slots in turn (`Pool.inTurn`) and concludes
  after some number of moves (`concludes_of_syncUser`);
* `PagesToEnd` — the exchanges of a folder that was paged until its final page or trouble of its own;
* `FailStop` — what a run comes to after a moment at which it was stopped;
* `Moment.fail_stop` — after the first folder that ended in trouble no folder makes a first request any more, and as
  long as nobody cancels every folder that has made one is paged to its end.

A stopped pool starts no folder (`Pool.Turns.of_stopped`), and a folder between two turns has made a request
(`Pool.Sound`): so whoever asks after the pool was stopped has asked before.
-/

namespace MailboxSync

open Journal

/-! ## Moments of a run -/

section Moments

variable {τ ς : Type} {e : Env τ ς} {roots : List FolderId} {now : Option Stamp} {user : User}
  {w v v' : World τ ς} {folders : FolderSet} {before later schedule : List Nat} {p p' : Pool}

/-- A run that has found its folders, after the slots of its pool have moved in the given order. -/
def Moment (e : Env τ ς) (roots : List FolderId) (user : User) (w : World τ ς) (folders : FolderSet)
    (schedule : List Nat) (p : Pool) (v : World τ ς) : Prop :=
  ∃ w₁, discoverAll e.transport user roots [] w = (.ok folders, w₁) ∧
    Pool.follow e user schedule (.ofFolders e.config.maxFolderWorkers folders, w₁) = (p, v)

/-- What a run comes to whose pool is idle after the slots have moved in the given order. -/
def Concludes (e : Env τ ς) (roots : List FolderId) (now : Option Stamp) (user : User) (w : World τ ς)
    (folders : FolderSet) (schedule : List Nat) (out : Except Fault Report × World τ ς) : Prop :=
  ∃ p v, Moment e roots user w folders schedule p v ∧ p.idle = true ∧
    out = concludeRun e { user, roots } folders.length now p v

/-- So many moves of a pool's slots in turn. -/
def Pool.inTurn (slots moves : Nat) : List Nat := (List.range moves).map (· % slots)

theorem Pool.inTurn_add (slots m n : Nat) :
    inTurn slots (m + n) = inTurn slots m ++ (List.range n).map fun i => (m + i) % slots := by
  simp [inTurn, List.range_add]

theorem Pool.inTurn_round (slots n : Nat) : inTurn slots (slots + n) = List.range slots ++ inTurn slots n := by
  have hround : inTurn slots slots = List.range slots := by
    refine List.map_congr_left (fun i hi => Nat.mod_eq_of_lt (List.mem_range.mp hi)) |>.trans ?_
    exact List.map_id _
  have hrest : ((List.range n).map fun i => (slots + i) % slots) = inTurn slots n :=
    List.map_congr_left fun i _ => Nat.add_mod_left slots i
  rw [inTurn_add, hround, hrest]

/-- Driving a pool is moving its slots in turn until it is idle. -/
theorem Pool.inTurn_of_drive {fuel : Nat} {r : Pool × World τ ς} (h : drive e user fuel (p, v) = some r) :
    ∃ n, r = follow e user (inTurn p.slots.length n) (p, v) ∧ r.1.idle = true := by
  induction fuel generalizing p v with
  | zero =>
    unfold drive at h
    split at h
    · cases h
      exact ⟨0, rfl, by assumption⟩
    · cases h
  | succ fuel ih =>
    unfold drive at h
    split at h
    · cases h
      exact ⟨0, rfl, by assumption⟩
    · have hlength : (round e user (p, v)).1.slots.length = p.slots.length := slots_length_follow e user _ p v
      generalize hround : round e user (p, v) = s at h hlength
      obtain ⟨q, u⟩ := s
      obtain ⟨n, hn, hi⟩ := ih h
      have hfollow : follow e user (List.range p.slots.length) (p, v) = (q, u) := hround
      refine ⟨p.slots.length + n, ?_, hi⟩
      rw [inTurn_round, follow_append, hfollow, hn, hlength]

/-- The run whose slots move in turn concludes, after any number of moves at the latest. -/
theorem concludes_of_syncUser {fuel : Nat} {out : Except Fault Report × World τ ς}
    (h : syncUser e fuel roots now user w = some out) (hd : (discoverAll e.transport user roots [] w).1 = .ok folders)
    (n : Nat) :
    ∃ later, Concludes e roots now user w folders
      (Pool.inTurn (min e.config.maxFolderWorkers folders.length) n ++ later) out := by
  unfold syncUser at h
  generalize hr : discoverAll e.transport user roots [] w = r at h hd
  obtain ⟨found, w₁⟩ := r
  obtain rfl : found = .ok folders := hd
  obtain ⟨⟨p, v⟩, hp, rfl⟩ := Option.map_eq_some_iff.mp h
  obtain ⟨m, hm, hi⟩ := Pool.inTurn_of_drive hp
  generalize hslots : (Pool.ofFolders e.config.maxFolderWorkers folders).slots.length = slots at hm
  obtain rfl : slots = min e.config.maxFolderWorkers folders.length := by simp [← hslots, Pool.ofFolders]
  -- the moves after the pool has become idle change nothing
  have hmore : Pool.follow e user (Pool.inTurn (min e.config.maxFolderWorkers folders.length) (n + m))
      (.ofFolders e.config.maxFolderWorkers folders, w₁) = (p, v) := by
    rw [Nat.add_comm, Pool.inTurn_add, Pool.follow_append, ← hm]
    exact Pool.follow_of_idle hi v _
  rw [Pool.inTurn_add] at hmore
  exact ⟨_, p, v, ⟨w₁, hr, hmore⟩, hi, rfl⟩

theorem Concludes.runsLate {out : Except Fault Report × World τ ς}
    (h : Concludes e roots now user w folders schedule out) :
    RunsLate e roots now user w out := by
  obtain ⟨p, v, ⟨w₁, hd, hp⟩, hi, rfl⟩ := h
  exact .of_follow hd hp hi

namespace Moment

theorem follow_eq (h : Moment e roots user w folders before p v)
    (h' : Moment e roots user w folders (before ++ later) p' v') : Pool.follow e user later (p, v) = (p', v') := by
  obtain ⟨w₁, hd, hp⟩ := h
  obtain ⟨w₁', hd', hp'⟩ := h'
  rw [hd] at hd'
  cases hd'
  rw [Pool.follow_append, hp] at hp'
  exact hp'

theorem census (h : Moment e roots user w folders schedule p v) :
    ∃ ds ends, Pool.Inv e user w folders ds p v ends ∧ p.Sound ∧
      (v.cancelled = false → Undisturbed user ds p.stopped ends) := by
  obtain ⟨w₁, hd, hp⟩ := h
  obtain ⟨ds, hl, hq⟩ := discoverAll_acts e user roots [] w
  rw [hd] at hl
  have hnodup := FolderSet.nodup_of_sorted (discoverAll_sorted List.Pairwise.nil hd)
  have hinv := Pool.Inv.ofFolders user e.config.maxFolderWorkers hl.leads hnodup hq
  have hsound := Pool.Sound.ofFolders e.config.maxFolderWorkers folders
  have hund : Undisturbed user ds false [] := .nil user ds
  obtain ⟨ds', ends, hinv, hsound, hund⟩ := hinv.follow_undisturbed hsound (fun _ => hund) schedule
  rw [hp] at hinv hsound hund
  exact ⟨_, _, hinv, hsound, hund⟩

end Moment

/-! ## After the first trouble -/

theorem Pool.Turns.failed {folder : FolderId} {ds : List Event} {r : Except Fault FolderResult}
    (ht : Pool.Turns e user p v folder ds (.ended r) p' v') (hr : Troubled r) : p'.Failed := by
  have htake : ∀ q : Pool, (q.take r).Failed := by
    intro q
    cases hf : q.fault with
    | some fault => exact .inl (by simp [Pool.take, hf])
    | none =>
      cases r with
      | error fault => exact .inl (by simp [Pool.take, hf])
      | ok r =>
        have hok : r.ok = false := hr r rfl
        refine .inr ⟨r, ?_, hok⟩
        simp only [Pool.take, hf, Pool.accept]
        split <;> simp
  cases ht with
  | goesOn _ _ _ => exact htake _
  | begins _ _ _ _ => exact htake _

/-- In a pool that has been stopped no folder makes a first request. -/
theorem Pool.Inv.follow_stopped {folders : List FolderId} {ds : List Event} {ends : Ends}
    (hi : Pool.Inv e user w folders ds p v ends) (hsound : p.Sound) (hs : p.stopped = true) (schedule : List Nat) :
    ∃ ds' ends', Pool.Inv e user w folders (ds ++ ds') (Pool.follow e user schedule (p, v)).1
        (Pool.follow e user schedule (p, v)).2 (ends ++ ends') ∧
      ∀ f, exchanges user f ds = [] → exchanges user f (ds ++ ds') = [] := by
  -- along the way the pool stays stopped and sound
  let P (q : Pool) (u : World τ ς) : Prop :=
    ∃ ds' ends', Pool.Inv e user w folders (ds ++ ds') q u (ends ++ ends') ∧
    (∀ f, exchanges user f ds = [] → exchanges user f (ds ++ ds') = []) ∧ q.Sound ∧ q.stopped = true
  have hstart : P p v := ⟨[], [], by simpa using hi, by simp, hsound, hs⟩
  suffices hstep :
    ∀ {q u folder ds₂ move q' u'}, P q u → Pool.Turns e user q u folder ds₂ move q' u' → P q' u' by
    obtain ⟨ds', ends', hinv, hnone, -, -⟩ := Pool.follow_induction hstep hstart schedule
    exact ⟨ds', ends', hinv, hnone⟩
  · rintro q u folder ds₂ move q' u' ⟨ds₁, ends₁, hinv, hnone, hsound, hs⟩ ht
    obtain ⟨about, hinv'⟩ := hinv.turn ht
    obtain ⟨hs', hwho⟩ := ht.of_stopped hs
    refine ⟨ds₁ ++ ds₂, ends₁ ++ move.ends folder, by simpa using hinv', fun f hf => ?_, hsound.turn ht, hs'⟩
    have hf₁ : exchanges user f (ds ++ ds₁) = [] := hnone f hf
    rw [← List.append_assoc, exchanges_append, hf₁, List.nil_append]
    by_cases hfolder : f = folder
    · subst hfolder
      rcases hwho with ⟨task, hmem, htask⟩ | rfl
      · -- a folder between two turns has asked, but this one has not
        obtain ⟨-, -, -, hp⟩ := (hinv.census.active task hmem).of_going
        have hpos : 0 < task.paging.requests := hsound.asked task hmem
        rw [htask, hf₁] at hp
        rw [hp.requests_eq] at hpos
        simp [Paging.start] at hpos
      · rfl
    · exact about.exchanges user f fun h => hfolder h.2

theorem Moment.none_begins (h : Moment e roots user w folders before p v) (hf : p.Failed)
    (h' : Moment e roots user w folders (before ++ later) p' v') (f : FolderId)
    (hnone : exchanges user f (w.eventsSince v) = []) : exchanges user f (w.eventsSince v') = [] := by
  obtain ⟨ds, ends, hinv, hsound, -⟩ := h.census
  obtain ⟨ds', ends', hinv', hstay⟩ := hinv.follow_stopped hsound (hsound.stopped hf) later
  rw [h.follow_eq h'] at hinv'
  rw [hinv.leads.exchanges_eventsSince] at hnone
  rw [hinv'.leads.exchanges_eventsSince]
  exact hstay f hnone

theorem Moment.asked (h : Moment e roots user w folders before p v)
    (h' : Moment e roots user w folders (before ++ later) p' v') (f : FolderId)
    (hasked : exchanges user f (w.eventsSince v) ≠ []) : exchanges user f (w.eventsSince v') ≠ [] := by
  obtain ⟨ds, ends, hinv, -, -⟩ := h.census
  obtain ⟨ds', ends', hinv'⟩ := hinv.follow later
  rw [h.follow_eq h'] at hinv'
  rw [hinv.leads.exchanges_eventsSince] at hasked
  rw [hinv'.leads.exchanges_eventsSince, exchanges_append]
  exact List.append_ne_nil_of_left_ne_nil hasked _

end Moments

/-! ## Paging to the end -/

/-- Exchanges that page a folder from a token, up to one that brings the final page or trouble. -/
def PagesToEnd (size : Int) (folder : FolderId) (token : Token) (xs : List SyncExchange) : Prop :=
  ∃ ys p o, (Paging.start folder token).Reaches size ys p false ∧ xs = ys ++ [(.forPage folder p.token size, o)] ∧
    ∀ page, Page.read p.token o = .ok page → page.last = true

theorem Paging.Reaches.pagesToEnd {size : Int} {folder : FolderId} {token : Token} {xs : List SyncExchange} {p : Paging}
    (h : (Paging.start folder token).Reaches size xs p true) : PagesToEnd size folder token xs := by
  generalize hlast : true = last at h
  cases h with
  | start => cases hlast
  | @page ys q o page hq ho =>
    refine ⟨ys, q, o, hq, by rw [hq.folder_eq]; rfl, fun page' hpage => ?_⟩
    rw [ho] at hpage
    cases hpage
    exact hlast.symm

theorem Paging.Reaches.not_pagedOut {size : Int} {p₀ p : Paging} {xs : List SyncExchange}
    (h : p₀.Reaches size xs p false) : ¬ PagedOut xs := by
  rintro ⟨ys, x, hxs, hout⟩
  generalize hlast : false = last at h
  cases h with
  | start => simp at hxs
  | page _ ho =>
    obtain ⟨-, hx⟩ := List.append_inj' hxs rfl
    cases hx
    have hpage := hout _ ho
    rw [← hlast] at hpage
    cases hpage

section Ends

variable {τ : Type} {b : Backend} {rules : List AccessRule} {e : Env τ Progress} {roots : List FolderId} {user : User}
  {w v v' : World τ Progress} {folders : FolderSet} {before later : List Nat} {p p' : Pool}

/-- A folder that has ended and paged out has been paged from the token kept for it to its end. -/
theorem Stands.pagesToEnd {folder : FolderId} {xs : List SyncExchange} {ts : List Token} {r : Except Fault FolderResult}
    (h : Stands e user w folder xs ts (.ended r)) (he : e.stores = b.stores.refusing rules) (hout : PagedOut xs) :
    PagesToEnd e.config.idPageSize folder (b.startToken w.stores user folder) xs := by
  cases h with
  | finished hr hp =>
    rw [hr.eq_startToken he] at hp
    exact hp.pagesToEnd
  | failed hr hp ho =>
    rw [hr.eq_startToken he] at hp
    refine ⟨_, _, _, hp, rfl, fun page hpage => ?_⟩
    cases ho.symm.trans hpage
  | cancelled hr hp => exact absurd hout hp.not_pagedOut
  | skipped _ => exact absurd rfl hout.ne_nil
  | unread _ _ => exact absurd rfl hout.ne_nil
  | broken hr hp ho =>
    rw [hr.eq_startToken he] at hp
    refine ⟨_, _, _, hp, rfl, fun page hpage => ?_⟩
    cases ho.symm.trans hpage
  | unsaved hr hp _ _ =>
    rw [hr.eq_startToken he] at hp
    exact hp.pagesToEnd

/-- As long as nobody cancels, a folder that has asked is between two turns or has been paged to its end. -/
theorem Moment.active_or_ended (he : e.stores = b.stores.refusing rules) (h : Moment e roots user w folders before p v)
    (hc : v.cancelled = false) (f : FolderId) (hasked : exchanges user f (w.eventsSince v) ≠ []) :
    (∃ task ∈ p.active, task.paging.folder = f) ∨
      PagesToEnd e.config.idPageSize f (b.startToken w.stores user f) (exchanges user f (w.eventsSince v)) := by
  obtain ⟨ds, ends, hinv, -, hund⟩ := h.census
  rw [hinv.leads.exchanges_eventsSince] at hasked ⊢
  have hfolder : f ∈ folders := by
    by_contra hn
    exact hasked (hinv.census.elsewhere user f fun h => hn h.2).1
  rcases List.mem_append.mp (hinv.census.parts.mem_iff.mpr hfolder) with hf | hf
  · cases hf
  rcases List.mem_append.mp hf with hqueue | hf
  · exact absurd (hinv.census.waiting f hqueue).1 hasked
  rcases List.mem_append.mp hf with hactive | hended
  · obtain ⟨task, hmem, htask⟩ := List.mem_map.mp hactive
    exact .inl ⟨task, hmem, htask⟩
  · obtain ⟨x, hmem, rfl⟩ := List.mem_map.mp hended
    rcases (hund hc).ended x hmem with hout | ⟨hnil, -⟩
    · exact .inr ((hinv.census.ended x hmem).pagesToEnd he hout)
    · exact absurd hnil hasked

/-- The end of a run asks for nothing, and its report has the ends of the folders. -/
theorem Moment.closes {now : Option Stamp} {count : Nat} {result : Except Fault Report} {w' : World τ Progress}
    (h : Moment e roots user w folders before p v)
    (hout : (result, w') = concludeRun e { user, roots } count now p v) (hc : w'.cancelled = false) :
    v.cancelled = false ∧ (∀ f, exchanges user f (w.eventsSince w') = exchanges user f (w.eventsSince v)) ∧
      ∀ report, result = .ok report → ∀ r ∈ report.folders,
        PagedOut (exchanges user r.folder (w.eventsSince v)) ∨
          exchanges user r.folder (w.eventsSince v) = [] ∧ Skipped r.folder (.ok r) := by
  obtain ⟨ds, ends, hinv, -, hund⟩ := h.census
  obtain ⟨ds', hcloses, hl⟩ := concludeRun_closes e roots now user hinv.took count v
  rw [← hout] at hcloses hl
  have hcv : v.cancelled = false := hl.leads.uncancelled hc
  refine ⟨hcv, fun f => ?_, fun report hreport r hr => ?_⟩
  · rw [(hinv.leads.trans hl.leads).exchanges_eventsSince, hinv.leads.exchanges_eventsSince, exchanges_append,
      (hcloses.elsewhere user f).1, List.append_nil]
  · subst hreport
    have hmem : .ok r ∈ ends.map (·.2) := hcloses.results ▸ List.mem_map_of_mem hr
    obtain ⟨⟨f, o⟩, hx, rfl⟩ := List.mem_map.mp hmem
    obtain rfl : r.folder = f := (hinv.census.ended _ hx).result_folder
    rw [hinv.leads.exchanges_eventsSince]
    rcases (hund hcv).ended _ hx with hpaged | ⟨hnil, ⟨fault, hfault⟩ | ⟨-, hskip⟩⟩
    · exact .inl hpaged
    · cases hfault
    · exact .inr ⟨hnil, hskip⟩

/-- A folder that came to its final page has the token of that page, unless the write of it was refused. -/
theorem RunsLate.kept_of_final {now : Option Stamp} {result : Except Fault Report} {w' : World τ Progress}
    {f : FolderId} {q : Paging} (h : RunsLate e roots now user w (result, w')) (he : e.stores = b.stores.refusing rules)
    (hq : (Paging.start f (b.startToken w.stores user f)).Reaches e.config.idPageSize
      (exchanges user f (w.eventsSince w')) q true)
    (hrules : rules.any (·.covers .states .put user (some f)) = false) :
    savedTokens user f (w.eventsSince w') = [q.token] ∧ b.kept w'.stores user f = some q.token := by
  obtain ⟨ds, hl, hcases⟩ := h.cases
  rw [hl.exchanges_eventsSince] at hq
  rcases hcases with ⟨trouble, -, hquiet, -⟩ | ⟨folders, ends, hd, hran⟩
  · rw [hquiet.exchanges] at hq
    exact absurd hq Paging.Reaches.nil_not_last
  · have hfound : f ∈ folders := by
      by_contra hn
      rw [(hran.elsewhere user f fun h => hn h.2).1] at hq
      exact hq.nil_not_last
    have hframe := TokenFrame.ofRan hl he hd hran
    refine hframe.written f q ⟨⟨folders, hd, hfound⟩, ?_⟩ hrules
    rw [hl.exchanges_eventsSince]
    exact hq

/-- What a run from `w` comes to that was stopped at `v`. -/
structure FailStop (b : Backend) (rules : List AccessRule) (e : Env τ Progress) (user : User) (w v : World τ Progress)
    (result : Except Fault Report) (w' : World τ Progress) : Prop where
  /-- A folder that had made no request makes none. -/
  unasked : ∀ f, exchanges user f (w.eventsSince v) = [] → exchanges user f (w.eventsSince w') = []
  /-- A report that mentions it calls it cancelled. -/
  reported :
    ∀ f, exchanges user f (w.eventsSince v) = [] → ∀ report, result = .ok report → ∀ r ∈ report.folders,
    r.folder = f → ∃ why, r.error = some (.cancelled why)
  /-- Every other folder is paged to its end. -/
  paged : ∀ f, exchanges user f (w.eventsSince v) ≠ [] →
    PagesToEnd e.config.idPageSize f (b.startToken w.stores user f) (exchanges user f (w.eventsSince w'))
  /-- If that was its final page, its token is written and kept, whatever the run came to. -/
  kept : ∀ f q, (Paging.start f (b.startToken w.stores user f)).Reaches e.config.idPageSize
      (exchanges user f (w.eventsSince w')) q true →
    rules.any (·.covers .states .put user (some f)) = false →
    savedTokens user f (w.eventsSince w') = [q.token] ∧ b.kept w'.stores user f = some q.token

theorem Concludes.failStop {now : Option Stamp} {result : Except Fault Report} {w' : World τ Progress}
    (hout : Concludes e roots now user w folders (before ++ later) (result, w'))
    (he : e.stores = b.stores.refusing rules) (h : Moment e roots user w folders before p v) (hf : p.Failed)
    (hc : w'.cancelled = false) : FailStop b rules e user w v result w' := by
  have hruns := hout.runsLate
  obtain ⟨p', v', h', hidle, hout⟩ := hout
  obtain ⟨hcv, hsame, hreport⟩ := h'.closes hout hc
  refine ⟨fun f hnone => ?_,
    fun f hnone report hr r hmem hfolder => ?_, fun f hasked => ?_, fun f q hq hrules => ?_⟩
  · rw [hsame f]
    exact h.none_begins hf h' f hnone
  · subst hfolder
    have hnil : exchanges user r.folder (w.eventsSince v') = [] := h.none_begins hf h' r.folder hnone
    rcases hreport report hr r hmem with hpaged | ⟨-, hskip⟩
    · exact absurd hnil hpaged.ne_nil
    · exact ⟨_, hskip.error_eq⟩
  · rw [hsame f]
    rcases h'.active_or_ended he hcv f (h.asked h' f hasked) with ⟨task, hmem, -⟩ | hend
    · rw [(Pool.idle_iff.mp hidle).2] at hmem
      cases hmem
    · exact hend
  · exact hruns.kept_of_final he hq hrules

/-- **Fail-stop.**  After the first folder that ended in trouble no folder makes a first request any more, and each that
has made one goes on between its turns or has been paged to its end, at every later moment until somebody cancels.  So a
run that concludes after that moment without a cancel has stopped there (`FailStop`); the run that `syncUser` makes is
one of them, whatever the number of moves after which the trouble came. -/
theorem Moment.fail_stop (he : e.stores = b.stores.refusing rules) (h : Moment e roots user w folders before p v)
    (hf : p.Failed) :
    (∀ later p' v', Moment e roots user w folders (before ++ later) p' v' → ∀ f,
      (exchanges user f (w.eventsSince v) = [] → exchanges user f (w.eventsSince v') = []) ∧
        (exchanges user f (w.eventsSince v) ≠ [] → v'.cancelled = false →
          (∃ task ∈ p'.active, task.paging.folder = f) ∨
            PagesToEnd e.config.idPageSize f (b.startToken w.stores user f) (exchanges user f (w.eventsSince v')))) ∧
      (∀ later now result w', Concludes e roots now user w folders (before ++ later) (result, w') →
        w'.cancelled = false → FailStop b rules e user w v result w') ∧
      ∀ n, before = Pool.inTurn (min e.config.maxFolderWorkers folders.length) n →
        ∀ fuel now result w', syncUser e fuel roots now user w = some (result, w') → w'.cancelled = false →
          FailStop b rules e user w v result w' := by
  refine ⟨fun later p' v' h' f => ?_,
    fun later now result w' hout hc => ?_, fun n hn fuel now result w' hrun hc => ?_⟩
  · exact ⟨h.none_begins hf h' f, fun hasked hc => h'.active_or_ended he hc f (h.asked h' f hasked)⟩
  · exact hout.failStop he h hf hc
  · subst hn
    obtain ⟨w₁, hd, -⟩ := id h
    obtain ⟨later, hout⟩ := concludes_of_syncUser hrun (congrArg Prod.fst hd) n
    exact hout.failStop he h hf hc

end Ends

/-- A folder of two pages, a folder that cannot be reached, and a third that waits for one of the two slots. -/
def oneUnreachable : Session where
  desk :=
    { mailbox := ((({} : Mailbox).append "a" [.created "x", .created "y"]).append "b" []).append "c" [.created "z"]
      failures := [({ operation := some .sync, target := some "b" },
        { script := .raises (.failure (.transport .badStatus (some 503))) })] }
  config := .ofSizes 1 100 2

/-- The run there after the slots have moved in the given order. -/
def oneUnreachable.after (schedule : List Nat) : Pool × World Desk Progress :=
  Pool.follow oneUnreachable.env "u" schedule (.ofFolders 2 ["a", "b", "c"],
    (discoverAll oneUnreachable.env.transport "u" ["root"] [] (oneUnreachable.world .never)).2)

theorem oneUnreachable.moment (schedule : List Nat) :
    Moment oneUnreachable.env ["root"] "u" (oneUnreachable.world .never) ["a", "b", "c"] schedule
      (oneUnreachable.after schedule).1 (oneUnreachable.after schedule).2 := by
  have hfound : (discoverAll oneUnreachable.env.transport "u" ["root"] [] (oneUnreachable.world .never)).1.toOption =
      some ["a", "b", "c"] := by decide +kernel
  exact ⟨_, Prod.ext (ok_of_toOption hfound) rfl, rfl⟩

/-- There the first folder is paged to its end after the second one has failed, and the third is left out. -/
theorem oneUnreachable_fail_stop : ∃ v result w',
    Moment oneUnreachable.env ["root"] "u" (oneUnreachable.world .never) ["a", "b", "c"] (Pool.inTurn 2 2)
        (oneUnreachable.after [0, 1]).1 v ∧
      (oneUnreachable.after [0, 1]).1.Failed ∧
      syncUser oneUnreachable.env 9 ["root"] none "u" (oneUnreachable.world .never) = some (result, w') ∧
      (exchanges "u" "a" ((oneUnreachable.world .never).eventsSince v)).length = 1 ∧
      exchanges "u" "c" ((oneUnreachable.world .never).eventsSince v) = [] ∧
      FailStop .memory [] oneUnreachable.env "u" (oneUnreachable.world .never) v result w' := by
  have hstores : oneUnreachable.env.stores = Backend.memory.stores.refusing [] := rfl
  have hmoment := oneUnreachable.moment [0, 1]
  have hfailed : (oneUnreachable.after [0, 1]).1.Failed := by
    have hany : (oneUnreachable.after [0, 1]).1.results.any (!·.ok) = true := by decide +kernel
    exact .inr (by simpa using hany)
  have hcount :
    (exchanges "u" "a" ((oneUnreachable.world .never).eventsSince (oneUnreachable.after [0, 1]).2)).length = 1 ∧
      (exchanges "u" "c" ((oneUnreachable.world .never).eventsSince (oneUnreachable.after [0, 1]).2)).length = 0 := by
    decide +kernel
  have hrun : (syncUser oneUnreachable.env 9 ["root"] none "u" (oneUnreachable.world .never)).map (·.2.cancelled) =
      some false := by decide +kernel
  obtain ⟨⟨result, w'⟩, hrun, hcancel⟩ := Option.map_eq_some_iff.mp hrun
  obtain ⟨-, -, hstop⟩ := hmoment.fail_stop hstores hfailed
  exact ⟨_, result, w', hmoment, hfailed, hrun, hcount.1, List.eq_nil_of_length_eq_zero hcount.2,
    hstop 2 rfl 9 none result w' hrun hcancel⟩

end MailboxSync
