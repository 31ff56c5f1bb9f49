import MailboxSync.Proofs.Alone
import MailboxSync.Proofs.Returning
import MailboxSync.Proofs.Watermark

/-!
# The schedule does not matter

* `Backend.TakesMarks` — a backend where moving a watermark succeeds;
* `Independent` — folders that do not disturb one another: the service keeps them apart, and each of them can be paged
  to its end by itself (`Alone`);
* `Independent.ran`, `Independent.allFinished` — how runs of such folders end, in whatever order things happen;
* `Independent.schedule_independence` — every run ends, every folder is left out or comes to what it comes to by
  itself, and if all of them come to their final pages by themselves, all runs have the same outcome (`SameOutcome`).

A folder is left out only when another one has failed, and in such a run it is one that fails by itself
(`Independent.Ended`).
-/

namespace MailboxSync

open Journal

/-! ## Watermarks that can be moved -/

section Marks

variable {τ : Type} {b : Backend} {e : Env τ Progress} {user : User} {now : Option Stamp} {w w' : World τ Progress}
  {ds : List Event}

/-- Watermarks are kept where they can be read, or not at all. -/
def Backend.TakesMarks (b : Backend) (p : Progress) : Prop := b.KeepsMarks p ∨ b.watermarks = .nowhere

theorem Backend.mark_of_nowhere (h : b.watermarks = .nowhere) (p : Progress) (user : User) : b.mark p user = none := by
  simp [mark, h]

/-- There, moving a watermark at a time succeeds. -/
theorem Advances.of_takesMarks {r : Except Fault Instant} {stamp : Instant} (h : Advances e user now w ds r)
    (he : e.stores = b.stores.refusing []) (hk : b.TakesMarks w.stores) (hn : e.stampOf now = .ok stamp) :
    ds = [.savedWatermark user (stamp.later (b.watermark w.stores user))] ∧
      r = .ok (stamp.later (b.watermark w.stores user)) := by
  rcases hk with hkeeps | hnowhere
  · rcases h.cases ⟨[], by simp, he⟩ hkeeps with ⟨-, fault, -, hn'⟩ | ⟨stamp', next, hn', hnext, hds, hr⟩
    · cases hn.symm.trans hn'
    · cases hn.symm.trans hn'
      subst hnext
      exact ⟨hds, hr⟩
  · have hread :
      e.stores.watermark w.stores user = .ok (.epoch, []) := by simp [he, Stores.refusing_nil, Backend.stores, hnowhere]
    have hsave : ∀ i, e.stores.saveWatermark w.stores user (.ofInstant i) = .ok (w.stores, []) := by
      intro i
      simp [he, Stores.refusing_nil, Backend.stores, hnowhere]
    have hepoch : b.watermark w.stores user = .epoch := by simp [Backend.watermark, Backend.mark_of_nowhere hnowhere]
    rw [hepoch]
    cases h with
    | unstamped hn' => cases hn.symm.trans hn'
    | unread hr => cases hread.symm.trans hr
    | unsaved hs => cases (hsave _).symm.trans hs
    | saved hn' hr hs =>
      cases hn.symm.trans hn'
      cases hread.symm.trans hr
      exact ⟨rfl, rfl⟩

theorem World.Leads.takesMarks (h : w.Leads e ds w') (he : e.stores = b.stores.refusing [])
    (hk : b.TakesMarks w.stores) :
    b.TakesMarks w'.stores := by
  rcases hk with hkeeps | hnowhere
  · exact .inl (h.keepsMarks he hkeeps)
  · exact .inr hnowhere

theorem World.Leads.mark_eq {w'' : World τ Progress} {e' : Env τ Progress} {ds' : List Event} (h : w.Leads e ds w')
    (h' : w.Leads e' ds' w'') (he : e.stores = b.stores.refusing []) (he' : e'.stores = b.stores.refusing [])
    (hk : b.TakesMarks w.stores)
    (hsame : savedWatermarks ds = savedWatermarks ds') (u : User) : b.mark w'.stores u = b.mark w''.stores u := by
  rcases hk with hkeeps | hnowhere
  · have hmarks : marks u ds = marks u ds' := by
      unfold marks
      rw [hsame]
    rw [h.mark he hkeeps, h'.mark he' hkeeps, hmarks]
  · rw [Backend.mark_of_nowhere hnowhere, Backend.mark_of_nowhere hnowhere]

/-- A run whose folders all ended well moves the watermark. -/
theorem Ran.moves_watermark {roots : List FolderId} {folders : FolderSet} {ends : Ends} {report : Report}
    {stamp : Instant} (h : Ran e roots now user w folders ends ds (.ok report)) (he : e.stores = b.stores.refusing [])
    (hk : b.TakesMarks w.stores) (hn : e.stampOf now = .ok stamp) (hok : ∀ r ∈ report.folders, r.ok = true) :
    report =
        { user, roots, folders := report.folders, watermark := some (stamp.later (b.watermark w.stores user)) } ∧
      savedWatermarks ds = [(user, stamp.later (b.watermark w.stores user))] := by
  obtain ⟨v, ds₁, ds₂, hl, hm, hc, rfl⟩ := h.closes
  have hmark : b.watermark v.stores user = b.watermark w.stores user := by
    unfold Backend.watermark
    rw [hl.mark_eq (.refl : w.Leads e [] w) he he hk hm]
  have htakes : b.TakesMarks v.stores := hl.takesMarks he hk
  rw [savedWatermarks_append, hm, List.nil_append, ← hmark]
  cases hc with
  | failed hrs hb =>
    rw [(Failure.blamed_eq_none_iff _).mpr hok] at hb
    cases hb
  | completed hrs _ ha =>
    obtain ⟨rfl, hr⟩ := ha.of_takesMarks he htakes hn
    cases hr
    exact ⟨rfl, rfl⟩

end Marks

/-! ## Folders that do not disturb one another -/

/-- The same with another bound on the slots of a pool. -/
def Env.withWorkers {τ ς : Type} (e : Env τ ς) (n : Nat) (hn : 0 < n) : Env τ ς :=
  { e with config := { e.config with maxFolderWorkers := n, maxFolderWorkers_pos := hn } }

section Independence

variable {τ : Type}

/-- What paging a user's folder by itself from the token kept for it comes to, and the world it leads to. -/
def Alone (b : Backend) (e : Env τ Progress) (user : User) (w : World τ Progress) (folder : FolderId)
    (out : Except Failure Paging) (w' : World τ Progress) : Prop :=
  ∃ fuel, syncFolder e.transport fuel folder user (b.startToken w.stores user folder) e.config.idPageSize w =
    some (out.mapError .failure, w')

/-- A run of a user may begin whose folders do not disturb one another: the stores are those of a backend and work, the
run has a time, nobody cancels, the service keeps the folders apart, it lists some, and each of them can be paged to its
end by itself. -/
structure Independent (b : Backend) (answer : User → Answering) (e : Env τ Progress) (roots : List FolderId)
    (now : Option Stamp) (user : User) (w : World τ Progress) (folders : FolderSet) : Prop where
  stores : e.stores = b.stores
  tokens : b.KeepsTokens w.stores
  marks : b.TakesMarks w.stores
  time : ∃ stamp, e.stampOf now = .ok stamp
  calm : w.Unthreatened e.transport
  apart : e.transport.Apart answer w.remote
  found : (discoverAll e.transport user roots [] w).1 = .ok folders
  finite : ∀ f ∈ folders, ∃ fuel,
    (syncFolder e.transport fuel f user (b.startToken w.stores user f) e.config.idPageSize w).isSome

namespace Independent

variable {b : Backend} {answer : User → Answering} {e : Env τ Progress} {roots : List FolderId} {now : Option Stamp}
  {user : User} {w v : World τ Progress} {folders : FolderSet} {schedule : List Nat} {p : Pool}

theorem refusing (h : Independent b answer e roots now user w folders) : e.stores = b.stores.refusing [] :=
  h.stores.trans (Stores.refusing_nil _).symm

theorem withWorkers (h : Independent b answer e roots now user w folders) (n : Nat) (hn : 0 < n) :
    Independent b answer (e.withWorkers n hn) roots now user w folders :=
  ⟨h.stores, h.tokens, h.marks, h.time, h.calm, h.apart, h.found, h.finite⟩

theorem settles (h : Independent b answer e roots now user w folders) {folder : FolderId} {out : Except Failure Paging}
    {w' : World τ Progress} (halone : Alone b e user w folder out w') :
    Settles (answer user) e.config.idPageSize (.start folder (b.startToken w.stores user folder)) []
      (exchanges user folder (w.eventsSince w')) out := by
  obtain ⟨fuel, hrun⟩ := halone
  obtain ⟨zs, out', hout, hsettles, ds, hl, rfl⟩ := Paging.run_settles h.apart h.calm .refl hrun
  have hsame : out = out' := by
    cases out <;> cases out' <;> simp_all [Except.mapError]
  rw [hl.leads.exchanges_eventsSince, hsame]
  exact hsettles

theorem exists_alone (h : Independent b answer e roots now user w folders) {folder : FolderId}
    (hf : folder ∈ folders) :
    ∃ out w', Alone b e user w folder out w' := by
  obtain ⟨fuel, hfuel⟩ := h.finite folder hf
  obtain ⟨⟨result, w'⟩, hrun⟩ := Option.isSome_iff_exists.mp hfuel
  obtain ⟨zs, out, hout, -⟩ := Paging.run_settles h.apart h.calm .refl hrun
  obtain rfl : result = out.mapError .failure := hout
  exact ⟨out, w', fuel, hrun⟩

/-! ### Every run ends -/

/-- The run whose slots move in turn comes to an end, and it does so without a cancel. -/
theorem exists_run (h : Independent b answer e roots now user w folders) :
    ∃ fuel out, syncUser e fuel roots now user w = some out ∧ out.2.cancelled = false := by
  suffices hends : ∃ fuel, (syncUser e fuel roots now user w).isSome by
    obtain ⟨fuel, hfuel⟩ := hends
    obtain ⟨out, hrun⟩ := Option.isSome_iff_exists.mp hfuel
    obtain ⟨ds, ha⟩ := syncUser_acts hrun
    exact ⟨fuel, out, hrun, h.calm.uncancelled ha⟩
  obtain ⟨ds₁, ha₁, hq⟩ := discoverAll_acts e user roots [] w
  generalize hd : discoverAll e.transport user roots [] w = r at ha₁
  obtain ⟨found, w₁⟩ := r
  obtain rfl : found = .ok folders := (congrArg Prod.fst hd).symm.trans h.found
  have hnodup := FolderSet.nodup_of_sorted (discoverAll_sorted List.Pairwise.nil hd)
  suffices hdrive : ∃ fuel, (Pool.drive e user fuel (.ofFolders e.config.maxFolderWorkers folders, w₁)).isSome from
    syncUser_isSome_of_drive hd hdrive
  by_cases hempty : folders = []
  · subst hempty
    exact ⟨0, by simp [Pool.drive, Pool.ofFolders, Pool.idle]⟩
  -- a folder has as much to do as by itself
  have hall : ∀ f ∈ folders, ∃ zs out,
      Settles (answer user) e.config.idPageSize (.start f (b.startToken w.stores user f)) [] zs out := by
    intro f hf
    obtain ⟨out, w', halone⟩ := h.exists_alone hf
    exact ⟨_, out, h.settles halone⟩
  choose! zs out hsettles using hall
  let P (p : Pool) (v : World τ Progress) : Prop := ∃ ds ends, Pool.Inv e user w folders ds p v ends
  refine Pool.drive_isSome (P := P) (R := Pool.toDo fun f => (zs f).length) ?_ ?_ (e.config.slots_pos hempty)
  · rintro p v folder ds' move p' v' ⟨ds, ends, hinv⟩ ht
    refine ⟨⟨_, _, (hinv.turn ht).2⟩, ht.toDo_lt fun t hmem => ?_⟩
    have hfolder : t.paging.folder ∈ folders := hinv.census.active_mem hmem
    obtain ⟨-, -, hread, hreaches⟩ := (hinv.census.active t hmem).of_going
    rw [hread.eq_startToken h.refusing] at hreaches
    obtain ⟨ys, hys, hrest⟩ := hreaches.rest (hinv.leads.answered h.apart user _) (hsettles _ hfolder)
    have hlength := congrArg List.length hys
    have hpos := hrest.length_pos
    have hrequests := hreaches.requests_eq
    simp only [List.length_append, Paging.start, Nat.zero_add] at hlength hrequests
    omega
  · exact ⟨_, _, Pool.Inv.ofFolders user e.config.maxFolderWorkers ha₁.leads hnodup hq⟩

/-! ### Every folder ends as it does by itself -/

/-- How the folders of a run ended: each was left out, or came to what it comes to by itself; and if one was left out
another one failed by itself. -/
structure Ended (b : Backend) (answer : User → Answering) (e : Env τ Progress) (user : User) (w : World τ Progress)
    (ds : List Event) (ends : Ends) : Prop where
  each : ∀ x ∈ ends,
    (exchanges user x.1 ds = [] ∧
        x.2 = .ok (.failed x.1 (b.startToken w.stores user x.1) (.cancelled (.notStarted x.1)))) ∨
      ∃ out, Settles (answer user) e.config.idPageSize (.start x.1 (b.startToken w.stores user x.1)) []
          (exchanges user x.1 ds) out ∧
        x.2 = .ok (.ofSettled x.1 (b.startToken w.stores user x.1) out) ∧
        ∀ q, out = .ok q → savedTokens user x.1 ds = [q.token]
  cause : (∃ x ∈ ends, Skipped x.1 x.2) → ∃ y ∈ ends, ∃ failure,
    Settles (answer user) e.config.idPageSize (.start y.1 (b.startToken w.stores user y.1)) [] (exchanges user y.1 ds)
      (.error failure)

/-- The folders that have ended, by what is known of them as long as nobody cancels. -/
theorem ended (h : Independent b answer e roots now user w folders) {ds : List Event} {queue : List FolderId}
    {active : List Task} {ends : Ends} {stopped : Bool} (hl : w.Leads e ds v)
    (hcensus : Census e user w folders ds [] queue active ends) (hund : Undisturbed user ds stopped ends) :
    Ended b answer e user w ds ends := by
  have hanswered : ∀ f, Answered (answer user) (exchanges user f ds) := hl.answered h.apart user
  have hstands : ∀ x ∈ ends, Stands e user w x.1 (exchanges user x.1 ds) (savedTokens user x.1 ds) (.ended x.2) :=
    hcensus.ended
  have hfault : ∀ x ∈ ends, ∀ fault, x.2 ≠ .error fault := by
    rintro ⟨f, r⟩ hx fault rfl
    exact (hstands _ hx).ne_fault h.refusing h.tokens (hanswered f).ne_fault
  have hpaged : ∀ x ∈ ends, PagedOut (exchanges user x.1 ds) → ∃ out,
      Settles (answer user) e.config.idPageSize (.start x.1 (b.startToken w.stores user x.1)) []
        (exchanges user x.1 ds) out ∧
      x.2 = .ok (.ofSettled x.1 (b.startToken w.stores user x.1) out) ∧
      ∀ q, out = .ok q → savedTokens user x.1 ds = [q.token] := by
    rintro ⟨f, r⟩ hx hout
    have hfolder : f ∈ folders := hcensus.ended_mem hx
    cases r with
    | error fault => exact absurd rfl (hfault _ hx fault)
    | ok result =>
      obtain ⟨out, w', halone⟩ := h.exists_alone hfolder
      have hsettles := h.settles halone
      obtain ⟨hxs, hr, hts⟩ := (hstands _ hx).settled h.refusing hout (hanswered f) hsettles
      rw [← hxs] at hsettles
      exact ⟨out, hsettles, congrArg _ hr, hts⟩
  refine ⟨fun x hx => ?_, ?_⟩
  · rcases hund.ended x hx with hout | ⟨hnil, ⟨fault, hf⟩ | ⟨-, stored, hskip⟩⟩
    · exact .inr (hpaged x hx hout)
    · exact absurd hf (hfault x hx fault)
    · have hkept := (hstands x hx).complete_or_kept h.refusing
      rw [hnil] at hkept
      rcases hkept with ⟨q, hq, -⟩ | ⟨-, -, hresult⟩
      · exact absurd hq Paging.Reaches.nil_not_last
      · obtain ⟨-, -, htoken⟩ := hresult _ hskip
        have hstored : stored = b.startToken w.stores user x.1 := htoken
        exact .inl ⟨hnil, by rw [hskip, hstored]⟩
  · rintro ⟨x, hx, hskip⟩
    have hfailed : ∀ y ∈ ends, PagedOut (exchanges user y.1 ds) → Troubled y.2 → ∃ failure,
        Settles (answer user) e.config.idPageSize (.start y.1 (b.startToken w.stores user y.1)) []
          (exchanges user y.1 ds) (.error failure) := by
      intro y hy hout htrouble
      obtain ⟨out, hsettles, hr, -⟩ := hpaged y hy hout
      cases out with
      | error failure => exact ⟨failure, hsettles⟩
      | ok q => cases htrouble _ hr
    -- either the failure that says so came from the service, or the pool was stopped
    rcases hund.ended x hx with hout | ⟨-, ⟨fault, hf⟩ | ⟨hs, -⟩⟩
    · exact ⟨x, hx, hfailed x hx hout hskip.troubled⟩
    · exact absurd hf (hfault x hx fault)
    · obtain ⟨y, hy, ⟨fault, hf⟩ | ⟨hout, htrouble⟩⟩ := hund.cause hs
      · exact absurd hf (hfault y hy fault)
      · exact ⟨y, hy, hfailed y hy hout htrouble⟩

/-- A run nobody cancels goes through its folders, which end as they do by themselves, and comes to a report. -/
theorem ran (h : Independent b answer e roots now user w folders) {result : Except Fault Report}
    {w' : World τ Progress} (hruns : RunsLate e roots now user w (result, w')) (hc : w'.cancelled = false) :
    ∃ ds ends report, w.Leads e ds w' ∧ Ran e roots now user w folders ends ds (.ok report) ∧
      result = .ok report ∧ Ended b answer e user w ds ends := by
  obtain ⟨w₁, w₂, k, hd, hs, hidle, hlate, hout⟩ := hruns.through h.found
  obtain ⟨ds₁, ha₁, hq⟩ := discoverAll_acts e user roots [] w
  rw [hd] at ha₁
  have hsorted := discoverAll_sorted List.Pairwise.nil hd
  have hstart := Backlog.Inv.ofFolders user e.config.maxFolderWorkers ha₁.leads (FolderSet.nodup_of_sorted hsorted) hq
  obtain ⟨ds₂, taken, hinv, hund⟩ := hstart.steps_undisturbed (fun _ => .nil user ds₁) hs
  rw [List.nil_append] at hinv hund
  obtain ⟨ds₃, hcloses, ha₃⟩ := concludeRun_closes e roots now user (hinv.took_all hlate) folders.length w₂
  rw [← hout] at hcloses ha₃
  have hended := h.ended hinv.leads hinv.census (hund (ha₃.leads.uncancelled hc))
  have hran := hinv.ran hsorted hidle hcloses
  have hreport : ∃ report, result = .ok report := by
    cases hcloses with
    | fault hf =>
      obtain ⟨x, hx, hfault⟩ := List.mem_map.mp hf
      rcases hended.each x hx with ⟨-, hr⟩ | ⟨out, -, hr, -⟩
      · cases hr.symm.trans hfault
      · cases hr.symm.trans hfault
    | failed _ _ => exact ⟨_, rfl⟩
    | stuck _ _ ha =>
      obtain ⟨stamp, hstamp⟩ := h.time
      obtain ⟨-, hr⟩ := ha.of_takesMarks h.refusing (hinv.leads.takesMarks h.refusing h.marks) hstamp
      cases hr
    | completed _ _ _ => exact ⟨_, rfl⟩
  obtain ⟨report, rfl⟩ := hreport
  refine ⟨_, _, report, hinv.leads.trans ha₃.leads, hran, rfl, ⟨fun x hx => ?_, fun hskip => ?_⟩⟩
  · rw [exchanges_append, savedTokens_append, (hcloses.elsewhere user x.1).1, (hcloses.elsewhere user x.1).2,
      List.append_nil, List.append_nil]
    exact hended.each x hx
  · obtain ⟨y, hy, failure, hsettles⟩ := hended.cause hskip
    refine ⟨y, hy, failure, ?_⟩
    rw [exchanges_append, (hcloses.elsewhere user y.1).1, List.append_nil]
    exact hsettles

/-- A run of folders all of which come to their final pages by themselves: what it reports, asks and writes. -/
structure AllFinished (roots : List FolderId) (user : User) (folders : FolderSet) (xs : FolderId → List SyncExchange)
    (pagings : FolderId → Paging) (next : Instant) (ds : List Event) (result : Except Fault Report) : Prop where
  report : ∃ results, result = .ok { user, roots, folders := results, watermark := some next } ∧
    results.Perm (folders.map fun f => .finished (pagings f))
  exchanges : ∀ f ∈ folders, exchanges user f ds = xs f
  savedTokens : ∀ f ∈ folders, savedTokens user f ds = [(pagings f).token]
  elsewhere :
    ∀ u f, ¬ (u = user ∧ f ∈ folders) → Journal.exchanges u f ds = [] ∧ Journal.savedTokens u f ds = []
  savedWatermarks : savedWatermarks ds = [(user, next)]

/-- If all folders come to their final pages by themselves, none is left out and the watermark moves. -/
theorem allFinished (h : Independent b answer e roots now user w folders) {xs : FolderId → List SyncExchange}
    {pagings : FolderId → Paging} {stamp : Instant} {result : Except Fault Report} {w' : World τ Progress}
    (hall : ∀ f ∈ folders,
      Settles (answer user) e.config.idPageSize (.start f (b.startToken w.stores user f)) [] (xs f)
      (.ok (pagings f))) (hstamp : e.stampOf now = .ok stamp) (hruns : RunsLate e roots now user w (result, w'))
    (hc : w'.cancelled = false) :
    ∃ ds, w.Leads e ds w' ∧
      AllFinished roots user folders xs pagings (stamp.later (b.watermark w.stores user)) ds result := by
  obtain ⟨ds, ends, report, hl, hran, rfl, hended⟩ := h.ran hruns hc
  have hsettled : ∀ x ∈ ends, ∀ ys out, Settles (answer user) e.config.idPageSize
      (.start x.1 (b.startToken w.stores user x.1)) [] ys out → ys = xs x.1 ∧ out = .ok (pagings x.1) := by
    intro x hx ys out hsettles
    exact hsettles.unique (hall x.1 (hran.all.subset (List.mem_map_of_mem hx)))
  have hfinished :
    ∀ x ∈ ends, exchanges user x.1 ds = xs x.1 ∧ savedTokens user x.1 ds = [(pagings x.1).token] ∧
      x.2 = .ok (.finished (pagings x.1)) := by
    intro x hx
    rcases hended.each x hx with ⟨-, hskip⟩ | ⟨out, hsettles, hr, hts⟩
    · -- a folder that was left out is the fault of another one, which there is not
      obtain ⟨y, hy, failure, hsettles⟩ := hended.cause ⟨x, hx, _, hskip⟩
      obtain ⟨-, hout⟩ := hsettled y hy _ _ hsettles
      cases hout
    · obtain ⟨hxs, rfl⟩ := hsettled x hx _ _ hsettles
      exact ⟨hxs, hts _ rfl, hr⟩
  have hresult : ∀ r ∈ report.folders, r = .finished (pagings r.folder) := by
    intro r hr
    have hx : (r.folder, .ok r) ∈ ends := hran.ends_eq ▸ List.mem_map_of_mem hr
    exact Except.ok.inj (hfinished _ hx).2.2
  have hresults : report.folders.Perm (folders.map fun f => .finished (pagings f)) := by
    have hself : (report.folders.map (·.folder)).map (fun f => .finished (pagings f)) = report.folders := by
      rw [List.map_map]
      exact (List.map_congr_left fun r hr => (hresult r hr).symm).trans (List.map_id _)
    rw [← hself, hran.folders_eq]
    exact hran.all.map _
  have hok : ∀ r ∈ report.folders, r.ok = true := by
    intro r hr
    rw [hresult r hr]
    rfl
  refine ⟨ds, hl, ?_⟩
  have hexchanges : ∀ f ∈ folders, exchanges user f ds = xs f := by
    intro f hf
    obtain ⟨r, hr⟩ := hran.exists_end hf
    exact (hfinished _ hr).1
  have hsaved : ∀ f ∈ folders, savedTokens user f ds = [(pagings f).token] := by
    intro f hf
    obtain ⟨r, hr⟩ := hran.exists_end hf
    exact (hfinished _ hr).2.1
  obtain ⟨hreport, hmarks⟩ := hran.moves_watermark h.refusing h.marks hstamp hok
  exact ⟨⟨_, congrArg _ hreport, hresults⟩, hexchanges, hsaved, hran.elsewhere, hmarks⟩

end Independent

/-! ## Two schedules -/

/-- What two runs from `w` have in common: their reports but for the order of the folders, what is kept afterwards, and
what was asked for each folder. -/
structure SameOutcome (b : Backend) (w : World τ Progress) (report₁ report₂ : Report)
    (w₁ w₂ : World τ Progress) :
    Prop where
  folders : report₁.folders.Perm report₂.folders
  itemIds : report₁.itemIds.Perm report₂.itemIds
  rest : report₂ = { report₁ with folders := report₂.folders }
  exchanges : ∀ u f, exchanges u f (w.eventsSince w₁) = exchanges u f (w.eventsSince w₂)
  kept : ∀ u f, b.kept w₁.stores u f = b.kept w₂.stores u f
  mark : ∀ u, b.mark w₁.stores u = b.mark w₂.stores u

section Same

variable {b : Backend} {answer : User → Answering} {e e₁ e₂ : Env τ Progress} {roots : List FolderId}
  {now : Option Stamp} {user : User} {w w₁ w₂ : World τ Progress} {folders : FolderSet}

theorem Report.itemIds_perm {report₁ report₂ : Report} (h : report₁.folders.Perm report₂.folders) :
    report₁.itemIds.Perm report₂.itemIds := (h.filter _).map _

/-- Two runs in which the same folders finish in the same way. -/
theorem Independent.AllFinished.same {xs : FolderId → List SyncExchange} {pagings : FolderId → Paging}
    {next : Instant} {ds₁ ds₂ : List Event} {r₁ r₂ : Except Fault Report}
    (h₁ : Independent.AllFinished roots user folders xs pagings next ds₁ r₁)
    (h₂ : Independent.AllFinished roots user folders xs pagings next ds₂ r₂) (hl₁ : w.Leads e₁ ds₁ w₁)
    (hl₂ : w.Leads e₂ ds₂ w₂)
    (he₁ : e₁.stores = b.stores.refusing []) (he₂ : e₂.stores = b.stores.refusing [])
    (hk : b.TakesMarks w.stores) :
    ∃ report₁ report₂, r₁ = .ok report₁ ∧ r₂ = .ok report₂ ∧ report₁.error = none ∧
      SameOutcome b w report₁ report₂ w₁ w₂ := by
  obtain ⟨results₁, rfl, hperm₁⟩ := h₁.report
  obtain ⟨results₂, rfl, hperm₂⟩ := h₂.report
  have hperm : results₁.Perm results₂ := hperm₁.trans hperm₂.symm
  have hdeeds : ∀ u f, Journal.exchanges u f ds₁ = Journal.exchanges u f ds₂ ∧
      Journal.savedTokens u f ds₁ = Journal.savedTokens u f ds₂ := by
    intro u f
    by_cases hmine : u = user ∧ f ∈ folders
    · obtain ⟨rfl, hf⟩ := hmine
      rw [h₁.exchanges f hf, h₂.exchanges f hf, h₁.savedTokens f hf, h₂.savedTokens f hf]
      exact ⟨rfl, rfl⟩
    · obtain ⟨hx₁, ht₁⟩ := h₁.elsewhere u f hmine
      obtain ⟨hx₂, ht₂⟩ := h₂.elsewhere u f hmine
      rw [hx₁, hx₂, ht₁, ht₂]
      exact ⟨rfl, rfl⟩
  refine ⟨_, _, rfl, rfl, rfl, hperm, Report.itemIds_perm hperm, rfl, fun u f => ?_, fun u f => ?_, fun u => ?_⟩
  · rw [hl₁.exchanges_eventsSince, hl₂.exchanges_eventsSince]
    exact (hdeeds u f).1
  · rw [hl₁.kept he₁, hl₂.kept he₂, (hdeeds u f).2]
  · exact hl₁.mark_eq hl₂ he₁ he₂ hk (h₁.savedWatermarks.trans h₂.savedWatermarks.symm) u

/-- **The schedule does not matter.**  When folders do not disturb one another, then for every number of slots the run
whose slots move in turn comes to an end.  It is one of those in which folders come into their slots, have their turns
and are taken in in any order, and of these, as long as nobody cancels,

* each makes a report with one result for each folder, which is that the folder was left out, or what the folder comes
  to by itself, after the same exchanges;
* if every folder comes to its final page by itself, any two have the same outcome, whatever their numbers of slots and
  the orders in which things happen. -/
theorem Independent.schedule_independence (h : Independent b answer e roots now user w folders) :
    (∀ n hn, ∃ fuel out, syncUser (e.withWorkers n hn) fuel roots now user w = some out ∧
        RunsLate (e.withWorkers n hn) roots now user w out ∧ out.2.cancelled = false) ∧
      (∀ n hn result w', RunsLate (e.withWorkers n hn) roots now user w (result, w') → w'.cancelled = false →
        ∃ report, result = .ok report ∧ (report.folders.map (·.folder)).Perm folders ∧ ∀ r ∈ report.folders,
          r = .failed r.folder (b.startToken w.stores user r.folder) (.cancelled (.notStarted r.folder)) ∨
            ∃ out w'', Alone b e user w r.folder out w'' ∧
              r = .ofSettled r.folder (b.startToken w.stores user r.folder) out ∧
              exchanges user r.folder (w.eventsSince w') = exchanges user r.folder (w.eventsSince w'')) ∧
      ((∀ f ∈ folders, ∃ p w', Alone b e user w f (.ok p) w') →
        ∀ n hn m hm r₁ w₁ r₂ w₂,
          RunsLate (e.withWorkers n hn) roots now user w (r₁, w₁) → w₁.cancelled = false →
          RunsLate (e.withWorkers m hm) roots now user w (r₂, w₂) → w₂.cancelled = false →
            ∃ report₁ report₂, r₁ = .ok report₁ ∧ r₂ = .ok report₂ ∧ report₁.error = none ∧
              SameOutcome b w report₁ report₂ w₁ w₂) := by
  refine ⟨fun n hn => ?_, fun n hn result w' hruns hc => ?_, fun hall n hn m hm => ?_⟩
  · obtain ⟨fuel, out, hrun, hc⟩ := (h.withWorkers n hn).exists_run
    exact ⟨fuel, out, hrun, runsLate_of_syncUser hrun, hc⟩
  · obtain ⟨ds, ends, report, hl, hran, rfl, hended⟩ := (h.withWorkers n hn).ran hruns hc
    refine ⟨report, rfl, hran.folders_eq ▸ hran.all, fun r hr => ?_⟩
    have hx : (r.folder, .ok r) ∈ ends := hran.ends_eq ▸ List.mem_map_of_mem hr
    have hfolder : r.folder ∈ folders := hran.all.subset (List.mem_map_of_mem (f := (·.1)) hx)
    rcases hended.each _ hx with ⟨-, hskip⟩ | ⟨out, hsettles, hresult, -⟩
    · exact .inl (Except.ok.inj hskip)
    · obtain ⟨out', w'', halone⟩ := h.exists_alone hfolder
      obtain ⟨hxs, rfl⟩ := hsettles.unique (h.settles halone)
      refine .inr ⟨out, w'', halone, Except.ok.inj hresult, ?_⟩
      rw [hl.exchanges_eventsSince]
      exact hxs
  · intro r₁ w₁ r₂ w₂ hruns₁ hc₁ hruns₂ hc₂
    obtain ⟨stamp, hstamp⟩ := h.time
    have hsettles : ∀ f ∈ folders, ∃ xs p,
        Settles (answer user) e.config.idPageSize (.start f (b.startToken w.stores user f)) [] xs (.ok p) := by
      intro f hf
      obtain ⟨p, w', halone⟩ := hall f hf
      exact ⟨_, p, h.settles halone⟩
    choose! xs pagings hsettles using hsettles
    obtain ⟨ds₁, hl₁, hfin₁⟩ := (h.withWorkers n hn).allFinished hsettles hstamp hruns₁ hc₁
    obtain ⟨ds₂, hl₂, hfin₂⟩ := (h.withWorkers m hm).allFinished hsettles hstamp hruns₂ hc₂
    exact hfin₁.same hfin₂ hl₁ hl₂ (h.withWorkers n hn).refusing (h.withWorkers m hm).refusing h.marks

end Same

end Independence

/-! ## A desk keeps folders apart -/

namespace Desk

variable {d : Desk}

theorem send_plain (listener : Option Level) (hq : d.queues = []) (hf : d.failures = []) (user : User)
    (request : Request) : (direct listener).send d user request =
      ({ outcome := .ok (d.mailbox.answer request) }, { d with seen := (user, request) :: d.seen }) := by
  simp [direct, choose, hq, hf, dequeue, Script.response]

theorem after_plain (listener : Option Level) (hq : d.queues = []) (hf : d.failures = [])
    (asked : List (User × Request)) :
    (direct listener).after d asked = { d with seen := asked.reverse ++ d.seen } := by
  induction asked generalizing d with
  | nil => rfl
  | cons x asked ih =>
    obtain ⟨user, request⟩ := x
    unfold Transport.after
    rw [send_plain listener hq hf]
    have hrest := ih (d := { d with seen := (user, request) :: d.seen }) hq hf
    rw [hrest]
    simp

/-- **A desk without canned answers keeps folders apart**: it answers a sync request from its mailbox, whatever was
asked before. -/
theorem direct_apart (listener : Option Level) (hq : d.queues = []) (hf : d.failures = []) :
    (direct listener).Apart (fun _ _ r => .ok (d.mailbox.answer (.sync r))) d where
  sync := by
    intro asked user r
    rw [after_plain listener hq hf, send_plain listener (by exact hq) (by exact hf)]
    rfl
  find := by
    intro asked user r fault
    rw [after_plain listener hq hf, send_plain listener (by exact hq) (by exact hf)]
    simp

end Desk

/-- A folder of two pages and one of a single page. -/
def twoFolders : Session where
  desk := { mailbox := (({} : Mailbox).append "a" [.created "x", .created "y"]).append "b" [.created "z"] }
  config := .ofSizes 1 100 2

/-- They do not disturb one another. -/
theorem twoFolders_independent : Independent .memory (fun _ _ r => .ok (twoFolders.desk.mailbox.answer (.sync r)))
    twoFolders.env ["root"] none "u" (twoFolders.world .never) ["a", "b"] where
  stores := rfl
  tokens := trivial
  marks := .inl trivial
  time := ⟨.epoch, rfl⟩
  calm := .inl rfl
  apart := Desk.direct_apart none rfl rfl
  found := by
    have hfound : (discoverAll twoFolders.env.transport "u" ["root"] [] (twoFolders.world .never)).1.toOption =
        some ["a", "b"] := by decide +kernel
    exact ok_of_toOption hfound
  finite := by
    intro f hf
    refine ⟨9, ?_⟩
    rcases List.mem_cons.mp hf with rfl | hf
    · decide +kernel
    · obtain rfl := List.mem_singleton.mp hf
      decide +kernel

/-- Their runs with one slot and with two come to an end, and to the same outcome. -/
theorem twoFolders_schedule_independence : ∃ r₁ w₁ r₂ w₂ report₁ report₂,
    RunsLate (twoFolders.env.withWorkers 1 (by decide)) ["root"] none "u" (twoFolders.world .never) (r₁, w₁) ∧
      RunsLate (twoFolders.env.withWorkers 2 (by decide)) ["root"] none "u" (twoFolders.world .never) (r₂, w₂) ∧
      r₁ = .ok report₁ ∧ r₂ = .ok report₂ ∧
        SameOutcome .memory (twoFolders.world .never) report₁ report₂ w₁ w₂ := by
  obtain ⟨hends, -, hsame⟩ := twoFolders_independent.schedule_independence
  obtain ⟨_, ⟨r₁, w₁⟩, -, hruns₁, hc₁⟩ := hends 1 (by decide)
  obtain ⟨_, ⟨r₂, w₂⟩, -, hruns₂, hc₂⟩ := hends 2 (by decide)
  have halone :
    ∀ f ∈ ["a", "b"], ∃ p w', Alone .memory twoFolders.env "u" (twoFolders.world .never) f (.ok p) w' := by
    intro f hf
    have hfinished : ∀ f ∈ ["a", "b"], ((syncFolder twoFolders.env.transport 9 f "u" "" 1
        (twoFolders.world .never)).bind (·.1.toOption)).isSome = true := by decide +kernel
    obtain ⟨p, hp⟩ := Option.isSome_iff_exists.mp (hfinished f hf)
    obtain ⟨⟨result, w'⟩, hrun, hp⟩ := Option.bind_eq_some_iff.mp hp
    obtain rfl := ok_of_toOption hp
    exact ⟨p, w', 9, hrun⟩
  obtain ⟨report₁, report₂, hr₁, hr₂, -, hout⟩ :=
    hsame halone 1 _ 2 _ r₁ w₁ r₂ w₂ hruns₁ hc₁ hruns₂ hc₂
  exact ⟨r₁, w₁, r₂, w₂, report₁, report₂, hruns₁, hruns₂, hr₁, hr₂, hout⟩

end MailboxSync
