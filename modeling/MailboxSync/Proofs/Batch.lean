import MailboxSync.Proofs.History
import MailboxSync.Session

/-!
# Runs of several users

* `Batch` — the runs a call for several users makes, one user after another, in whatever order the slots of their
  pools move; `syncUsers` makes one of these (`batch_of_syncUsers`);
* `Call.stands_of_report` — a folder on a report is one the run found, and its result is what it came to;
* `Call.ReportsAll` — every token a run wrote stands on its report, beside the items that were paged to reach it;
* `Batch.reportsAll_iff` — a run reports all it wrote exactly if no fault ended it or it wrote nothing.  A fault ends
  the run before its report is made, and the report that takes its place has no folders.
-/

namespace MailboxSync

open Journal

variable {τ ς : Type} {e : Env τ ς} {roots : List FolderId} {now : Option Stamp} {users : List User}
  {w w' : World τ ς} {cs : List (Call τ ς)}

namespace Call

/-- The report of a run: its own, or the one that takes its place after a fault. -/
def report (c : Call τ ς) : Report :=
  match c.result with
  | .ok report => report
  | .error fault => .ofFault c.user c.roots fault

/-- The world after a run and the note on a fault that ended it. -/
def noted (c : Call τ ς) : World τ ς :=
  match c.result with
  | .ok _ => c.after
  | .error fault =>
    let text := fault.message
    c.after.note .error s!"Error syncing {c.user}: {text}"

/-- Every token the run wrote is the user's own and stands on the report, its folder ok, with the new items of every
reply of that folder. -/
def ReportsAll (c : Call τ ς) : Prop :=
  ∀ u folder, ∀ token ∈ savedTokens u folder c.events, u = c.user ∧ ∃ r ∈ c.report.folders,
    r.folder = folder ∧ r.ok = true ∧ r.token = token ∧
      r.items = (exchanges u folder c.events).flatMap fun x => newItems x.2

theorem leads_noted (c : Call τ ς) : c.before.Leads c.env (deeds c.events) c.noted := by
  unfold noted
  split
  · exact c.leads
  · exact c.leads.note _

theorem report_user (c : Call τ ς) : c.report.user = c.user := by
  unfold report
  split
  · rename_i report hreport
    obtain ⟨ds, -, ⟨trouble, -, -, hresult⟩ | ⟨folders, ends, -, hran⟩⟩ := c.runs.cases
    · rw [hreport] at hresult
      cases trouble with
      | failure failure =>
        cases hresult
        rfl
      | fault fault => cases hresult
    · rw [hreport] at hran
      obtain ⟨_, _, _, -, -, hc, -⟩ := hran.closes
      cases hc with
      | failed _ _ => rfl
      | completed _ _ _ => rfl
  · rfl

theorem stands_of_report (c : Call τ ς) {r : FolderResult} (hr : r ∈ c.report.folders) :
    (∃ folders, c.found = .ok folders ∧ r.folder ∈ folders) ∧
      Stands c.env c.user c.before r.folder (exchanges c.user r.folder c.events) (savedTokens c.user r.folder c.events)
        (.ended (.ok r)) := by
  obtain ⟨ds, hl, hcases⟩ := c.runs.cases
  have hx : exchanges c.user r.folder c.events = exchanges c.user r.folder ds := hl.exchanges_eventsSince ..
  have ht : savedTokens c.user r.folder c.events = savedTokens c.user r.folder ds := hl.savedTokens_eventsSince ..
  rw [hx, ht]
  unfold report at hr
  split at hr
  · rename_i report hreport
    rw [hreport] at hcases
    rcases hcases with ⟨trouble, -, -, htrouble⟩ | ⟨folders, ends, hd, hran⟩
    · cases trouble <;> cases htrouble
      cases hr
    · have hend : (r.folder, .ok r) ∈ ends := hran.ends_eq ▸ List.mem_map.mpr ⟨r, hr, rfl⟩
      exact ⟨⟨folders, hd, hran.all.mem_iff.mp (List.mem_map_of_mem hend)⟩, hran.stands _ hend⟩
  · cases hr

end Call

/-- The runs of users one after another; what is returned in the end are their reports. -/
inductive Batch (e : Env τ ς) (roots : List FolderId) (now : Option Stamp) :
    List User → World τ ς → List (Call τ ς) → World τ ς → Prop
  | done (w : World τ ς) : Batch e roots now [] w [] w
  | cancelled {user : User} {users : List User} {w : World τ ς} (hc : w.cancelled = true) :
    Batch e roots now (user :: users) w [] (w.note .info "Sync cancelled, skipping remaining users")
  | ran {users : List User} {w' : World τ ς} {cs : List (Call τ ς)} (c : Call τ ς) (he : c.env = e)
    (hr : c.roots = roots) (hn : c.now = now) (hc : c.before.cancelled = false)
    (rest : Batch e roots now users c.noted cs w') : Batch e roots now (c.user :: users) c.before (c :: cs) w'

theorem batch_of_syncUsers {fuel : Nat} {reports : List Report}
    (h : syncUsers e fuel roots now users w = some (reports, w')) :
    ∃ cs, Batch e roots now users w cs w' ∧ reports = cs.map Call.report := by
  induction users generalizing w reports with
  | nil =>
    cases h
    exact ⟨[], .done _, rfl⟩
  | cons user users ih =>
    unfold syncUsers at h
    split at h
    · rename_i hc
      cases h
      exact ⟨[], .cancelled hc, rfl⟩
    · rename_i hc
      simp only [Bool.not_eq_true] at hc
      split at h
      · cases h
      · rename_i report w₁ hrun
        obtain ⟨⟨rest, w₂⟩, hrest, heq⟩ := Option.map_eq_some_iff.mp h
        cases heq
        let c : Call τ ς := ⟨e, roots, now, user, w, .ok report, w₁, runsLate_of_syncUser hrun⟩
        obtain ⟨cs, hb, rfl⟩ := ih hrest
        exact ⟨c :: cs, .ran c rfl rfl rfl hc hb, rfl⟩
      · rename_i fault w₁ hrun
        obtain ⟨⟨rest, w₂⟩, hrest, heq⟩ := Option.map_eq_some_iff.mp h
        cases heq
        let c : Call τ ς := ⟨e, roots, now, user, w, .error fault, w₁, runsLate_of_syncUser hrun⟩
        obtain ⟨cs, hb, rfl⟩ := ih hrest
        exact ⟨c :: cs, .ran c rfl rfl rfl hc hb, rfl⟩

theorem Batch.leads (h : Batch e roots now users w cs w') : w.Leads e (cs.flatMap fun c => deeds c.events) w' := by
  induction h with
  | done w => exact .refl
  | cancelled hc => exact World.Leads.refl.note _
  | ran c he _ _ _ _ ih =>
    subst he
    rw [List.flatMap_cons]
    exact c.leads_noted.trans ih

theorem Batch.users_prefix (h : Batch e roots now users w cs w') : cs.map (·.user) <+: users := by
  induction h with
  | done w => exact List.nil_prefix
  | cancelled hc => exact List.nil_prefix
  | ran c _ _ _ _ _ ih => exact (List.prefix_cons_inj c.user).mpr ih

/-- A run that found its folders writes for them only, and reports what it writes if it makes a report. -/
theorem Ran.reported {user : User} {folders : FolderSet} {ends : Ends} {ds : List Event} {report : Report}
    (h : Ran e roots now user w folders ends ds (.ok report)) {u : User} {folder : FolderId} {token : Token}
    (ht : token ∈ savedTokens u folder ds) :
    u = user ∧ ∃ r ∈ report.folders, r.folder = folder ∧ r.ok = true ∧ r.token = token ∧
      r.items = (exchanges u folder ds).flatMap fun x => newItems x.2 := by
  by_cases hmine : u = user ∧ folder ∈ folders
  · obtain ⟨rfl, hf⟩ := hmine
    obtain ⟨o, ho⟩ := h.exists_end hf
    have hs : Stands e u w folder (exchanges u folder ds) (savedTokens u folder ds) (.ended o) := h.stands _ ho
    generalize savedTokens u folder ds = ts at ht hs
    generalize exchanges u folder ds = xs at hs
    cases hs with
    | @finished stored p _ _ hp =>
      obtain rfl := List.mem_singleton.mp ht
      obtain ⟨r, hr, heq⟩ := List.mem_map.mp (h.ends_eq ▸ ho)
      simp only [Prod.mk.injEq, Except.ok.injEq] at heq
      obtain ⟨rfl, rfl⟩ := heq
      exact ⟨rfl, _, hr, rfl, rfl, rfl, hp.items_eq⟩
    | _ => cases ht
  · rw [(h.elsewhere u folder hmine).2] at ht
    cases ht

theorem Call.reportsAll_of_report (c : Call τ ς) {report : Report} (h : c.result = .ok report) : c.ReportsAll := by
  obtain ⟨ds, hl, hcases⟩ := c.runs.cases
  have hreport : c.report = report := by simp [Call.report, h]
  have hx : ∀ u f, exchanges u f c.events = exchanges u f ds := hl.exchanges_eventsSince
  have ht : ∀ u f, savedTokens u f c.events = savedTokens u f ds := hl.savedTokens_eventsSince
  intro u folder token htoken
  rw [ht] at htoken
  rcases hcases with ⟨_, _, hq, _⟩ | ⟨folders, ends, _, hran⟩
  · rw [hq.savedTokens] at htoken
    cases htoken
  · rw [hreport, hx]
    exact (h ▸ hran).reported htoken

/-- **A run reports all it wrote exactly if no fault ended it or it wrote nothing**; and nothing is written in a batch
but in its runs. -/
theorem Batch.reportsAll_iff (h : Batch e roots now users w cs w') :
    deeds (w.eventsSince w') = (cs.flatMap fun c => deeds c.events) ∧
      ∀ c ∈ cs, c.ReportsAll ↔ (∃ report, c.result = .ok report) ∨
        ∀ u f, savedTokens u f c.events = [] := by
  refine ⟨h.leads.deeds_eventsSince, fun c _ => ⟨fun hall => ?_, fun hor => ?_⟩⟩
  · cases hr : c.result with
    | ok report => exact .inl ⟨report, rfl⟩
    | error fault =>
      refine .inr fun u f => List.eq_nil_iff_forall_not_mem.mpr fun token ht => ?_
      obtain ⟨-, r, hmem, -⟩ := hall u f token ht
      simp [Call.report, hr, Report.ofFault] at hmem
  · rcases hor with ⟨report, hr⟩ | hnil
    · exact c.reportsAll_of_report hr
    · intro u f token ht
      rw [hnil] at ht
      cases ht

/-- A mailbox of two folders, the second of which breaks every run that comes to it. -/
def halfBroken : Session where
  desk :=
    { mailbox := (({} : Mailbox).append "a" [.created "x"]).append "b" []
      failures := [({ operation := some .sync, target := some "b" }, { script := .raises (.fault (.broken "down")) })] }
  config := .ofSizes 512 100 1

/-- The run that breaks there. -/
def halfBrokenCall : Call Desk Progress :=
  .ofSyncUser halfBroken.env 9 ["root"] none "u" (halfBroken.world .never) (by decide +kernel)

/-- It has written the token of the first folder by then, so it does not report all. -/
theorem halfBrokenCall_reportsAll_iff :
    savedTokens "u" "a" halfBrokenCall.events = ["a@1"] ∧ ¬ halfBrokenCall.ReportsAll := by
  have hbatch : Batch halfBroken.env ["root"] none ["u"] (halfBroken.world .never) [halfBrokenCall]
      halfBrokenCall.noted := .ran halfBrokenCall rfl rfl rfl rfl (.done _)
  have hsaved : savedTokens "u" "a" halfBrokenCall.events = ["a@1"] := by decide +kernel
  have hbroken : halfBrokenCall.result.toOption.isNone = true := by decide +kernel
  obtain ⟨-, hiff⟩ := hbatch.reportsAll_iff
  refine ⟨hsaved, fun hall => ?_⟩
  rcases (hiff _ List.mem_cons_self).mp hall with ⟨report, hr⟩ | hnil
  · rw [hr] at hbroken
    cases hbroken
  · rw [hnil] at hsaved
    cases hsaved

/-- What a fault leaves unreported: the token of a folder that finished before it, while the report that takes the place
of the run's has no folders. -/
theorem syncUsers_unreported : ∃ reports w',
    syncUsers halfBroken.env 9 ["root"] none ["u"] (halfBroken.world .never) = some (reports, w') ∧
      Event.savedToken "u" "a" "a@1" ∈ (halfBroken.world .never).eventsSince w' ∧
      ∀ report ∈ reports, ∀ r ∈ report.folders, r.folder ≠ "a" := by
  have hout : ((syncUsers halfBroken.env 9 ["root"] none ["u"] (halfBroken.world .never)).map fun out =>
      (savedTokens "u" "a" ((halfBroken.world .never).eventsSince out.2), out.1.map (·.folders))) =
        some (["a@1"], [[]]) := by decide +kernel
  obtain ⟨⟨reports, w'⟩, hrun, hout⟩ := Option.map_eq_some_iff.mp hout
  obtain ⟨hsaved, hreports⟩ := Prod.mk.inj hout
  refine ⟨reports, w', hrun, mem_savedTokens.mp (hsaved ▸ List.mem_singleton_self _),
    fun report hreport r hr => ?_⟩
  have hnil : report.folders ∈ [[]] := hreports ▸ List.mem_map_of_mem hreport
  rw [List.mem_singleton.mp hnil] at hr
  cases hr

end MailboxSync
