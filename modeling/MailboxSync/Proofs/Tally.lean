import Mathlib.Algebra.BigOperators.Finprod
import MailboxSync.Proofs.Completion
import MailboxSync.Proofs.Consistency
import MailboxSync.Proofs.ExactlyOnce
import MailboxSync.Proofs.Halting

/-!
# What a worker counts

A worker counts the items of a report that has no error.  A report with an error may list items too, those of the
folders that finished.  Their tokens are kept, so no later report lists these items again.

* `Stats.Tallies` — statistics next to the reports taken in: what is counted and what reports with an error list make
  up all that is listed;
* `Worker.Polls` — polls one after another, on a mailbox that only grows between them and serves in them;
* `Backend.passed` — the items of a folder up to a user's token;
* `Worker.Polls.tally` — **after polls from a fresh start**, the statistics and what reports with an error list make
  up exactly what the tokens have passed; so no item is missing from them if and only if no such report lists one.
-/

namespace MailboxSync

open Journal

/-! ## Reports taken in -/

def Report.listed (r : Report) : List ItemId := r.itemIds.flatMap (·.2)

theorem Report.length_listed (r : Report) : r.listed.length = r.totalItems := by
  rw [totalItems_eq, listed, List.length_flatMap]

/-- The items that reports list. -/
def listed (reports : List Report) : List ItemId := reports.flatMap Report.listed

def listedTo (user : User) (reports : List Report) : List ItemId := listed (reports.filter (·.user = user))

/-- The reports whose items are not counted. -/
def uncounted (reports : List Report) : List Report := reports.filter (!·.ok)

theorem listed_append (rs rs' : List Report) : listed (rs ++ rs') = listed rs ++ listed rs' := List.flatMap_append

theorem listed_singleton (r : Report) : listed [r] = r.listed := List.flatMap_singleton ..

theorem listedTo_append (user : User) (rs rs' : List Report) :
    listedTo user (rs ++ rs') = listedTo user rs ++ listedTo user rs' := by
  rw [listedTo, List.filter_append, listed_append]
  rfl

theorem listedTo_singleton (user : User) (r : Report) :
    listedTo user [r] = if r.user = user then r.listed else [] := by
  by_cases hu : r.user = user <;> simp [listedTo, listed, hu]

theorem uncounted_append (rs rs' : List Report) : uncounted (rs ++ rs') = uncounted rs ++ uncounted rs' :=
  List.filter_append ..

def Stats.counted (s : Stats) (user : User) : Nat := (s.byUser.get? user).getD 0

/-- Statistics next to the reports they have taken in. -/
structure Stats.Tallies (s : Stats) (reports : List Report) : Prop where
  errors : s.errors = (uncounted reports).length
  items : s.items + (listed (uncounted reports)).length = (listed reports).length
  users : ∀ user, s.counted user + (listedTo user (uncounted reports)).length = (listedTo user reports).length
  sum : s.items = (s.byUser.entries.map (·.2)).sum

theorem Table.sum_putIn {α : Type} [DecidableEq α] (k : α) (n : Nat) (es : List (α × Nat)) :
    ((putIn k ((find k es).getD 0 + n) es).map (·.2)).sum = (es.map (·.2)).sum + n := by
  induction es with
  | nil => simp [putIn, find]
  | cons e es ih => grind [putIn, find]

namespace Stats

variable {s : Stats} {reports : List Report}

theorem Tallies.empty : Tallies {} [] := ⟨rfl, rfl, fun _ => rfl, rfl⟩

/-- A report without an error is counted. -/
theorem Tallies.counts (h : s.Tallies reports) {r : Report} (hok : r.ok = true) :
    (s.record r).Tallies (reports ++ [r]) := by
  have huncounted : uncounted (reports ++ [r]) = uncounted reports := by simp [uncounted, hok]
  have htotal := r.length_listed
  simp only [record, hok, if_true]
  refine ⟨huncounted ▸ h.errors, ?_, fun user => ?_, ?_⟩
  · have hitems := h.items
    rw [huncounted, listed_append, listed_singleton, List.length_append]
    dsimp only
    omega
  · have husers := h.users user
    rw [huncounted, listedTo_append, listedTo_singleton, List.length_append]
    simp only [counted, Table.get?_put] at husers ⊢
    by_cases hu : r.user = user
    · subst hu
      simp only [if_true, Option.getD_some]
      omega
    · simp only [hu, Ne.symm hu, if_false, List.length_nil]
      omega
  · exact (congrArg (· + r.totalItems) h.sum).trans (Table.sum_putIn r.user r.totalItems s.byUser.entries).symm

theorem Tallies.errs (h : s.Tallies reports) {r : Report} (hok : r.ok = false) :
    (s.record r).Tallies (reports ++ [r]) := by
  have huncounted : uncounted [r] = [r] := by simp [uncounted, hok]
  simp only [record, hok, Bool.false_eq_true, if_false]
  refine ⟨?_, ?_, fun user => ?_, h.sum⟩
  · rw [uncounted_append, huncounted, List.length_append, ← h.errors]
    rfl
  · rw [uncounted_append, huncounted, listed_append, listed_append, List.length_append, List.length_append,
      ← h.items]
    exact (Nat.add_assoc ..).symm
  · rw [uncounted_append, huncounted, listedTo_append, listedTo_append, List.length_append, List.length_append,
      ← h.users user]
    exact (Nat.add_assoc ..).symm

theorem Tallies.record (h : s.Tallies reports) (r : Report) : (s.record r).Tallies (reports ++ [r]) := by
  cases hok : r.ok with
  | true => exact h.counts hok
  | false => exact h.errs hok

theorem record_polls (s : Stats) (r : Report) : (s.record r).polls = s.polls := by
  unfold Stats.record
  split <;> rfl

end Stats

namespace Worker

variable {τ ς : Type} {e : Env τ ς} {k k' : Worker} {w w' : World τ ς}

theorem recordAll_tallies {s : Stats} {taken : List Report} (h : s.Tallies taken) (reports : List Report)
    (w : World τ ς) :
    (recordAll s reports w).1.Tallies (taken ++ reports) ∧ (recordAll s reports w).1.polls = s.polls := by
  induction reports generalizing s taken w with
  | nil => exact ⟨(List.append_nil taken).symm ▸ h, rfl⟩
  | cons r reports ih =>
    obtain ⟨htallies, hpolls⟩ := ih (h.record r) _
    rw [List.append_assoc] at htallies
    exact ⟨htallies, hpolls.trans (s.record_polls r)⟩

theorem tallies_of_poll {fuel : Nat} {taken reports : List Report} (h : k.stats.Tallies taken)
    (hpoll : k.poll e fuel w = some (reports, k', w')) :
    k'.stats.Tallies (taken ++ reports) ∧ k'.stats.polls = k.stats.polls + 1 := by
  obtain ⟨⟨rs, v⟩, -, heq⟩ := Option.map_eq_some_iff.mp hpoll
  have hbegun : ({ k.stats with polled := true } : Stats).Tallies taken := ⟨h.errors, h.items, h.users, h.sum⟩
  obtain ⟨htallies, hpolls⟩ := recordAll_tallies hbegun rs v
  simp only [Prod.mk.injEq] at heq
  obtain ⟨rfl, rfl, -⟩ := heq
  exact ⟨⟨htallies.errors, htallies.items, htallies.users, htallies.sum⟩, congrArg (· + 1) hpolls⟩

end Worker

/-! ## Items by folder -/

/-- What is listed to each user makes up what is listed. -/
theorem finsum_listedTo (reports : List Report) :
    (Function.support fun user => (listedTo user reports).length).Finite ∧
      ∑ᶠ user, (listedTo user reports).length = (listed reports).length := by
  induction reports with
  | nil => exact ⟨by simp [listedTo, listed], by simp [listedTo, listed]⟩
  | cons r reports ih =>
    obtain ⟨hfinite, hsum⟩ := ih
    have hsplit : (fun user => (listedTo user (r :: reports)).length) =
        fun user => (if r.user = user then r.listed.length else 0) + (listedTo user reports).length := by
      funext user
      rw [← List.singleton_append, listedTo_append, listedTo_singleton, List.length_append]
      split <;> rfl
    have hone : (Function.support fun user => if r.user = user then r.listed.length else 0).Finite :=
      (Set.finite_singleton r.user).subset fun user hu => by
        by_contra hne
        exact hu (if_neg (Ne.symm hne))
    rw [hsplit]
    refine ⟨(hone.union hfinite).subset (Function.support_add _ _), ?_⟩
    rw [finsum_add_distrib hone hfinite, finsum_eq_single _ r.user fun user hne => if_neg (Ne.symm hne), if_pos rfl,
      hsum, ← List.singleton_append, listed_append, listed_singleton, List.length_append]

theorem Report.finsum_itemsOf {report : Report} (hn : (report.folders.map (·.folder)).Nodup) :
    (Function.support fun folder => (report.itemsOf folder).length).Finite ∧
      ∑ᶠ folder, (report.itemsOf folder).length = report.listed.length := by
  have hsupport : (Function.support fun folder => (report.itemsOf folder).length) ⊆
      ↑(report.folders.map (·.folder)).toFinset := by
    intro folder hfolder
    by_contra hne
    refine hfolder (List.length_eq_zero_iff.mpr (Report.itemsOf_of_forall_ne fun r hr heq => hne ?_))
    simpa using ⟨r, hr, heq⟩
  refine ⟨(Finset.finite_toSet _).subset hsupport, ?_⟩
  have hitems : report.folders.map (fun r => (report.itemsOf r.folder).length) =
      report.folders.map fun r => if r.ok = true then r.items.length else 0 := by
    refine List.map_congr_left fun r hr => ?_
    rw [Report.itemsOf_of_mem hn hr]
    split <;> rfl
  rw [finsum_eq_sum_of_support_subset _ hsupport, List.sum_toFinset _ hn, List.map_map, length_listed, totalItems,
    ← List.sum_eq_foldr, finished]
  exact (congrArg List.sum hitems).trans (by simp [List.sum_map_ite])

section Runs

variable {τ : Type} {b : Backend} {box : τ → Mailbox}

theorem Call.nodup_report (c : Call τ Progress) : (c.report.folders.map (·.folder)).Nodup := by
  unfold report
  split
  · rename_i report hreport
    obtain ⟨ds, -, ⟨trouble, -, -, hresult⟩ | ⟨folders, ends, -, hran⟩⟩ := c.runs.cases
    · rw [hreport] at hresult
      cases trouble <;> cases hresult
      exact List.nodup_nil
    · exact (hreport ▸ hran).nodup_results.1
  · exact List.nodup_nil

/-- What runs report to a user folder by folder makes up what their reports list to the user. -/
theorem finsum_delivered {cs : List (Call τ Progress)} (h : ∀ c ∈ cs, ∃ report, c.result = .ok report)
    (user : User) :
    (Function.support fun folder => (delivered user folder cs).length).Finite ∧
      ∑ᶠ folder, (delivered user folder cs).length = (listedTo user (cs.map Call.report)).length := by
  induction cs with
  | nil => exact ⟨by simp [delivered], by simp [delivered, listedTo, listed]⟩
  | cons c cs ih =>
    obtain ⟨hfinite, hsum⟩ := ih fun c' hc' => h c' (List.mem_cons_of_mem _ hc')
    obtain ⟨report, hresult⟩ := h c List.mem_cons_self
    have hreport : c.report = report := by simp [Call.report, hresult]
    have hdelivers : ∀ folder, c.delivers user folder = if c.user = user then c.report.itemsOf folder else [] := by
      intro folder
      simp only [Call.delivers, hresult, hreport]
    have hone : (Function.support fun folder => (c.delivers user folder).length).Finite ∧
        ∑ᶠ folder, (c.delivers user folder).length = (listedTo user [c.report]).length := by
      obtain ⟨hfin, hitems⟩ := Report.finsum_itemsOf c.nodup_report
      rw [listedTo_singleton, c.report_user]
      simp only [hdelivers]
      by_cases hu : c.user = user
      · simp only [hu, if_true]
        exact ⟨hfin, hitems⟩
      · simp [hu]
    have hsplit : (fun folder => (delivered user folder (c :: cs)).length) =
        fun folder => (c.delivers user folder).length + (delivered user folder cs).length := by
      funext folder
      rw [delivered, List.flatMap_cons, List.length_append]
      rfl
    rw [hsplit]
    refine ⟨(hone.1.union hfinite).subset (Function.support_add _ _), ?_⟩
    rw [finsum_add_distrib hone.1 hfinite, hone.2, hsum, ← List.length_append, ← listedTo_append,
      List.singleton_append, List.map_cons]

theorem finite_delivered (cs : List (Call τ Progress)) :
    {user | ∃ folder, delivered user folder cs ≠ []}.Finite := by
  refine (List.finite_toSet (cs.map (·.user))).subset ?_
  rintro user ⟨folder, hne⟩
  obtain ⟨id, hid⟩ := List.exists_mem_of_ne_nil _ hne
  obtain ⟨c, hc, hid⟩ := List.mem_flatMap.mp hid
  unfold Call.delivers at hid
  split at hid
  · split at hid
    · rename_i hu
      exact List.mem_map.mpr ⟨c, hc, hu⟩
    · cases hid
  · cases hid

/-- The items of a folder up to the token kept for a user. -/
def Backend.passed (b : Backend) (m : Mailbox) (p : Progress) (user : User) (folder : FolderId) : List ItemId :=
  createdItems ((m.changes folder).take ((OffsetToken.offset? folder (b.startToken p user folder)).getD 0))

theorem Backend.passed_eq {m : Mailbox} {p : Progress} {user : User} {folder : FolderId} {k : Nat}
    (h : TokenAt folder (b.startToken p user folder) k) :
    b.passed m p user folder = createdItems ((m.changes folder).take k) := by
  rw [passed, h.offset?]
  rfl

end Runs

/-! ## One poll -/

section Polling

variable {τ : Type} {b : Backend} {box : τ → Mailbox} {e : Env τ Progress} {roots : List FolderId}
  {now : Option Stamp} {users : List User} {w w' : World τ Progress} {cs : List (Call τ Progress)}

theorem Call.noted_remote {ς : Type} (c : Call τ ς) : c.noted.remote = c.after.remote := by
  unfold noted
  split <;> rfl

theorem Batch.grows (h : Batch e roots now users w cs w') (hs : e.transport.Serves box w.remote)
    {w₀ v : World τ Progress} {cs₀ : List (Call τ Progress)} (hh : History (Appends box) w₀ cs₀ v)
    (hv : Appends box v w) :
    (∃ v', History (Appends box) w₀ (cs₀ ++ cs) v' ∧ Appends box v' w') ∧
      ∀ c ∈ cs, c.env = e ∧ c.now = now ∧ c.env.transport.Serves box c.before.remote := by
  induction h generalizing cs₀ v with
  | done _ => exact ⟨⟨v, by simpa using hh, hv⟩, by simp⟩
  | cancelled _ => exact ⟨⟨v, by simpa using hh, hv⟩, by simp⟩
  | ran c he hr hn hc _ ih =>
    subst he
    have hnoted : Appends box c.after c.noted := ⟨c.noted_stores, fun folder => by rw [c.noted_remote]⟩
    obtain ⟨⟨v', hh', hv'⟩, hall⟩ := ih (c.leads_noted.served hs).1 (hh.snoc c hv) hnoted
    exact ⟨⟨v', by simpa using hh', hv'⟩, List.forall_mem_cons.mpr ⟨⟨rfl, hn, hs⟩, hall⟩⟩

/-- What a worker's polls need: the stores keep what they are given, the mailbox serves, and every token stands at some
number of the changes of its folder. -/
structure Standing (b : Backend) (box : τ → Mailbox) (e : Env τ Progress) (w : World τ Progress) : Prop where
  serves : e.transport.Serves box w.remote
  keepsTokens : b.KeepsTokens w.stores
  keepsMarks : b.KeepsMarks w.stores
  stands : ∀ user folder, ∃ k, k ≤ ((box w.remote).changes folder).length ∧
    TokenAt folder (b.startToken w.stores user folder) k

/-- The token kept for a user's folder stands behind all its changes. -/
def Whole (b : Backend) (box : τ → Mailbox) (w : World τ Progress) (user : User) (folder : FolderId) : Prop :=
  TokenAt folder (b.startToken w.stores user folder) ((box w.remote).changes folder).length

theorem Paging.Reaches.served_last {m : Mailbox} {size : Int} {folder : FolderId} {token : Token}
    {xs : List SyncExchange} {p : Paging} {k : Nat} (h : (Paging.start folder token).Reaches size xs p true)
    (hx : ∀ x ∈ xs, m.Answers (.sync x.1) x.2) (ht : TokenAt folder token k)
    (hk : k ≤ (m.changes folder).length) :
    TokenAt folder p.token (m.changes folder).length := by
  generalize hlast : true = last at h
  cases h with
  | start => cases hlast
  | @page xs p o page h ho =>
    obtain ⟨n, hn, htoken, -⟩ := h.served (fun x hmem => hx x (List.mem_append_left _ hmem)) ht hk
    have hown := (hx _ (List.mem_append_right _ List.mem_cons_self)).eq_own ho
    simp only [SyncRequest.forPage, show p.folder = folder from h.folder_eq] at hown
    rw [hown, Mailbox.read_pageAt htoken hn] at ho
    cases ho
    have hle := of_decide_eq_true hlast.symm
    rw [Paging.add_token, Mailbox.pageAt, Nat.min_eq_right hle]
    exact .inr rfl

variable {c : Call τ Progress}

theorem Call.whole (hst : Standing b box c.env c.before) (he : c.env.stores = b.stores.refusing []) {r : FolderResult}
    (hr : r ∈ c.report.folders) (hok : r.ok = true) : Whole b box c.after c.user r.folder := by
  obtain ⟨k, hk, ht⟩ := hst.stands c.user r.folder
  obtain ⟨-, hstands⟩ := c.stands_of_report hr
  obtain ⟨p, hp, ⟨hts, -⟩ | ⟨-, -, fault, hfault⟩⟩ | ⟨-, -, hres⟩ := hstands.complete_or_kept he
  · have hx : ∀ x ∈ exchanges c.user r.folder c.events, (box c.before.remote).Answers (.sync x.1) x.2 := by
      intro x hx
      rw [← exchanges_deeds] at hx
      exact c.leads.served_exchanges hst.serves _ _ x hx
    unfold Whole
    rw [c.startToken_after he, hts, (c.leads.served hst.serves).2.1]
    exact hp.served_last hx ht hk
  · cases hfault
  · rw [(hres r rfl).2.1] at hok
    cases hok

/-- A run keeps a standing, and a token that stands behind all changes. -/
theorem Standing.noted (hst : Standing b box c.env c.before) (he : c.env.stores = b.stores.refusing [])
    (hnow : ∃ stamp, c.env.stampOf c.now = .ok stamp) :
    Standing b box c.env c.noted ∧
      ∀ user folder, Whole b box c.before user folder → Whole b box c.noted user folder := by
  obtain ⟨htokens, hmarks, hbox⟩ := c.keeps he hst.serves hst.keepsTokens hst.keepsMarks
  obtain ⟨-, hsegments⟩ := c.delivers_segment he hst.serves hnow hst.keepsTokens hst.keepsMarks
  rw [← c.noted_stores] at htokens hmarks
  rw [← c.noted_remote] at hbox
  refine ⟨⟨(c.leads_noted.served hst.serves).1, htokens, hmarks, fun user folder => ?_⟩,
    fun user folder hw => ?_⟩
  · obtain ⟨k, hk, ht⟩ := hst.stands user folder
    obtain ⟨n, hn⟩ := hsegments user folder k ht hk
    rw [hbox, c.noted_stores]
    exact ⟨k + n, hn.within, hn.token⟩
  · obtain ⟨n, hn⟩ := hsegments user folder _ hw (Nat.le_refl _)
    obtain rfl : n = 0 := by
      have := hn.within
      omega
    unfold Whole
    rw [hbox, c.noted_stores]
    exact hn.token

theorem Batch.keeps_whole (h : Batch e roots now users w cs w') (hst : Standing b box e w)
    (he : e.stores = b.stores.refusing []) (hnow : ∃ stamp, e.stampOf now = .ok stamp) {user : User}
    {folder : FolderId} (hw : Whole b box w user folder) : Whole b box w' user folder := by
  induction h with
  | done _ => exact hw
  | cancelled _ => exact hw
  | ran c henv hr hn hc _ ih =>
    subst henv hn
    obtain ⟨hst', hwhole⟩ := hst.noted he hnow
    exact ih hst' (hwhole _ _ hw)

theorem Batch.whole (h : Batch e roots now users w cs w') (hst : Standing b box e w)
    (he : e.stores = b.stores.refusing []) (hnow : ∃ stamp, e.stampOf now = .ok stamp) :
    ∀ c ∈ cs, ∀ r ∈ c.report.folders, r.ok = true → Whole b box w' c.user r.folder := by
  induction h with
  | done _ => simp
  | cancelled _ => simp
  | ran c henv hr hn hc rest ih =>
    subst henv hn
    obtain ⟨hst', -⟩ := hst.noted he hnow
    refine List.forall_mem_cons.mpr ⟨fun r hr hok => ?_, ih hst'⟩
    have hw : Whole b box c.noted c.user r.folder := by
      have hw := c.whole hst he hr hok
      unfold Whole at hw ⊢
      rwa [c.noted_stores, c.noted_remote]
    exact rest.keeps_whole hst' he hnow hw

end Polling

/-! ## Poll after poll -/

section Polls

variable {τ : Type} {b : Backend} {box : τ → Mailbox} {k₀ k : Worker} {w₀ w : World τ Progress}
  {polls : List (List Report)}

/-- Polls of a worker one after another, and the reports of each.  Between two of them the stores stay and changes are
added to folders, and in each the mailbox serves, be it with failures. -/
inductive Worker.Polls (b : Backend) (box : τ → Mailbox) (k₀ : Worker) (w₀ : World τ Progress) :
    List (List Report) → Worker → World τ Progress → Prop
  | nil : Polls b box k₀ w₀ [] k₀ w₀
  | poll {polls : List (List Report)} {reports : List Report} {k k' : Worker} {w v w' : World τ Progress}
    {e : Env τ Progress} {fuel : Nat} (h : Polls b box k₀ w₀ polls k w) (hn : Appends box w v)
    (he : e.stores = b.stores) (hs : e.transport.Serves box v.remote)
    (hp : k.poll e fuel v = some (reports, k', w')) : Polls b box k₀ w₀ (polls ++ [reports]) k' w'

theorem Worker.Polls.tallies (h : Polls b box k₀ w₀ polls k w) (hfresh : k₀.stats = {}) :
    k.stats.Tallies polls.flatten ∧ k.stats.polls = polls.length := by
  induction h with
  | nil =>
    rw [hfresh]
    exact ⟨.empty, rfl⟩
  | poll _ _ _ _ hp ih =>
    obtain ⟨htallies, hcount⟩ := ih
    obtain ⟨htallies', hcount'⟩ := tallies_of_poll htallies hp
    refine ⟨?_, ?_⟩
    · rwa [List.flatten_append, List.flatten_singleton]
    · rw [hcount', hcount, List.length_append, List.length_singleton]

theorem World.Leads.appends {e : Env τ Progress} {w w' : World τ Progress} (h : w.Leads e [] w') :
    Appends box w w' := by
  refine ⟨h.stores_eq (fun _ _ => rfl) rfl, fun folder => ?_⟩
  rw [h.remote_eq]
  exact List.prefix_rfl

theorem Appends.trans {w₁ w₂ w₃ : World τ Progress} (h : Appends box w₁ w₂) (h' : Appends box w₂ w₃) :
    Appends box w₁ w₃ :=
  ⟨h'.1.trans h.1, fun folder => (h.2 folder).trans (h'.2 folder)⟩

theorem Worker.Polls.history (h : Polls b box k₀ w₀ polls k w) :
    ∃ cs v, History (Appends box) w₀ cs v ∧ Appends box v w ∧ polls.flatten = cs.map Call.report ∧
      ∀ c ∈ cs, c.env.stores = b.stores ∧ c.now = none ∧ c.env.transport.Serves box c.before.remote := by
  induction h with
  | nil => exact ⟨[], w₀, .nil, ⟨rfl, fun _ => List.prefix_rfl⟩, rfl, by simp⟩
  | @poll polls reports k k' w v w' e fuel _ hn he hs hp ih =>
    obtain ⟨cs, u, hhistory, hu, hreports, hall⟩ := ih
    obtain ⟨x, hrun, hx⟩ := syncUsers_of_poll hp
    obtain ⟨cs', hbatch, rfl⟩ := batch_of_syncUsers hrun
    obtain ⟨⟨v', hhistory', hv'⟩, hall'⟩ := hbatch.grows hs hhistory (hu.trans hn)
    refine ⟨cs ++ cs', v', hhistory', hv'.trans hx.appends, ?_, fun c hc => ?_⟩
    · rw [List.flatten_append, List.flatten_singleton, hreports, List.map_append]
    · rcases List.mem_append.mp hc with hc | hc
      · exact hall c hc
      · obtain ⟨henv, hnow, hserves⟩ := hall' c hc
        exact ⟨henv ▸ he, hnow, hserves⟩

/-- Where polls from empty stores have led: the stores keep what they are given, and all has been delivered up to the
tokens. -/
theorem Worker.Polls.all_delivered (h : Polls b box k₀ w₀ polls k w) (hempty : w₀.stores = {})
    (hb : b.watermarks ≠ .nowhere) :
    (b.KeepsTokens w.stores ∧ b.KeepsMarks w.stores) ∧
      ∃ cs : List (Call τ Progress), polls.flatten = cs.map Call.report ∧
        (∀ c ∈ cs, ∃ report, c.result = .ok report) ∧
          ∀ user folder, ∃ n, DeliveredTo b box cs w user folder n := by
  obtain ⟨cs, v, hhistory, hv, hreports, hall⟩ := h.history
  obtain ⟨hkeeps, hresults, hdelivered⟩ := hhistory.all_delivered hempty hb (fun c hc => (hall c hc).1)
    (fun c hc => (hall c hc).2.2) fun c hc => (hall c hc).2.1 ▸ ⟨c.env.clock, rfl⟩
  refine ⟨hv.1 ▸ hkeeps, cs, hreports, hresults, fun user folder => ?_⟩
  obtain ⟨n, hn⟩ := hdelivered user folder
  exact ⟨n, hn.appends hv⟩

/-- The folders that finish in a poll have their tokens behind all their changes. -/
theorem Worker.Polls.whole (h : Polls b box k₀ w₀ polls k w) (hempty : w₀.stores = {})
    (hb : b.watermarks ≠ .nowhere) {reports : List Report} (hlast : polls.getLast? = some reports) :
    ∀ report ∈ reports, ∀ r ∈ report.finished, Whole b box w report.user r.folder := by
  cases h with
  | nil => cases hlast
  | @poll _ _ k _ _ v _ e _ h hn he hs hp =>
    rw [List.getLast?_concat] at hlast
    cases hlast
    obtain ⟨hkeeps, cs, -, -, hdelivered⟩ := h.all_delivered hempty hb
    obtain ⟨u, hrun, hu⟩ := syncUsers_of_poll hp
    obtain ⟨cs', hbatch, rfl⟩ := batch_of_syncUsers hrun
    have hst : Standing b box e (k.begins v) := by
      refine ⟨hs, hn.1 ▸ hkeeps.1, hn.1 ▸ hkeeps.2, fun user folder => ?_⟩
      obtain ⟨n, hd⟩ := hdelivered user folder
      exact ⟨n, (hd.appends hn).within, (hd.appends hn).token⟩
    refine List.forall_mem_map.mpr fun c hc r hr => ?_
    obtain ⟨hmem, hok⟩ := List.mem_filter.mp hr
    have hw := hbatch.whole hst he ⟨e.clock, rfl⟩ c hc r hmem hok
    have hnotes : Appends box u _ := hu.appends
    unfold Whole at hw ⊢
    rwa [hnotes.1, hu.remote_eq, c.report_user]

/-- What statistics say, next to the reports of the polls, and to a mailbox and the tokens kept. -/
structure Worker.Tally (b : Backend) (m : Mailbox) (p : Progress) (polls : List (List Report)) (s : Stats) : Prop where
  count : s.polls = polls.length
  errors : s.errors = (uncounted polls.flatten).length
  /-- A user's items are counted, unless they are listed beside an error. -/
  users : ∀ user,
    s.counted user + (listedTo user (uncounted polls.flatten)).length = (listedTo user polls.flatten).length
  /-- They are as many as there are up to the tokens. -/
  passed : ∀ user, (listedTo user polls.flatten).length = ∑ᶠ folder, (b.passed m p user folder).length
  sum : s.items = (s.byUser.entries.map (·.2)).sum
  items : s.items + (listed (uncounted polls.flatten)).length = ∑ᶠ user, ∑ᶠ folder,
    (b.passed m p user folder).length
  /-- The sums are finite. -/
  finite : {user | ∃ folder, b.passed m p user folder ≠ []}.Finite ∧
    ∀ user, {folder | b.passed m p user folder ≠ []}.Finite
  /-- Nothing is missing up to the end of a folder that finished in the last poll. -/
  whole : ∀ reports ∈ polls.getLast?, ∀ report ∈ reports, ∀ r ∈ report.finished,
    b.passed m p report.user r.folder = createdItems (m.changes r.folder)

/-- No item is missing from statistics. -/
structure Worker.Lossless (b : Backend) (m : Mailbox) (p : Progress) (polls : List (List Report)) (s : Stats) :
    Prop where
  users : ∀ user, s.counted user = (listedTo user polls.flatten).length
  items : s.items = ∑ᶠ user, ∑ᶠ folder, (b.passed m p user folder).length

/-- Tallied statistics miss no item exactly if no report with an error lists one. -/
theorem Worker.Tally.lossless_iff {m : Mailbox} {p : Progress} {s : Stats} (h : Tally b m p polls s) :
    Lossless b m p polls s ↔ ∀ report ∈ polls.flatten, report.ok = false → report.listed = [] := by
  have hitems : listed (uncounted polls.flatten) = [] ↔
      ∀ report ∈ polls.flatten, report.ok = false → report.listed = [] := by
    simp [listed, uncounted, List.flatMap_eq_nil_iff]
  rw [← hitems]
  constructor
  · intro hl
    have := h.items
    rw [hl.items] at this
    exact List.length_eq_zero_iff.mp (by omega)
  · intro hnone
    have hnone' : ∀ user, listedTo user (uncounted polls.flatten) = [] := by
      intro user
      refine List.eq_nil_iff_forall_not_mem.mpr fun id hid => ?_
      obtain ⟨r, hr, hid⟩ := List.mem_flatMap.mp hid
      exact List.eq_nil_iff_forall_not_mem.mp hnone id (List.mem_flatMap.mpr ⟨r, (List.mem_filter.mp hr).1, hid⟩)
    refine ⟨fun user => ?_, ?_⟩
    · have := h.users user
      rwa [hnone' user] at this
    · have := h.items
      rwa [hnone] at this

/-- **A worker counts what its reports without an error list.**  Polls begin with fresh statistics and empty stores, on
a mailbox that only grows between them and serves in them, be it with failures.  Then after every poll polls and errors
are counted, and the items counted, for a user and in all, together with those listed beside an error are as many as
there are up to the tokens.  So items are missing if and only if a report with an error lists some; they stay so, as the
folder goes on from its token in later polls. -/
theorem Worker.Polls.tally (h : Polls b box k₀ w₀ polls k w) (hfresh : k₀.stats = {}) (hempty : w₀.stores = {})
    (hb : b.watermarks ≠ .nowhere) :
    Tally b (box w.remote) w.stores polls k.stats ∧
      (Lossless b (box w.remote) w.stores polls k.stats ↔
        ∀ report ∈ polls.flatten, report.ok = false → report.listed = []) := by
  obtain ⟨htallies, hcount⟩ := h.tallies hfresh
  obtain ⟨-, cs, hreports, hresults, hdelivered⟩ := h.all_delivered hempty hb
  have hpassed (user : User) (folder : FolderId) :
      b.passed (box w.remote) w.stores user folder = delivered user folder cs := by
    obtain ⟨n, hn⟩ := hdelivered user folder
    rw [Backend.passed_eq hn.token, hn.items]
  have huser (user : User) : (listedTo user polls.flatten).length =
      ∑ᶠ folder, (b.passed (box w.remote) w.stores user folder).length := by
    simp only [hpassed, hreports]
    exact (finsum_delivered hresults user).2.symm
  have htally : Tally b (box w.remote) w.stores polls k.stats :=
    { count := hcount
      errors := htallies.errors
      users := htallies.users
      passed := huser
      sum := htallies.sum
      items := by
        simp only [← huser]
        rw [htallies.items, (finsum_listedTo _).2]
      finite := by
        simp only [hpassed]
        exact ⟨finite_delivered cs, fun user => (finsum_delivered hresults user).1.subset fun folder hne heq =>
          hne (List.length_eq_zero_iff.mp heq)⟩
      whole := by
        intro reports hlast report hreport r hr
        have hwhole := h.whole hempty hb hlast report hreport r hr
        rw [Backend.passed_eq hwhole, List.take_length] }
  exact ⟨htally, htally.lossless_iff⟩

end Polls

/-- Two folders, the second of which cannot be reached the first time. -/
def faltering : Session where
  desk :=
    { mailbox := (({} : Mailbox).append "a" [.created "x"]).append "b" []
      queues := [({ operation := some .sync, target := some "b" },
        [{ script := .raises (.failure (.transport (.said "down") none)) }])] }
  config := .ofSizes 512 100 1

/-- The poll in which it cannot. -/
def falteringPoll : List Report × Worker × World Desk Progress :=
  ((Worker.new ["u"] ["root"] 15).poll faltering.env 9 (faltering.world .never)).get (by decide +kernel)

/-- What the next poll begins with: the same stores, and a mailbox with one more item. -/
def retried : World Desk Progress where
  remote := { mailbox := falteringPoll.2.2.remote.mailbox.append "b" [.created "y"] }
  stores := falteringPoll.2.2.stores

def retriedPoll : List Report × Worker × World Desk Progress :=
  (falteringPoll.2.1.poll faltering.env 9 retried).get (by decide +kernel)

theorem retried_polls : Worker.Polls .memory Desk.mailbox (Worker.new ["u"] ["root"] 15) (faltering.world .never)
    [falteringPoll.1, retriedPoll.1] retriedPoll.2.1 retriedPoll.2.2 := by
  have hqueued : faltering.desk.Injects := by
    refine ⟨fun q hq c hc => ?_, fun f hf => by cases hf⟩
    obtain rfl := List.mem_singleton.mp hq
    obtain rfl := List.mem_singleton.mp hc
    trivial
  have hplain : retried.remote.Injects :=
    ⟨fun q hq => absurd hq List.not_mem_nil, fun f hf => absurd hf List.not_mem_nil⟩
  have hrun : (Worker.new ["u"] ["root"] 15).poll faltering.env 9 (faltering.world .never) = some falteringPoll :=
    (Option.some_get _).symm
  have hrun' : falteringPoll.2.1.poll faltering.env 9 retried = some retriedPoll := (Option.some_get _).symm
  have hfirst : Worker.Polls .memory Desk.mailbox (Worker.new ["u"] ["root"] 15) (faltering.world .never)
      ([] ++ [falteringPoll.1]) falteringPoll.2.1 falteringPoll.2.2 :=
    .poll .nil ⟨rfl, fun _ => List.prefix_rfl⟩ rfl (Desk.direct_serves none hqueued) hrun
  have hgrown : Appends Desk.mailbox falteringPoll.2.2 retried := ⟨rfl, fun f => Mailbox.prefix_append _ _ _ f⟩
  exact .poll hfirst hgrown rfl (Desk.direct_serves none hplain) hrun'

/-- The item that the first report lists beside its error is not counted, then or later. -/
theorem retried_tally :
    Worker.Tally .memory retriedPoll.2.2.remote.mailbox retriedPoll.2.2.stores [falteringPoll.1, retriedPoll.1]
        retriedPoll.2.1.stats ∧
      retriedPoll.2.1.stats.items = 1 ∧ listedTo "u" falteringPoll.1 = ["x"] ∧
        listedTo "u" retriedPoll.1 = ["y"] := by
  obtain ⟨htally, -⟩ := retried_polls.tally rfl rfl (by decide)
  exact ⟨htally, by decide +kernel, by decide +kernel, by decide +kernel⟩

/-- What a failed run loses: an item that it listed and whose token was kept, after a poll without failures. -/
theorem retried_not_lossless :
    Worker.Polls .memory Desk.mailbox (Worker.new ["u"] ["root"] 15) (faltering.world .never)
        [falteringPoll.1, retriedPoll.1] retriedPoll.2.1 retriedPoll.2.2 ∧
      (∀ report ∈ retriedPoll.1, report.ok = true) ∧
      retriedPoll.2.1.stats.counted "u" ≠ (listedTo "u" [falteringPoll.1, retriedPoll.1].flatten).length ∧
      ¬ Worker.Lossless .memory retriedPoll.2.2.remote.mailbox retriedPoll.2.2.stores
        [falteringPoll.1, retriedPoll.1] retriedPoll.2.1.stats := by
  have hcount : retriedPoll.2.1.stats.counted "u" = 1 ∧
      (listedTo "u" [falteringPoll.1, retriedPoll.1].flatten).length = 2 := by decide +kernel
  have hne : retriedPoll.2.1.stats.counted "u" ≠ (listedTo "u" [falteringPoll.1, retriedPoll.1].flatten).length := by
    rw [hcount.1, hcount.2]
    decide
  exact ⟨retried_polls, by decide +kernel, hne, fun hl => hne (hl.users "u")⟩

end MailboxSync
