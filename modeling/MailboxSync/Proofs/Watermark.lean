import MailboxSync.Proofs.History
import MailboxSync.Proofs.Stores
import MailboxSync.Session

/-!
# The watermark law

* `Finishes` — a folder whose paging came to its final page and whose token was written;
* `Call.Completes` — a run that found its folders, finished all of them and has a time;
* `Call.WatermarkLaw` — such a run moves its user's watermark to the later of the watermark and its time and reports
  it; every other run moves none and reports none;
* `History.watermark_law` — every run obeys the law, so after any runs a watermark is the greatest of the one there
  was and the times of the user's completed runs.

Where watermarks are kept (`Backend.KeepsMarks`) reading and writing them succeeds, so `Advances` leaves one way for a
run to get stuck: a time that denotes no instant.
-/

namespace MailboxSync

open Journal

/-! ## Later instants -/

namespace Instant

theorem le_refl (i : Instant) : i ≤ i := Nat.le_refl i.micros

theorem le_trans {i j k : Instant} (h : i ≤ j) (h' : j ≤ k) : i ≤ k := Nat.le_trans (m := j.micros) h h'

theorem le_of_not_lt {i j : Instant} (h : ¬ i < j) : j ≤ i := Nat.le_of_not_lt h

theorem le_of_lt {i j : Instant} (h : i < j) : i ≤ j := Nat.le_of_lt h

theorem le_later_left (stamp previous : Instant) : stamp ≤ stamp.later previous := by
  unfold later
  split
  · exact le_of_lt ‹_›
  · exact le_refl _

theorem le_later_right (stamp previous : Instant) : previous ≤ stamp.later previous := by
  unfold later
  split
  · exact le_refl _
  · exact le_of_not_lt ‹_›

theorem later_eq_or (stamp previous : Instant) : stamp.later previous = stamp ∨ stamp.later previous = previous := by
  unfold later
  split
  · exact .inr rfl
  · exact .inl rfl

end Instant

/-! ## Completed runs -/

section Finishes

variable {τ ς : Type}

/-- The folder's paging came to its final page, and the token of that page was written. -/
def Finishes (e : Env τ ς) (user : User) (es : List Event) (folder : FolderId) : Prop :=
  ∃ stored p, (Paging.start folder stored).Reaches e.config.idPageSize (exchanges user folder es) p true ∧
    savedTokens user folder es = [p.token]

theorem Stands.finishes_iff {e : Env τ ς} {user : User} {w : World τ ς} {folder : FolderId} {es : List Event}
    {r : Except Fault FolderResult}
    (h : Stands e user w folder (exchanges user folder es) (savedTokens user folder es) (.ended r)) :
    Finishes e user es folder ↔ ∃ result, r = .ok result ∧ result.ok = true := by
  have hnil : savedTokens user folder es = [] → ¬ Finishes e user es folder := by
    rintro hn ⟨stored, p, -, ht⟩
    rw [hn] at ht
    cases ht
  generalize hts : savedTokens user folder es = ts at h hnil
  generalize hxs : exchanges user folder es = xs at h
  cases h with
  | @finished stored p _ hr hp => exact ⟨fun _ => ⟨_, rfl, rfl⟩, fun _ => ⟨stored, p, hxs ▸ hp, hts⟩⟩
  | failed _ _ _ => exact ⟨fun hf => absurd hf (hnil rfl), fun ⟨_, hr, hok⟩ => by cases hr; cases hok⟩
  | cancelled _ _ => exact ⟨fun hf => absurd hf (hnil rfl), fun ⟨_, hr, hok⟩ => by cases hr; cases hok⟩
  | skipped _ => exact ⟨fun hf => absurd hf (hnil rfl), fun ⟨_, hr, hok⟩ => by cases hr; cases hok⟩
  | unread _ _ => exact ⟨fun hf => absurd hf (hnil rfl), fun ⟨_, hr, _⟩ => by cases hr⟩
  | broken _ _ _ => exact ⟨fun hf => absurd hf (hnil rfl), fun ⟨_, hr, _⟩ => by cases hr⟩
  | unsaved _ _ _ _ => exact ⟨fun hf => absurd hf (hnil rfl), fun ⟨_, hr, _⟩ => by cases hr⟩

theorem Ran.all_finish_iff {e : Env τ ς} {roots : List FolderId} {now : Option Stamp} {user : User} {w : World τ ς}
    {folders : FolderSet} {ends : Ends} {ds : List Event} {result : Except Fault Report}
    (h : Ran e roots now user w folders ends ds result) :
    (∀ f ∈ folders, Finishes e user ds f) ↔
      ∀ r ∈ ends.map (·.2), ∃ result, r = .ok result ∧ result.ok = true := by
  constructor
  · intro hf r hr
    obtain ⟨x, hx, rfl⟩ := List.mem_map.mp hr
    exact (h.stands x hx).finishes_iff.mp (hf x.1 (h.all.mem_iff.mp (List.mem_map_of_mem hx)))
  · intro hends f hf
    obtain ⟨r, hr⟩ := h.exists_end hf
    exact (h.stands _ hr).finishes_iff.mpr (hends r (List.mem_map_of_mem hr))

namespace Call

/-- The run found its folders, finished all of them, and its time is `stamp`. -/
def Completes (c : Call τ ς) (stamp : Instant) : Prop :=
  (∃ folders, c.found = .ok folders ∧ ∀ f ∈ folders, Finishes c.env c.user c.events f) ∧
    c.env.stampOf c.now = .ok stamp

/-- The time of the run, if it is one of the user and its report is without error. -/
def completedFor (user : User) (c : Call τ ς) : Option Instant :=
  match c.result with
  | .ok report => if c.user = user ∧ report.ok = true then (c.env.stampOf c.now).toOption else none
  | .error _ => none

end Call

theorem finishes_eventsSince {e : Env τ ς} {user : User} {w w' : World τ ς} {ds : List Event} (h : w.Leads e ds w')
    (folder : FolderId) : Finishes e user (w.eventsSince w') folder ↔ Finishes e user ds folder := by
  unfold Finishes
  rw [h.exchanges_eventsSince, h.savedTokens_eventsSince]

end Finishes

/-! ## The law of one run -/

section Law

variable {τ : Type} {b : Backend}

/-- The stores of a backend, where only accesses to tokens may be refused. -/
def Env.KeepsIn (e : Env τ Progress) (b : Backend) : Prop :=
  ∃ rules : List AccessRule, (∀ r ∈ rules, r.store = .states) ∧ e.stores = b.stores.refusing rules

/-- The watermark a user has: the one kept, or the epoch. -/
def Backend.watermark (b : Backend) (p : Progress) (user : User) : Instant := (b.mark p user).getD .epoch

/-- What a run does to the watermarks and says about them. -/
structure Call.WatermarkLaw (b : Backend) (c : Call τ Progress) : Prop where
  /-- A run that completes writes one watermark, its user's, and reports it. -/
  completed : ∀ stamp next, c.Completes stamp → next = stamp.later (b.watermark c.before.stores c.user) →
    savedWatermarks c.events = [(c.user, next)] ∧ b.mark c.after.stores c.user = some next ∧
      (∀ u, u ≠ c.user → b.mark c.after.stores u = b.mark c.before.stores u) ∧
      ∃ report, c.result = .ok report ∧ report.ok = true ∧ report.watermark = some next
  /-- A run that does not writes none and reports none. -/
  otherwise : (∀ stamp, ¬ c.Completes stamp) →
    savedWatermarks c.events = [] ∧ (∀ u, b.mark c.after.stores u = b.mark c.before.stores u) ∧
      ∀ report, c.result = .ok report → report.ok = false ∧ report.watermark = none

/-- Where watermarks are kept, moving one can only get stuck at a time that denotes no instant. -/
theorem Advances.cases {e : Env τ Progress} {user : User} {now : Option Stamp} {w : World τ Progress}
    {ds : List Event}
    {r : Except Fault Instant} (h : Advances e user now w ds r) (he : e.KeepsIn b) (hk : b.KeepsMarks w.stores) :
    (ds = [] ∧ ∃ fault, r = .error fault ∧ e.stampOf now = .error fault) ∨
      ∃ stamp next, e.stampOf now = .ok stamp ∧ next = stamp.later (b.watermark w.stores user) ∧
        ds = [.savedWatermark user next] ∧ r = .ok next := by
  obtain ⟨rules, hrules, hs⟩ := he
  obtain ⟨notes, hread⟩ := Backend.watermark_of_keeps hk user
  cases h with
  | unstamped hn => exact .inl ⟨rfl, _, rfl, hn⟩
  | unread hr =>
    rw [hs, Stores.refusing_watermark hrules, hread] at hr
    cases hr
  | @unsaved _ next hw =>
    obtain ⟨p', notes', hok, -⟩ := Backend.saveWatermark_of_keeps hk user next
    rw [hs, Stores.refusing_saveWatermark hrules, hok] at hw
    cases hw
  | @saved stamp previous _ _ _ hn hr _ =>
    rw [hs, Stores.refusing_watermark hrules, hread] at hr
    cases hr
    exact .inr ⟨stamp, _, hn, rfl, rfl, rfl⟩

/-- How a run that went through its folders ends for the watermark. -/
theorem Ran.watermark_cases {e : Env τ Progress} {roots : List FolderId} {now : Option Stamp} {user : User}
    {w : World τ Progress} {folders : FolderSet} {ends : Ends} {ds : List Event} {result : Except Fault Report}
    (h : Ran e roots now user w folders ends ds result) (he : e.KeepsIn b) (hk : b.KeepsMarks w.stores) :
    ((¬ (∀ f ∈ folders, Finishes e user ds f) ∨ ∃ fault, e.stampOf now = .error fault) ∧
      savedWatermarks ds = [] ∧ ∀ report, result = .ok report → report.ok = false ∧ report.watermark = none) ∨
      ∃ stamp next, (∀ f ∈ folders, Finishes e user ds f) ∧ e.stampOf now = .ok stamp ∧
        next = stamp.later (b.watermark w.stores user) ∧ savedWatermarks ds = [(user, next)] ∧
        ∃ report, result = .ok report ∧ report.ok = true ∧ report.watermark = some next := by
  have hall := h.all_finish_iff
  obtain ⟨w₂, ds₂, ds₃, hl, hm, hc, rfl⟩ := h.closes
  have hstores := he
  obtain ⟨rules, hrules, hs⟩ := hstores
  have hmark : b.watermark w₂.stores user = b.watermark w.stores user := by
    unfold Backend.watermark
    rw [hl.mark hs hk, marks_of_nil hm]
    rfl
  rw [savedWatermarks_append, hm, List.nil_append]
  cases hc with
  | fault hf =>
    refine .inl ⟨.inl fun hfin => ?_, rfl, fun report hr => by cases hr⟩
    obtain ⟨r, hr, -⟩ := hall.mp hfin _ hf
    cases hr
  | failed hrs hb =>
    refine .inl ⟨.inl fun hfin => ?_, rfl, fun report hr => by cases hr; exact ⟨rfl, rfl⟩⟩
    have hok := hall.mp hfin
    rw [hrs] at hok
    rw [(Failure.blamed_eq_none_iff _).mpr (by simpa using hok)] at hb
    cases hb
  | stuck hrs hok ha =>
    rcases ha.cases he (hl.keepsMarks hs hk) with ⟨rfl, fault, -, hn⟩ | ⟨_, _, _, _, _, hr⟩
    · exact .inl ⟨.inr ⟨fault, hn⟩, rfl, fun report hr => by cases hr⟩
    · cases hr
  | completed hrs hok ha =>
    rcases ha.cases he (hl.keepsMarks hs hk) with ⟨_, _, hr, _⟩ | ⟨stamp, next, hn, hnext, rfl, hr⟩
    · cases hr
    · cases hr
      rw [hmark] at hnext
      rw [hrs] at hall
      exact .inr ⟨stamp, _, hall.mpr (by simpa using hok), hn, hnext, rfl, _, rfl, rfl, rfl⟩

/-- **Every run obeys the watermark law.** -/
theorem Call.watermarkLaw (c : Call τ Progress) (he : c.env.KeepsIn b) (hk : b.KeepsMarks c.before.stores) :
    c.WatermarkLaw b ∧ b.KeepsMarks c.after.stores := by
  obtain ⟨ds, hl, h⟩ := c.runs.cases
  have hstores := he
  obtain ⟨rules, -, hs⟩ := hstores
  have hmarks : savedWatermarks c.events = savedWatermarks ds := hl.savedWatermarks_eventsSince
  have hafter : ∀ u, b.mark c.after.stores u = (marks u ds).getLast?.or (b.mark c.before.stores u) := hl.mark hs hk
  have hstay : savedWatermarks ds = [] → ∀ u, b.mark c.after.stores u = b.mark c.before.stores u := by
    intro hn u
    rw [hafter, marks_of_nil hn]
    rfl
  refine ⟨?_, hl.keepsMarks hs hk⟩
  rcases h with ⟨trouble, hd, hq, hresult⟩ | ⟨folders, ends, hd, hran⟩
  · have hno : ∀ stamp, ¬ c.Completes stamp := by
      rintro stamp ⟨⟨folders, hf, -⟩, -⟩
      rw [Call.found, hd] at hf
      cases hf
    refine ⟨fun stamp next hc => absurd hc (hno stamp), fun _ => ⟨by rw [hmarks, hq.savedWatermarks],
      hstay hq.savedWatermarks, fun report hr => ?_⟩⟩
    rw [hresult] at hr
    cases trouble with
    | failure failure => cases hr; exact ⟨rfl, rfl⟩
    | fault fault => cases hr
  · have hcompletes : ∀ {stamp}, c.Completes stamp ↔
        (∀ f ∈ folders, Finishes c.env c.user ds f) ∧ c.env.stampOf c.now = .ok stamp := by
      intro stamp
      have hfin : ∀ f, Finishes c.env c.user c.events f ↔ Finishes c.env c.user ds f := finishes_eventsSince hl
      unfold Call.Completes Call.found
      rw [hd]
      simp [hfin]
    rcases hran.watermark_cases he hk with ⟨hnot, hn, hreport⟩ | ⟨stamp, next, hfin, hstamp, hnext, hn, hreport⟩
    · refine ⟨fun stamp next hc => ?_, fun _ => ⟨by rw [hmarks, hn], hstay hn, hreport⟩⟩
      obtain ⟨hfin, hstamp⟩ := hcompletes.mp hc
      rcases hnot with hbad | ⟨fault, hfault⟩
      · exact absurd hfin hbad
      · rw [hstamp] at hfault
        cases hfault
    · have hc : c.Completes stamp := hcompletes.mpr ⟨hfin, hstamp⟩
      refine ⟨fun stamp' next' hc' hnext' => ?_, fun hno => absurd hc (hno stamp)⟩
      obtain rfl : stamp = stamp' := by
        have := hc.2.symm.trans hc'.2
        cases this
        rfl
      obtain rfl : next = next' := hnext.trans hnext'.symm
      have hmine : ∀ u, marks u ds = if c.user = u then [next] else [] := by
        intro u
        simp only [marks, hn]
        split <;> rename_i hu <;> simp [hu]
      refine ⟨hmarks.trans hn, ?_, fun u hu => ?_, hreport⟩
      · rw [hafter, hmine, if_pos rfl]
        rfl
      · rw [hafter, hmine, if_neg (Ne.symm hu)]
        rfl

/-! ## The law of many runs -/

/-- After a run a user's watermark is the later of it and the time of the run, if that completed for the user. -/
theorem Call.WatermarkLaw.watermark_after {c : Call τ Progress} (h : c.WatermarkLaw b) (user : User) :
    b.watermark c.after.stores user =
      ((c.completedFor user).map (·.later (b.watermark c.before.stores user))).getD
        (b.watermark c.before.stores user) := by
  by_cases hc : ∃ stamp, c.Completes stamp
  · obtain ⟨stamp, hc⟩ := hc
    obtain ⟨-, hmine, hothers, report, hresult, hok, -⟩ := h.completed stamp _ hc rfl
    unfold Call.completedFor
    rw [hresult]
    by_cases hu : c.user = user
    · subst hu
      simp [hok, hc.2, Except.toOption, Backend.watermark, hmine]
    · simp [hu, Backend.watermark, hothers user (Ne.symm hu)]
  · obtain ⟨-, hsame, hreport⟩ := h.otherwise fun stamp hs => hc ⟨stamp, hs⟩
    have hnone : c.completedFor user = none := by
      unfold Call.completedFor
      split
      · rename_i report hr
        simp [(hreport report hr).1]
      · rfl
    simp [hnone, Backend.watermark, hsame user]

/-- Nothing happens to the stores between two runs. -/
def SameStores {ς : Type} (w w' : World τ ς) : Prop := w'.stores = w.stores

theorem History.all_watermarkLaw {w₀ w : World τ Progress} {cs : List (Call τ Progress)}
    (h : History SameStores w₀ cs w) (he : ∀ c ∈ cs, c.env.KeepsIn b) (hk : b.KeepsMarks w₀.stores) :
    b.KeepsMarks w.stores ∧ ∀ c ∈ cs, c.WatermarkLaw b := by
  induction h with
  | nil => exact ⟨hk, by simp⟩
  | @snoc cs w _ c hn ih =>
    obtain ⟨hk', hall⟩ := ih fun c' hc' => he c' (List.mem_append_left _ hc')
    obtain ⟨hlaw, hafter⟩ := c.watermarkLaw (he c (by simp)) (hn.symm ▸ hk')
    refine ⟨hafter, fun c' hc' => ?_⟩
    rcases List.mem_append.mp hc' with hc' | hc'
    · exact hall c' hc'
    · obtain rfl := List.mem_singleton.mp hc'
      exact hlaw

/-- **The watermark law.**  Every run of a history obeys it, so no run moves a watermark back, and in the end every user
has the greatest of the first watermark and the times of the user's completed runs. -/
theorem History.watermark_law {w₀ w : World τ Progress} {cs : List (Call τ Progress)}
    (h : History SameStores w₀ cs w) (he : ∀ c ∈ cs, c.env.KeepsIn b) (hk : b.KeepsMarks w₀.stores) :
    (∀ c ∈ cs, c.WatermarkLaw b) ∧
      (∀ c ∈ cs, ∀ user, b.watermark c.before.stores user ≤ b.watermark c.after.stores user) ∧
      ∀ user, b.watermark w.stores user ∈ b.watermark w₀.stores user :: cs.filterMap (Call.completedFor user) ∧
        ∀ i ∈ b.watermark w₀.stores user :: cs.filterMap (Call.completedFor user),
          i ≤ b.watermark w.stores user := by
  obtain ⟨-, hlaw⟩ := h.all_watermarkLaw he hk
  refine ⟨hlaw, fun c hc user => ?_, fun user => ?_⟩
  · rw [(hlaw c hc).watermark_after user]
    cases c.completedFor user with
    | none => exact Instant.le_refl _
    | some stamp => exact Instant.le_later_right _ _
  · clear he
    induction h with
    | nil => simp [Instant.le_refl]
    | @snoc cs w _ c hn ih =>
      obtain ⟨hmem, hmax⟩ := ih fun c' hc' => hlaw c' (List.mem_append_left _ hc')
      have hstep := (hlaw c (by simp)).watermark_after user
      have hbefore : b.watermark c.before.stores user = b.watermark w.stores user := by rw [hn]
      rw [hbefore] at hstep
      rw [hstep, List.filterMap_append, ← List.cons_append]
      cases hc : c.completedFor user with
      | none =>
        have hnone : [c].filterMap (Call.completedFor user) = [] := by simp [hc]
        rw [hnone, List.append_nil]
        exact ⟨hmem, hmax⟩
      | some stamp =>
        have hsingle : [c].filterMap (Call.completedFor user) = [stamp] := by simp [hc]
        rw [hsingle, Option.map_some, Option.getD_some]
        refine ⟨?_, fun i hi => ?_⟩
        · rcases Instant.later_eq_or stamp (b.watermark w.stores user) with heq | heq
          · rw [heq]
            exact List.mem_append_right _ List.mem_cons_self
          · rw [heq]
            exact List.mem_append_left _ hmem
        · rcases List.mem_append.mp hi with hi | hi
          · exact Instant.le_trans (hmax i hi) (Instant.le_later_right _ _)
          · obtain rfl := List.mem_singleton.mp hi
            exact Instant.le_later_left _ _

end Law

/-- A mailbox with a new item, its progress in a database. -/
def oneItem : Session where
  desk := { mailbox := ({} : Mailbox).append "a" [.created "x"] }
  config := default
  home := .database
  backend := .database

/-- The first instant of 2024. -/
def newYear : Instant := ⟨738885 * Calendar.perDay, by decide⟩

def oneItemCall : Call Desk Progress :=
  .ofSyncUser oneItem.env 9 ["root"] (some (.ofInstant newYear)) "u" (oneItem.world .never) (by decide +kernel)

/-- The run moves the watermark there. -/
theorem oneItemCall_watermark_law :
    oneItemCall.WatermarkLaw .database ∧ newYear ≤ Backend.database.watermark oneItemCall.after.stores "u" := by
  have hempty : Backend.database.KeepsMarks {} := ⟨{}, rfl, fun user text ht => by cases ht⟩
  have hhistory : History SameStores (oneItem.world .never) [oneItemCall] oneItemCall.after :=
    .snoc .nil oneItemCall rfl
  have hkeeps : ∀ c ∈ [oneItemCall], c.env.KeepsIn .database := by
    intro c hc
    obtain rfl := List.mem_singleton.mp hc
    exact ⟨[], by simp, rfl⟩
  have hcompleted : oneItemCall.completedFor "u" = some newYear := by decide +kernel
  obtain ⟨hlaw, -, hmax⟩ := hhistory.watermark_law hkeeps hempty
  exact ⟨hlaw _ List.mem_cons_self, (hmax "u").2 _ (by simp [hcompleted])⟩

end MailboxSync
