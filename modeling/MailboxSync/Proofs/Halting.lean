import MailboxSync.Proofs.Cancellation
import MailboxSync.Proofs.Returning

/-!
# Cancelled runs halt

* `Call.Spares` — what becomes of a folder that did not come to its final page;
* `Halted` — what runs come to whose cancel event got set at some moment, `Halts` that they do at every moment;
* `cancellation_halts` — single runs, runs of several users and the polls of a worker return or are endless, and halt
  at whatever moment their cancel event gets set.
-/

namespace MailboxSync

open Journal

/-! ## Runs that halt -/

section Halting

variable {τ : Type} {b : Backend} {rules : List AccessRule} {e : Env τ Progress} {w w' : World τ Progress}
  {cs : List (Call τ Progress)} {ds es es₁ es₂ : List Event}

/-- What becomes of a folder of a run that did not come to its final page, if its result is reported: it keeps its
token, and its result says that it was cancelled, or which failure the folder's last request met with; and that request
is among the events given. -/
structure Call.Spares (b : Backend) (c : Call τ Progress) (es : List Event) (r : FolderResult) : Prop where
  kept : b.kept c.after.stores c.user r.folder = b.kept c.before.stores c.user r.folder
  token : r.token = b.startToken c.after.stores c.user r.folder
  error : (∃ why, r.error = some (.cancelled why)) ∨ ∃ failure q o, r.error = some failure ∧
    (exchanges c.user r.folder c.events).getLast? = some (q, o) ∧ .asked c.user (.sync q) o ∈ es ∧
    Page.read q.token o = .error (.failure failure)

/-- What runs from `w` to `w'` come to if their cancel event got set after the events `es₁`, and `es₂` followed. -/
structure Halted (b : Backend) (w w' : World τ Progress) (cs : List (Call τ Progress)) (es₁ es₂ : List Event) :
    Prop where
  /-- Nothing is asked any more. -/
  unasked : requests es₂ = []
  /-- No token is written any more but that of a final page which the last request brought. -/
  tokens : ∀ user folder token, .savedToken user folder token ∈ es₂ → FinalReply es₁ user folder token
  /-- For every other folder the token stays that is kept then. -/
  kept : ∀ user folder, (∀ token, ¬ FinalReply es₁ user folder token) →
    b.kept w'.stores user folder = (savedTokens user folder es₁).getLast?.or (b.kept w.stores user folder)
  /-- A folder that had not come to its final page is reported as cancelled, or with the failure it had by then. -/
  reported : ∀ c ∈ cs, ∀ r ∈ c.report.folders,
    (∀ p, ¬ Completes b c.env c.roots c.user c.before c.events r.folder p) → c.Spares b es₁ r
  /-- A watermark is only written for a run that had found all its folders and finished every one. -/
  watermarks : ∀ user i, .savedWatermark user i ∈ es₂ → ∃ c, cs.getLast? = some c ∧ c.user = user ∧
    ∃ folders, c.found = .ok folders ∧ ∀ f ∈ folders, Finishes c.env c.user c.events f

/-- Runs halt at whatever moment their cancel event gets set. -/
def Halts (b : Backend) (e : Env τ Progress) (w w' : World τ Progress) (cs : List (Call τ Progress)) : Prop :=
  ∀ es₁ es₂, w.eventsSince w' = es₁ ++ es₂ → SetBy e w es₁ → Halted b w w' cs es₁ es₂

theorem SetBy.deeds (h : SetBy e w es) : SetBy e w (Journal.deeds es) := by
  cases h with
  | before h => exact .before h
  | during hc h =>
    rw [deeds_append]
    rw [← requests_deeds] at h
    exact .during hc h

theorem FinalReply.of_deeds {user : User} {folder : FolderId} {token : Token} (hset : SetBy e w es)
    (h : FinalReply (Journal.deeds es) user folder token) : FinalReply es user folder token := by
  cases hset with
  | before _ => exact absurd h (not_finalReply_nil user folder token)
  | during _ _ =>
    obtain ⟨before, r, o, page, heq, hpage⟩ := h
    rw [deeds_append] at heq
    obtain ⟨-, hlast⟩ := List.append_inj' heq rfl
    cases hlast
    exact ⟨_, r, _, page, rfl, hpage⟩

theorem Stands.cancelled_or_refused {user : User} {folder : FolderId} {xs : List SyncExchange} {ts : List Token}
    {r : FolderResult} (h : Stands e user w folder xs ts (.ended (.ok r))) (he : e.stores = b.stores.refusing rules)
    (hno : ∀ p, ¬ (Paging.start folder (b.startToken w.stores user folder)).Reaches e.config.idPageSize xs p true) :
    (∃ why, r.error = some (.cancelled why)) ∨
      ∃ failure q o, r.error = some failure ∧ xs.getLast? = some (q, o) ∧
      Page.read q.token o = .error (.failure failure) := by
  cases h with
  | finished hr hp =>
    rw [hr.eq_startToken he] at hp
    exact absurd hp (hno _)
  | failed hr hp ho => exact .inr ⟨_, _, _, rfl, List.getLast?_concat, ho⟩
  | cancelled hr hp => exact .inl ⟨_, rfl⟩
  | skipped hr => exact .inl ⟨_, rfl⟩

/-- What a run's report says of the folders that did not come to their final page. -/
theorem Call.spares (c : Call τ Progress) (he : c.env.stores = b.stores.refusing rules)
    (hasked : ∀ user r o, .asked user (.sync r) o ∈ c.events → .asked user (.sync r) o ∈ es) {r : FolderResult}
    (hr : r ∈ c.report.folders)
    (hno : ∀ p, ¬ MailboxSync.Completes b c.env c.roots c.user c.before c.events r.folder p) :
    c.Spares b es r := by
  obtain ⟨hfound, hstands⟩ := c.stands_of_report hr
  have hno : ∀ p, ¬ (Paging.start r.folder (b.startToken c.before.stores c.user r.folder)).Reaches
      c.env.config.idPageSize (exchanges c.user r.folder c.events) p true := fun p hp => hno p ⟨hfound, hp⟩
  rcases hstands.complete_or_kept he with ⟨p, hp, -⟩ | ⟨-, hts, hkept⟩
  · exact absurd hp (hno p)
  · obtain ⟨-, -, htoken⟩ := hkept r rfl
    rw [← savedTokens_deeds] at hts
    have hsame : b.kept c.after.stores c.user r.folder = b.kept c.before.stores c.user r.folder :=
      kept_of_savedTokens_nil c.leads he hts
    refine ⟨hsame, by rw [htoken, Backend.startToken, Backend.startToken, hsame], ?_⟩
    rcases hstands.cancelled_or_refused he hno with hcancelled | ⟨failure, q, o, herror, hlast, ho⟩
    · exact .inl hcancelled
    · have hmem : .asked c.user (.sync q) o ∈ c.events := (mem_exchanges.mp (List.mem_of_getLast? hlast)).1
      exact .inr ⟨failure, q, o, herror, hlast, hasked _ _ _ hmem, ho⟩

/-- Runs that obey halt. -/
theorem Obeys.halts (ho : Obeys e w ds) (hl : w.Leads e ds w') (he : e.stores = b.stores.refusing rules)
    (henv : ∀ c ∈ cs, c.env = e) (hds : (cs.flatMap fun c => Journal.deeds c.events) = ds)
    (hlast : ∀ ds₁ ds₂, ds = ds₁ ++ ds₂ → SetBy e w ds₁ →
      ∀ d ∈ ds₂, ∃ c, cs.getLast? = some c ∧ d ∈ c.events) :
    Halts b e w w' cs := by
  intro es₁ es₂ heq hset
  have hsplit : ds = Journal.deeds es₁ ++ Journal.deeds es₂ := by rw [← hl.deeds_eventsSince, heq, deeds_append]
  obtain ⟨hr, ht⟩ := ho _ _ hsplit hset.deeds
  have hunasked : requests es₂ = [] := by rw [← requests_deeds, hr]
  have htokens :
    ∀ user folder token, .savedToken user folder token ∈ es₂ → FinalReply es₁ user folder token :=
    fun user folder token hmem => .of_deeds hset (ht user folder token (List.mem_filter.mpr ⟨hmem, rfl⟩))
  refine ⟨hunasked, htokens, fun user folder hno => ?_, fun c hc r hr hno => ?_, fun user i hmem => ?_⟩
  · have hnil : savedTokens user folder es₂ = [] := by
      refine List.eq_nil_iff_forall_not_mem.mpr fun token hmem => ?_
      exact hno token (htokens user folder token (mem_savedTokens.mp hmem))
    rw [hl.kept he, hsplit, savedTokens_append, savedTokens_deeds, savedTokens_deeds, hnil, List.append_nil]
  · refine c.spares (henv c hc ▸ he) (fun user q o hmem => ?_) hr hno
    -- what the run has asked was asked before the event was set, since nothing was asked afterwards
    have hdeed : .asked user (.sync q) o ∈ ds :=
      hds ▸ List.mem_flatMap.mpr ⟨c, hc, List.mem_filter.mpr ⟨hmem, rfl⟩⟩
    rcases List.mem_append.mp (hsplit ▸ hdeed) with hbefore | hafter
    · exact List.mem_of_mem_filter hbefore
    · have hrequest : (user, .sync q) ∈ requests es₂ := mem_requests.mpr ⟨o, List.mem_of_mem_filter hafter⟩
      rw [hunasked] at hrequest
      cases hrequest
  · obtain ⟨c, hc, hmem⟩ := hlast _ _ hsplit hset.deeds _ (List.mem_filter.mpr ⟨hmem, rfl⟩)
    obtain ⟨hu, hfin⟩ := c.finishes_of_watermark hmem
    exact ⟨c, hc, hu, hfin⟩

/-! ## Calls that halt -/

theorem Call.halts (c : Call τ Progress) (he : c.env.stores = b.stores.refusing rules) :
    Halts b c.env c.before c.after [c] := by
  refine c.obeys.halts c.leads he (by simp) (by simp) fun ds₁ ds₂ hds _ d hd => ⟨c, rfl, ?_⟩
  have hmem : d ∈ Journal.deeds c.events := hds ▸ List.mem_append_right _ hd
  exact List.mem_of_mem_filter hmem

variable {roots : List FolderId} {now : Option Stamp} {users : List User}

theorem Batch.env_eq {τ ς : Type} {e : Env τ ς} {w w' : World τ ς} {cs : List (Call τ ς)}
    (h : Batch e roots now users w cs w') : ∀ c ∈ cs, c.env = e := by
  induction h with
  | done w => simp
  | cancelled hc => simp
  | ran c he _ _ _ _ ih => exact List.forall_mem_cons.mpr ⟨he, ih⟩

theorem Batch.halts {w'' : World τ Progress} (h : Batch e roots now users w cs w')
    (he : e.stores = b.stores.refusing rules) (hl : w'.Leads e [] w'') : Halts b e w w'' cs := by
  have hleads := h.leads.trans hl
  rw [List.append_nil] at hleads
  exact h.obeys.halts hleads he h.env_eq rfl fun _ _ hds hset _ hd => h.last_run hds hset hd

theorem Batch.reports_prefix {τ ς : Type} {e : Env τ ς} {w w' : World τ ς} {cs : List (Call τ ς)}
    (h : Batch e roots now users w cs w') : (cs.map Call.report).map (·.user) <+: users := by
  have huser : (cs.map Call.report).map (·.user) = cs.map (·.user) := by
    rw [List.map_map]
    exact List.map_congr_left fun c _ => c.report_user
  rw [huser]
  exact h.users_prefix

namespace Worker

variable {τ ς : Type} {e : Env τ ς} {k k' : Worker} {w w' : World τ ς}

/-- The world a poll begins with: the worker's own flag is its cancel event. -/
def begins (k : Worker) (w : World τ ς) : World τ ς :=
  let number := k.stats.polls + 1
  { w with cancel := some k.stopped }.note .info s!"Starting poll cycle #{number}"

theorem recordAll_leads (e : Env τ ς) (s : Stats) (reports : List Report) (w : World τ ς) :
    w.Leads e [] (recordAll s reports w).2 := by
  induction reports generalizing s w with
  | nil => exact .refl
  | cons r reports ih =>
    unfold recordAll
    cases r.error with
    | none => exact ih _ _
    | some failure => exact (World.Leads.refl.note _).trans (ih _ _)

theorem syncUsers_of_poll {fuel : Nat} {reports : List Report} (h : k.poll e fuel w = some (reports, k', w')) :
    ∃ v, syncUsers e fuel k.roots none k.users (k.begins w) = some (reports, v) ∧ v.Leads e [] w' := by
  obtain ⟨⟨rs, v⟩, hrun, heq⟩ := Option.map_eq_some_iff.mp h
  have hl := recordAll_leads e { k.stats with polled := true } rs v
  simp only [Prod.mk.injEq] at heq
  obtain ⟨rfl, -, rfl⟩ := heq
  exact ⟨v, hrun, hl.note _⟩

theorem poll_isSome_iff (e : Env τ ς) (fuel : Nat) (k : Worker) (w : World τ ς) :
    (k.poll e fuel w).isSome ↔ (syncUsers e fuel k.roots none k.users (k.begins w)).isSome := by
  unfold poll
  rw [Option.isSome_map]
  rfl

end Worker

/-- **Cancellation halts runs.**  A run of a user, a call for several users and a poll of a worker return, unless they
come to a run that is endless: the service pages one of its folders for ever, and the cancel event is never set.  When
they return they have halted at whatever moment their cancel event got set, before the call or during any request of it,
whatever the service answers and however many slots a pool has.  The reports of several users are for the first
of them, in their order. -/
theorem cancellation_halts (he : e.stores = b.stores.refusing rules) :
    (∀ roots now user w,
      ((∃ fuel, (syncUser e fuel roots now user w).isSome) ∨ Endless e roots user w) ∧
        ∀ fuel result w' (h : syncUser e fuel roots now user w = some (result, w')),
          Halts b e w w' [⟨e, roots, now, user, w, result, w', runsLate_of_syncUser h⟩]) ∧
    (∀ roots now users w,
      ((∃ fuel, (syncUsers e fuel roots now users w).isSome) ∨ MeetsEndless e roots now users w) ∧
        ∀ fuel reports w', syncUsers e fuel roots now users w = some (reports, w') →
          reports.map (·.user) <+: users ∧
            ∃ cs, Batch e roots now users w cs w' ∧ reports = cs.map Call.report ∧ Halts b e w w' cs) ∧
    ∀ (k : Worker) w,
      ((∃ fuel, (k.poll e fuel w).isSome) ∨ MeetsEndless e k.roots none k.users (k.begins w)) ∧
        ∀ fuel reports k' w', k.poll e fuel w = some (reports, k', w') →
          reports.map (·.user) <+: k.users ∧
            ∃ cs v, Batch e k.roots none k.users (k.begins w) cs v ∧ reports = cs.map Call.report ∧
              Halts b e (k.begins w) w' cs := by
  refine ⟨fun roots now user w => ⟨syncUser_returns e roots now user w, fun fuel result w' h => ?_⟩,
    fun roots now users w => ⟨syncUsers_returns e roots now users w, fun fuel reports w' h => ?_⟩,
    fun k w => ⟨?_, fun fuel reports k' w' h => ?_⟩⟩
  · exact Call.halts ⟨e, roots, now, user, w, result, w', runsLate_of_syncUser h⟩ he
  · obtain ⟨cs, hb, rfl⟩ := batch_of_syncUsers h
    exact ⟨hb.reports_prefix, cs, hb, rfl, hb.halts he .refl⟩
  · simp only [Worker.poll_isSome_iff]
    exact syncUsers_returns e k.roots none k.users (k.begins w)
  · obtain ⟨v, hrun, hl⟩ := Worker.syncUsers_of_poll h
    obtain ⟨cs, hb, rfl⟩ := batch_of_syncUsers hrun
    exact ⟨hb.reports_prefix, cs, v, hb, rfl, hb.halts he hl⟩

end Halting

theorem SetBy.of_request {τ ς : Type} {e : Env τ ς} {w : World τ ς} {es : List Event} {n : Nat} {user : User}
    {request : Request} (hn : es[n]?.bind Event.request? = some (user, request)) (hc : w.cancel.isSome = true)
    (h : (e.transport.send (e.transport.after w.remote (requests (es.take n))) user request).1.cancels = true) :
    ∃ o, es.take (n + 1) = es.take n ++ [.asked user request o] ∧ SetBy e w (es.take (n + 1)) := by
  obtain ⟨ev, hev, hrequest⟩ := Option.bind_eq_some_iff.mp hn
  obtain ⟨u, r, o, rfl⟩ : ∃ u r o, ev = .asked u r o := by
    cases ev with
    | asked u r o => exact ⟨u, r, o, rfl⟩
    | _ => cases hrequest
  cases hrequest
  have htake : es.take (n + 1) = es.take n ++ [.asked user request o] := by
    rw [List.take_add_one, hev]
    rfl
  exact ⟨o, htake, htake ▸ .during hc h⟩

/-- Two folders in a pool of two slots, the second of which has two pages; the request for the first of these sets the
cancel event. -/
def hushed : Session where
  desk :=
    { mailbox := (({} : Mailbox).append "a" [.created "x"]).append "b" [.created "y", .created "z"]
      queues := [({ operation := some .sync, target := some "b" }, [{ cancels := true }])] }
  config := .ofSizes 1 100 2

/-- There the second user is left out, and the second folder is reported as cancelled. -/
theorem hushed_halts : ∃ reports w' cs,
    syncUsers hushed.env 9 ["root"] none ["u", "v"] (hushed.world .armed) = some (reports, w') ∧
      reports.map (·.user) = ["u"] ∧
      SetBy hushed.env (hushed.world .armed) (((hushed.world .armed).eventsSince w').take 8) ∧
      Halted .memory (hushed.world .armed) w' cs (((hushed.world .armed).eventsSince w').take 8)
        (((hushed.world .armed).eventsSince w').drop 8) := by
  let request : Request := .sync (.forPage "b" .initial 1)
  have hout : ((syncUsers hushed.env 9 ["root"] none ["u", "v"] (hushed.world .armed)).map fun out =>
      (out.1.map (·.user), ((hushed.world .armed).eventsSince out.2)[7]?.bind Event.request?,
        (hushed.env.transport.send (hushed.env.transport.after (hushed.world .armed).remote
          (requests (((hushed.world .armed).eventsSince out.2).take 7))) "u" request).1.cancels)) =
      some (["u"], some ("u", request), true) := by decide +kernel
  obtain ⟨⟨reports, w'⟩, hrun, hout⟩ := Option.map_eq_some_iff.mp hout
  simp only [Prod.mk.injEq] at hout
  obtain ⟨husers, hrequest, hcancels⟩ := hout
  obtain ⟨-, -, hset⟩ := SetBy.of_request hrequest rfl hcancels
  have hstores : hushed.env.stores = Backend.memory.stores.refusing [] := rfl
  obtain ⟨-, hmany, -⟩ := cancellation_halts hstores
  obtain ⟨-, cs, -, -, hhalts⟩ := (hmany ["root"] none ["u", "v"] _).2 9 reports w' hrun
  exact ⟨reports, w', cs, hrun, husers, hset, hhalts _ _ (List.take_append_drop _ _).symm hset⟩

/-- A folder whose one request sets the cancel event and does not get through. -/
def tripped : Session where
  desk :=
    { mailbox := ({} : Mailbox).append "a" []
      queues := [({ operation := some .sync },
        [{ script := .raises (.failure (.transport (.said "down") none)), cancels := true }])] }
  config := .ofSizes 512 100 1

theorem Paging.Reaches.read_last {size : Int} {p₀ p : Paging} {xs : List SyncExchange}
    (h : p₀.Reaches size xs p true) :
    ∃ x, xs.getLast? = some x ∧ ∃ page, Page.read x.1.token x.2 = .ok page := by
  generalize hlast : true = last at h
  cases h with
  | start => cases hlast
  | page _ ho => exact ⟨_, List.getLast?_concat, _, ho⟩

/-- There the folder is not reported as cancelled, although it had not come to its final page and had made no request
before the one with which the cancel event got set. -/
theorem tripped_report : ∃ report w' before q o after,
    syncUser tripped.env 9 ["root"] none "u" (tripped.world .armed) = some (.ok report, w') ∧
      (tripped.world .armed).eventsSince w' = (before ++ [.asked "u" (.sync q) o]) ++ after ∧
      SetBy tripped.env (tripped.world .armed) (before ++ [.asked "u" (.sync q) o]) ∧
      exchanges "u" "a" before = [] ∧
      (∀ p, ¬ Completes .memory tripped.env ["root"] "u" (tripped.world .armed)
        ((tripped.world .armed).eventsSince w') "a" p) ∧
      ∃ r ∈ report.folders, r.folder = "a" ∧ ∀ why, r.error ≠ some (.cancelled why) := by
  let q : SyncRequest := .forPage "a" .initial 512
  have hout : ((syncUser tripped.env 9 ["root"] none "u" (tripped.world .armed)).map fun out =>
      (out.1.toOption.map fun report => report.folders.map fun r => (r.folder, r.error.map Failure.isCancelled),
        (exchanges "u" "a" ((tripped.world .armed).eventsSince out.2)).getLast?.map
          fun x => (Page.read x.1.token x.2).toOption.isSome)) =
      some (some [("a", some false)], some false) := by decide +kernel
  have hset : ((syncUser tripped.env 9 ["root"] none "u" (tripped.world .armed)).map fun out =>
      (((tripped.world .armed).eventsSince out.2)[2]?.bind Event.request?,
        (tripped.env.transport.send (tripped.env.transport.after (tripped.world .armed).remote
          (requests (((tripped.world .armed).eventsSince out.2).take 2))) "u" (.sync q)).1.cancels,
        (exchanges "u" "a" (((tripped.world .armed).eventsSince out.2).take 2)).length)) =
      some (some ("u", .sync q), true, 0) := by decide +kernel
  obtain ⟨⟨result, w'⟩, hrun, hout⟩ := Option.map_eq_some_iff.mp hout
  rw [hrun] at hset
  simp only [Option.map_some, Option.some.injEq, Prod.mk.injEq] at hout hset
  obtain ⟨hreport, hlast⟩ := hout
  obtain ⟨hrequest, hcancels, hnone⟩ := hset
  obtain ⟨o, htake, hset⟩ := SetBy.of_request hrequest rfl hcancels
  obtain ⟨report, hresult, hfolders⟩ := Option.map_eq_some_iff.mp hreport
  obtain rfl : result = .ok report := ok_of_toOption hresult
  obtain ⟨r, hr, hrest⟩ := List.map_eq_singleton_iff.mp hfolders
  obtain ⟨hfolder, herror⟩ := Prod.mk.inj hrest
  refine ⟨report, w', ((tripped.world .armed).eventsSince w').take 2, q, o,
    ((tripped.world .armed).eventsSince w').drop 3, hrun, ?_, htake ▸ hset, List.eq_nil_of_length_eq_zero hnone, ?_,
    r, ?_, hfolder, ?_⟩
  · rw [← htake]
    exact (List.take_append_drop 3 _).symm
  · rintro p ⟨-, hp⟩
    obtain ⟨x, hx, page, hpage⟩ := hp.read_last
    rw [hx, Option.map_some, hpage] at hlast
    cases hlast
  · rw [hr]
    exact List.mem_singleton_self r
  · intro why hwhy
    rw [hwhy] at herror
    cases herror

end MailboxSync
