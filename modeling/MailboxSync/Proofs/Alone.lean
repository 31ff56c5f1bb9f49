import MailboxSync.Proofs.FailStop

/-!
# A folder by itself

* `Answering`, `Transport.Apart` — replies that depend on the request and the earlier ones of the same user and folder
  only; a service that replies so to every sync request, whatever else is asked in between;
* `Answered` — exchanges whose replies are those;
* `Settles` — what paging comes to along such replies, and by which exchanges: there is one outcome at most, and
  paging that is on its way has made a part of these exchanges (`Paging.Reaches.rest`);
* `Paging.run_settles` — `syncFolder` comes to this outcome; `Stands.settled` — so does a folder of a pool, if it
  has paged out.

All that a run tells about a folder is hence told by its paging alone.
-/

namespace MailboxSync

open Journal

/-! ## Replies that depend on a folder's own requests -/

/-- Replies to a folder's requests by the earlier requests of that folder. -/
abbrev Answering := List SyncRequest → SyncRequest → Except Failure (Option Response)

/-- Such a reply is no fault. -/
def Answering.reply (a : Answering) (asked : List SyncRequest) (r : SyncRequest) : Reply.Outcome :=
  (a asked r).mapError .failure

/-- The sync requests about a user's folder among requests. -/
def syncRequests (user : User) (folder : FolderId) (asked : List (User × Request)) : List SyncRequest :=
  asked.filterMap fun
    | (u, .sync r) => if u = user ∧ r.folder = folder then some r else none
    | _ => none

/-- From the state `s` on, whatever is asked, a sync request is answered by the earlier ones of its user and folder, and
no find request by a fault. -/
structure Transport.Apart {τ : Type} (t : Transport τ) (answer : User → Answering) (s : τ) : Prop where
  sync : ∀ asked user r, (t.send (t.after s asked) user (.sync r)).1.outcome =
    (answer user).reply (syncRequests user r.folder asked) r
  find : ∀ asked user r fault, (t.send (t.after s asked) user (.find r)).1.outcome ≠ .error (.fault fault)

/-- Exchanges in which every reply is the one by the requests before it. -/
inductive Answered (a : Answering) : List SyncExchange → Prop
  | nil : Answered a []
  | snoc {xs : List SyncExchange} (h : Answered a xs) (r : SyncRequest) :
    Answered a (xs ++ [(r, a.reply (xs.map (·.1)) r)])

section Replies

variable {a : Answering} {asked : List SyncRequest} {r : SyncRequest} {xs : List SyncExchange} {o : Reply.Outcome}

theorem Answering.reply_ne_fault (a : Answering) (asked : List SyncRequest) (r : SyncRequest) (fault : Fault) :
    a.reply asked r ≠ .error (.fault fault) := by
  unfold reply
  cases a asked r with
  | error failure => simp [Except.mapError]
  | ok response => simp [Except.mapError]

theorem Answered.of_snoc (h : Answered a (xs ++ [(r, o)])) : Answered a xs ∧ o = a.reply (xs.map (·.1)) r := by
  generalize hys : xs ++ [(r, o)] = ys at h
  cases h with
  | nil => simp at hys
  | snoc h r' =>
    obtain ⟨rfl, hx⟩ := List.append_inj' hys rfl
    simp only [List.cons.injEq, Prod.mk.injEq, and_true] at hx
    obtain ⟨rfl, rfl⟩ := hx
    exact ⟨h, rfl⟩

theorem Answered.ne_fault (h : Answered a xs) : ∀ x ∈ xs, ∀ fault, x.2 ≠ .error (.fault fault) := by
  induction h with
  | nil => simp
  | snoc _ r ih =>
    intro x hx
    rcases List.mem_append.mp hx with hx | hx
    · exact ih x hx
    · obtain rfl := List.mem_singleton.mp hx
      exact a.reply_ne_fault _ r

/-- The sync requests among the requests of a journal are those of its exchanges. -/
theorem syncRequests_requests (user : User) (folder : FolderId) (es : List Event) :
    syncRequests user folder (requests es) = (exchanges user folder es).map (·.1) := by
  induction es with
  | nil => rfl
  | cons ev es ih =>
    have hsplit : ev :: es = [ev] ++ es := rfl
    have hone : syncRequests user folder (requests [ev]) = (exchanges user folder [ev]).map (·.1) := by
      cases ev with
      | asked u request o =>
        cases request with
        | sync r =>
          rw [exchanges_asked]
          by_cases hmine : u = user ∧ r.folder = folder
          · simp [requests, Event.request?, syncRequests, hmine]
          · simp [requests, Event.request?, syncRequests, hmine]
        | _ => rfl
      | _ => rfl
    have happend : syncRequests user folder (requests [ev] ++ requests es) =
        syncRequests user folder (requests [ev]) ++ syncRequests user folder (requests es) := List.filterMap_append ..
    rw [hsplit, requests_append, exchanges_append, happend, hone, ih, List.map_append]

end Replies

section Deeds

variable {τ ς : Type} {e : Env τ ς} {answer : User → Answering} {w w' : World τ ς} {ds : List Event}

theorem World.Leads.outcome_eq (h : w.Leads e ds w') (ha : e.transport.Apart answer w.remote) (user : User)
    (r : SyncRequest) : (e.transport.send w'.remote user (.sync r)).1.outcome =
      (answer user).reply ((exchanges user r.folder ds).map (·.1)) r := by
  rw [h.remote_eq, ha.sync, syncRequests_requests]

theorem World.Leads.answered (h : w.Leads e ds w') (ha : e.transport.Apart answer w.remote) (user : User)
    (folder : FolderId) : Answered (answer user) (exchanges user folder ds) := by
  induction h with
  | refl => exact .nil
  | note _ _ ih => exact ih
  | trip _ ih => exact ih
  | ask hl u request ih =>
    rw [exchanges_append]
    cases request with
    | sync r =>
      rw [exchanges_asked]
      by_cases hmine : u = user ∧ r.folder = folder
      · obtain ⟨rfl, rfl⟩ := hmine
        rw [if_pos ⟨rfl, rfl⟩, World.ask_fst, hl.outcome_eq ha]
        exact ih.snoc r
      · rw [if_neg hmine, List.append_nil]
        exact ih
    | find r => exact (List.append_nil _).symm ▸ ih
    | other name => exact (List.append_nil _).symm ▸ ih
  | writeToken _ _ ih =>
    rw [exchanges_append, exchanges_saved, List.append_nil]
    exact ih
  | writeWatermark _ _ ih =>
    rw [exchanges_append]
    exact (List.append_nil _).symm ▸ ih

end Deeds

/-! ## What paging comes to -/

abbrev Paging.request (size : Int) (p : Paging) : SyncRequest := .forPage p.folder p.token size

/-- The next exchange of paging, by replies that depend on the folder's requests only. -/
abbrev Answering.exchange (a : Answering) (size : Int) (p : Paging) (asked : List SyncRequest) : SyncExchange :=
  (p.request size, a.reply asked (p.request size))

/-- What paging comes to after requests, by such replies, and by which exchanges: to the final page, or to a failure. -/
inductive Settles (a : Answering) (size : Int) : Paging → List SyncRequest → List SyncExchange →
    Except Failure Paging → Prop
  | finished {p : Paging} {asked : List SyncRequest} {page : Page}
    (ho : Page.read p.token (a.exchange size p asked).2 = .ok page) (hl : page.last = true) :
    Settles a size p asked [a.exchange size p asked] (.ok (p.add page))
  | failed {p : Paging} {asked : List SyncRequest} {failure : Failure}
    (ho : Page.read p.token (a.exchange size p asked).2 = .error (.failure failure)) :
    Settles a size p asked [a.exchange size p asked] (.error failure)
  | paged {p : Paging} {asked : List SyncRequest} {page : Page} {xs : List SyncExchange} {out : Except Failure Paging}
    (ho : Page.read p.token (a.exchange size p asked).2 = .ok page) (hl : page.last = false)
    (h : Settles a size (p.add page) (asked ++ [p.request size]) xs out) :
    Settles a size p asked (a.exchange size p asked :: xs) out

section Settling

variable {a : Answering} {size : Int} {p₀ p : Paging} {asked : List SyncRequest} {xs zs : List SyncExchange}
  {out : Except Failure Paging}

theorem Settles.length_pos (h : Settles a size p asked zs out) : 0 < zs.length := by
  cases h with
  | finished _ _ => exact Nat.one_pos
  | failed _ => exact Nat.one_pos
  | paged _ _ _ => exact Nat.succ_pos _

theorem Paging.Reaches.rest (h : p₀.Reaches size xs p false) (hx : Answered a xs)
    (hs : Settles a size p₀ [] zs out) :
    ∃ ys, zs = xs ++ ys ∧ Settles a size p (xs.map (·.1)) ys out := by
  generalize hlast : false = last at h
  induction h with
  | start => exact ⟨zs, rfl, hs⟩
  | @page xs q o page h ho ih =>
    obtain ⟨hx', rfl⟩ := hx.of_snoc
    obtain ⟨ys, rfl, hrest⟩ := ih hx' rfl
    cases hrest with
    | finished ho' hl =>
      cases ho.symm.trans ho'
      cases hlast.trans hl
    | failed ho' => cases ho.symm.trans ho'
    | @paged _ _ _ ys _ ho' _ hrest =>
      cases ho.symm.trans ho'
      exact ⟨ys, by simp, by simpa using hrest⟩

theorem Paging.Reaches.settled (h : p₀.Reaches size xs p true) (hx : Answered a xs)
    (hs : Settles a size p₀ [] zs out) :
    xs = zs ∧ out = .ok p := by
  generalize hlast : true = last at h
  cases h with
  | start => cases hlast
  | @page xs q o page h ho =>
    obtain ⟨hx', rfl⟩ := hx.of_snoc
    obtain ⟨ys, rfl, hrest⟩ := h.rest hx' hs
    cases hrest with
    | finished ho' _ =>
      cases ho.symm.trans ho'
      exact ⟨rfl, rfl⟩
    | failed ho' => cases ho.symm.trans ho'
    | paged ho' hl _ =>
      cases ho.symm.trans ho'
      cases hlast.trans hl

theorem Paging.Reaches.settled_failure {o : Reply.Outcome} {failure : Failure} (h : p₀.Reaches size xs p false)
    (ho : Page.read p.token o = .error (.failure failure)) (hx : Answered a (xs ++ [(p.request size, o)]))
    (hs : Settles a size p₀ [] zs out) : xs ++ [(p.request size, o)] = zs ∧ out = .error failure := by
  obtain ⟨hx', rfl⟩ := hx.of_snoc
  obtain ⟨ys, rfl, hrest⟩ := h.rest hx' hs
  cases hrest with
  | finished ho' _ => cases ho.symm.trans ho'
  | failed ho' =>
    cases ho.symm.trans ho'
    exact ⟨rfl, rfl⟩
  | paged ho' _ _ => cases ho.symm.trans ho'

/-- There is one outcome. -/
theorem Settles.unique {ys : List SyncExchange} {out' : Except Failure Paging} (h : Settles a size p asked zs out)
    (h' : Settles a size p asked ys out') : zs = ys ∧ out = out' := by
  induction h generalizing ys with
  | finished ho hl =>
    cases h' with
    | finished ho' _ =>
      cases ho.symm.trans ho'
      exact ⟨rfl, rfl⟩
    | failed ho' => cases ho.symm.trans ho'
    | paged ho' hl' _ =>
      cases ho.symm.trans ho'
      cases hl.symm.trans hl'
  | failed ho =>
    cases h' with
    | finished ho' _ => cases ho.symm.trans ho'
    | failed ho' =>
      cases ho.symm.trans ho'
      exact ⟨rfl, rfl⟩
    | paged ho' _ _ => cases ho.symm.trans ho'
  | paged ho hl _ ih =>
    cases h' with
    | finished ho' hl' =>
      cases ho.symm.trans ho'
      cases hl.symm.trans hl'
    | failed ho' => cases ho.symm.trans ho'
    | paged ho' _ h' =>
      cases ho.symm.trans ho'
      obtain ⟨rfl, rfl⟩ := ih h'
      exact ⟨rfl, rfl⟩

end Settling

/-! ## A folder by itself, and in a pool -/

section Runs

variable {τ ς : Type} {e : Env τ ς} {answer : User → Answering} {user : User} {size : Int} {w v : World τ ς}

/-- Paging by itself settles by its exchanges, if nobody cancels. -/
theorem Paging.run_settles (ha : e.transport.Apart answer w.remote) (hu : w.Unthreatened e.transport) {fuel : Nat}
    {p : Paging} {ds : List Event} {result : Except Trouble Paging × World τ ς} (hact : w.Acts e ds v)
    (h : p.run e.transport user size fuel v = some result) :
    ∃ zs out, result.1 = out.mapError .failure ∧
      Settles (answer user) size p ((exchanges user p.folder ds).map (·.1)) zs out ∧
      ∃ ds', v.Acts e ds' result.2 ∧ exchanges user p.folder ds' = zs := by
  induction fuel generalizing p v ds with
  | zero => simp [run] at h
  | succ fuel ih =>
    have ho : (e.transport.send v.remote user (.sync (p.request size))).1.outcome =
        (answer user).reply ((exchanges user p.folder ds).map (·.1)) (p.request size) :=
          hact.leads.outcome_eq ha user _
    have hx : ∀ o, exchanges user p.folder [.asked user (.sync (p.request size)) o] = [(p.request size, o)] := by
      intro o
      rw [exchanges_asked, if_pos ⟨rfl, rfl⟩]
    obtain ⟨v', hv⟩ := p.run_steps e user size v
    rw [ho] at hv
    cases hv with
    | cut hc _ _ =>
      rw [hu.uncancelled hact] at hc
      cases hc
    | @refused trouble _ hv' hread hrun =>
      cases trouble with
      | fault fault => exact absurd hread (Page.read_ne_fault (Answering.reply_ne_fault _ _ _) fault)
      | failure failure =>
        rw [hrun] at h
        cases h
        exact ⟨_, .error failure, rfl, .failed hread, _, hv', hx _⟩
    | @ended page _ hv' hread hlast hrun =>
      rw [hrun] at h
      cases h
      exact ⟨_, .ok (p.add page), rfl, .finished hread hlast, _, hv', hx _⟩
    | paged _ hv' hread hlast hrun =>
      rw [hrun] at h
      obtain ⟨zs, out, hout, hsettles, ds', hrest, hds'⟩ := ih (hact.trans hv') h
      rw [add_folder, exchanges_append, hx, List.map_append] at hsettles
      refine ⟨_, out, hout, .paged hread hlast hsettles, _, hv'.trans hrest, ?_⟩
      rw [exchanges_append, hx]
      exact congrArg _ hds'

end Runs

section Folders

variable {τ : Type} {b : Backend} {rules : List AccessRule} {e : Env τ Progress} {a : Answering} {user : User}
  {folder : FolderId} {w : World τ Progress} {xs zs : List SyncExchange} {ts : List Token} {r : FolderResult}
  {out : Except Failure Paging}

/-- What a pool reports of a folder that comes to this by itself: the folder's paging, or its failure and the token it
was started with. -/
def FolderResult.ofSettled (folder : FolderId) (stored : Token) : Except Failure Paging → FolderResult
  | .ok p => .finished p
  | .error failure => .failed folder stored failure

/-- A folder of a pool that has paged out has come to what it comes to by itself. -/
theorem Stands.settled (h : Stands e user w folder xs ts (.ended (.ok r))) (he : e.stores = b.stores.refusing rules)
    (hout : PagedOut xs) (hx : Answered a xs)
    (hs : Settles a e.config.idPageSize (.start folder (b.startToken w.stores user folder)) [] zs out) :
    xs = zs ∧ r = .ofSettled folder (b.startToken w.stores user folder) out ∧
      ∀ p, out = .ok p → ts = [p.token] := by
  cases h with
  | finished hr hp =>
    rw [hr.eq_startToken he] at hp
    obtain ⟨rfl, rfl⟩ := hp.settled hx hs
    refine ⟨rfl, rfl, fun p hp => ?_⟩
    cases hp
    rfl
  | @failed stored p _ _ _ hr hp ho =>
    rw [hr.eq_startToken he] at hp ⊢
    have hfolder : folder = p.folder := hp.folder_eq.symm
    rw [hfolder] at hx ⊢
    obtain ⟨rfl, rfl⟩ := hp.settled_failure ho hx hs
    exact ⟨rfl, rfl, fun p hp => by cases hp⟩
  | cancelled hr hp => exact absurd hout hp.not_pagedOut
  | skipped _ => exact absurd rfl hout.ne_nil

end Folders

end MailboxSync
