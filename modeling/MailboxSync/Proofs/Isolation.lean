import MailboxSync.Proofs.Ownership
import MailboxSync.Proofs.Returning

/-!
# Users do not disturb one another

* `Transport.Separates` — a service whose answers to a user depend on that user's own requests only;
* `Apart.likeness` — worlds that cannot be told apart as far as one user is concerned.  This is no equivalence on all
  worlds, but it is symmetric and transitive, and every world of a run is like itself;
* `Apart.other` — the run of another user keeps worlds so;
* `Apart.reports`, `Apart.returns` — in a call for several users each of them fares as in a call of its own;
* `syncUsers_isolated` — what follows for the whole call: its reports, requests and progress, and for other orders of
  the users.
-/

namespace MailboxSync

open Journal

/-! ## Services -/

section Services

variable {τ : Type} {t : Transport τ} {u : User} {s s' s'' : τ}

def requestsOf (u : User) (asked : List (User × Request)) : List (User × Request) := asked.filter (·.1 = u)

theorem requestsOf_append (asked asked' : List (User × Request)) :
    requestsOf u (asked ++ asked') = requestsOf u asked ++ requestsOf u asked' := List.filter_append ..

/-- From the one state on as from the other, the answer to a user is determined by that user's requests before, whatever
others ask between them. -/
def Transport.AlikeFor (t : Transport τ) (u : User) (s s' : τ) : Prop :=
  ∀ asked asked', requestsOf u asked = requestsOf u asked' → ∀ request,
    (t.send (t.after s asked) u request).1.outcome = (t.send (t.after s' asked') u request).1.outcome

/-- From a state on, the answers to every user depend on that user's own requests only. -/
def Transport.Separates (t : Transport τ) (s : τ) : Prop := ∀ u, t.AlikeFor u s s

namespace Transport.AlikeFor

theorem symm (h : t.AlikeFor u s s') : t.AlikeFor u s' s :=
  fun asked asked' heq request => (h asked' asked heq.symm request).symm

theorem trans (h : t.AlikeFor u s s') (h' : t.AlikeFor u s' s'') : t.AlikeFor u s s'' :=
  fun asked asked' heq request => (h asked asked rfl request).trans (h' asked asked' heq request)

theorem send (h : t.AlikeFor u s s') (request : Request) :
    t.AlikeFor u (t.send s u request).2 (t.send s' u request).2 := by
  intro asked asked' heq
  refine h ((u, request) :: asked) ((u, request) :: asked') ?_
  simpa [requestsOf] using heq

theorem after_others (h : t.AlikeFor u s s') {asked : List (User × Request)} (hothers : requestsOf u asked = []) :
    t.AlikeFor u s (t.after s' asked) := by
  intro asked₁ asked₂ heq request
  rw [← Transport.after_append]
  refine h asked₁ (asked ++ asked₂) ?_ request
  rw [requestsOf_append, hothers, List.nil_append, heq]

end Transport.AlikeFor

end Services

/-! ## Worlds -/

def deedsOf (u : User) (es : List Event) : List Event := (deeds es).filter (·.user? = some u)

theorem Owned.deedsOf_eq_nil {user u : User} {es : List Event} (h : Owned user (deeds es)) (hu : u ≠ user) :
    deedsOf u es = [] := by
  refine List.filter_eq_nil_iff.mpr fun ev hev hmine => hu ?_
  rw [h ev hev] at hmine
  exact (Option.some.inj (of_decide_eq_true hmine)).symm

theorem Owned.requestsOf_eq_nil {user u : User} {ds : List Event} (h : Owned user ds) (hu : u ≠ user) :
    requestsOf u (requests ds) = [] := by
  refine List.filter_eq_nil_iff.mpr fun x hx hmine => hu ?_
  obtain ⟨user', request⟩ := x
  obtain ⟨o, ho⟩ := mem_requests.mp hx
  have huser : user' = user := Option.some.inj (h _ ho)
  rw [← huser]
  exact (of_decide_eq_true hmine).symm

namespace Apart

variable {τ : Type} {b : Backend} {rules : List AccessRule} {e : Env τ Progress} {roots : List FolderId}
  {now : Option Stamp} {fuel : Nat} {u : User} {w v v' : World τ Progress}

/-- Worlds that are alike for one user: the service is, the same is kept of the user, and the same was done for it. -/
def likeness (t : Transport τ) (b : Backend) (u : User) : Likeness τ τ Progress Progress where
  user := (· = u)
  shows ev := ev.user? = some u
  heeds := false
  remote := t.AlikeFor u
  stores p p' := b.holding p' u = b.holding p u
  view_trimmed _ _ h := congrArg _ h

abbrev Alike (e : Env τ Progress) (b : Backend) (u : User) (w w' : World τ Progress) : Prop :=
  (likeness e.transport b u).Worlds w w'

theorem transports (t : Transport τ) (b : Backend) (u : User) : (likeness t b u).Transports t t where
  view {s s' user request} h hasks := by
    obtain rfl : user = u := by cases hasks <;> assumption
    exact h [] [] rfl request
  tells _ _ := Likeness.tells_of_all (fun _ => trivial) (fun _ => trivial) _
  cancels _ _ hheeds := by cases hheeds
  remote {s s' user request} h hasks := by
    obtain rfl : user = u := by cases hasks <;> assumption
    exact h.send request

theorem envs (he : e.stores = b.stores.refusing rules) (u : User) : (likeness e.transport b u).Envs e e := by
  refine ⟨transports _ b u, ?_, rfl, rfl⟩
  rw [he]
  exact Likeness.accesses_of_holding (fun h => h) (fun _ => trivial) Iff.rfl rules

theorem shown_eq (t : Transport τ) (b : Backend) (u : User) (es : List Event) :
    (likeness t b u).shown es = deedsOf u es := by
  rw [Likeness.shown_of_view _ rfl]
  rfl

theorem symm (h : Alike e b u w v) : Alike e b u v w :=
  ⟨h.remote.symm, h.stores.symm, ⟨h.cancels.2, h.cancels.1⟩, h.seen.symm⟩

theorem trans (h : Alike e b u w v) (h' : Alike e b u v v') : Alike e b u w v' :=
  ⟨h.remote.trans h'.remote, h'.stores.trans h.stores, ⟨h.cancels.1, h'.cancels.2⟩, h'.seen.trans h.seen⟩

theorem uncancelled (h : Alike e b u w v) : v.cancelled = false := by
  have hnone : v.cancel = none := h.cancels.2
  simp [World.cancelled, hnone]

/-- **The run of another user** changes nothing as far as this one is concerned. -/
theorem other (c : Call τ Progress) (he : c.env.stores = b.stores.refusing rules) (hu : u ≠ c.user)
    (h : Alike c.env b u w c.before) : Alike c.env b u w c.noted := by
  have hl : c.before.Leads c.env (deeds c.events) c.noted := c.leads_noted
  have howned : Owned c.user (deeds c.events) := c.owned
  have hforeign : ∀ ev ∈ deeds c.events, ev.user? ≠ some u := by
    intro ev hev hmine
    rw [howned ev hev] at hmine
    exact hu (Option.some.inj hmine).symm
  refine ⟨?_, (hl.holding_eq he hforeign).trans h.stores, ⟨h.cancels.1, ?_⟩, ?_⟩
  · rw [hl.remote_eq]
    exact h.remote.after_others (howned.requestsOf_eq_nil hu)
  · exact hl.cancel_eq_none h.cancels.2
  · obtain ⟨es, hes, hds⟩ := hl.events_eq
    have hnone : deedsOf u es = [] := Owned.deedsOf_eq_nil (by rwa [hds]) hu
    rw [hes, Likeness.shown_append, shown_eq c.env.transport b u es, hnone, List.append_nil]
    exact h.seen

/-! ## Calls -/

theorem syncUsers_cons (hc : w.cancelled = false) (user : User) (users : List User) :
    syncUsers e fuel roots now (user :: users) w =
      (syncUsers e fuel roots now [user] w).bind fun (reports, w') =>
        (syncUsers e fuel roots now users w').map fun (reports', w'') => (reports ++ reports', w'') := by
  simp only [syncUsers, hc, Bool.false_eq_true, if_false]
  rcases syncUser e fuel roots now user w with _ | ⟨fault | report, w'⟩
  · rfl
  · simp
  · simp

theorem exists_call {reports : List Report} {user : User} (hc : w.cancelled = false)
    (h : syncUsers e fuel roots now [user] w = some (reports, v)) :
    ∃ c : Call τ Progress, c.env = e ∧ c.user = user ∧ c.before = w ∧ c.noted = v ∧
      reports = [c.report] := by
  obtain ⟨cs, hb, rfl⟩ := batch_of_syncUsers h
  cases hb with
  | cancelled hc' =>
    rw [hc] at hc'
    cases hc'
  | ran c he _ _ _ rest =>
    cases rest with
    | done _ => exact ⟨c, he, rfl, rfl, rfl, rfl⟩

/-- How a user fares in a call of its own. -/
def Fares (e : Env τ Progress) (b : Backend) (fuel : Nat) (roots : List FolderId) (now : Option Stamp)
    (w v : World τ Progress) (u : User) (report : Report) : Prop :=
  report.user = u ∧ ∃ w', syncUsers e fuel roots now [u] w = some ([report], w') ∧ Alike e b u w' v

/-- The call of one user, from worlds alike for that user: it comes to the same report, in worlds alike for the user,
and for all others it may not have been made. -/
theorem single (he : e.stores = b.stores.refusing rules) (h : Alike e b u w v) {reports : List Report}
    (hrun : syncUsers e fuel roots now [u] v = some (reports, v')) :
    ∃ report, reports = [report] ∧ Fares e b fuel roots now w v' u report ∧
      ∀ u', u' ≠ u → ∀ {x}, Alike e b u' x v → Alike e b u' x v' := by
  obtain ⟨c, rfl, rfl, rfl, rfl, rfl⟩ := exists_call (uncancelled h) hrun
  refine ⟨c.report, rfl, ⟨c.report_user, ?_⟩, fun u' hu' x hx => other c he hu' hx⟩
  have hmine : ∀ user ∈ [c.user], (likeness c.env.transport b c.user).user user := by simp [likeness]
  have hsame := Likeness.syncUsers (envs he c.user) fuel hmine (fun root (_ : root ∈ roots) => trivial) now h
  rw [hrun] at hsame
  generalize syncUsers c.env fuel roots now [c.user] w = r at hsame ⊢
  cases hsame with
  | some hsame =>
    obtain ⟨reports, w₁, w₁', rfl, hx, -, hw⟩ := hsame.elim
    cases hx
    exact ⟨w₁, rfl, hw⟩

theorem steady (hv : ∀ u, Alike e b u v v) (hmine : Alike e b u w v')
    (hforeign : ∀ u', u' ≠ u → ∀ {x}, Alike e b u' x v → Alike e b u' x v') (u' : User) :
    Alike e b u' v' v' := by
  by_cases hu : u' = u
  · rw [hu]
    exact trans (symm hmine) hmine
  · have hmoved : Alike e b u' v v' := hforeign u' hu (hv u')
    exact trans (symm hmoved) hmoved

theorem single_isSome (he : e.stores = b.stores.refusing rules) (h : Alike e b u w v)
    (hsome : (syncUsers e fuel roots now [u] w).isSome) : (syncUsers e fuel roots now [u] v).isSome := by
  have hmine : ∀ user ∈ [u], (likeness e.transport b u).user user := by simp [likeness]
  have hsame := Likeness.syncUsers (envs he u) fuel hmine (fun root (_ : root ∈ roots) => trivial) now h
  generalize syncUsers e fuel roots now [u] w = r at hsame hsome
  generalize syncUsers e fuel roots now [u] v = r' at hsame ⊢
  cases hsame with
  | none => cases hsome
  | some _ => rfl

/-- **In a call for several users each of them fares as in a call of its own**, and for users that are not named it may
not have been made. -/
theorem reports (he : e.stores = b.stores.refusing rules) {users : List User} (hn : users.Nodup)
    (hv : ∀ u, Alike e b u v v) (hw : ∀ u ∈ users, Alike e b u w v) {reports : List Report}
    (hrun : syncUsers e fuel roots now users v = some (reports, v')) :
    List.Forall₂ (Fares e b fuel roots now w v') users reports ∧ ∀ u, u ∉ users → Alike e b u v v' := by
  induction users generalizing v reports with
  | nil =>
    cases hrun
    exact ⟨.nil, fun u _ => hv u⟩
  | cons user users ih =>
    obtain ⟨hnot, hrest⟩ := List.nodup_cons.mp hn
    rw [syncUsers_cons (uncancelled (hv user))] at hrun
    obtain ⟨⟨rs, v₁⟩, hfirst, hrun⟩ := Option.bind_eq_some_iff.mp hrun
    obtain ⟨⟨rs', v₂⟩, hothers, heq⟩ := Option.map_eq_some_iff.mp hrun
    obtain ⟨rfl, rfl⟩ : rs ++ rs' = reports ∧ v₂ = v' := Prod.mk.inj heq
    obtain ⟨report, rfl, ⟨huser, w₁, halone, hw₁⟩, hforeign⟩ :=
      single he (hw user List.mem_cons_self) hfirst
    have hv₁ : ∀ u, Alike e b u v₁ v₁ := steady hv hw₁ hforeign
    obtain ⟨hall, hunnamed⟩ := ih hrest hv₁ (fun u hu => hforeign u (fun h => hnot (h ▸ hu))
      (hw u (List.mem_cons_of_mem _ hu))) hothers
    refine ⟨.cons ⟨huser, w₁, halone, trans hw₁ (hunnamed user hnot)⟩ hall, fun u hu => ?_⟩
    obtain ⟨hne, hu'⟩ := not_or.mp (mt List.mem_cons.mpr hu)
    exact trans (hforeign u hne (hv u)) (hunnamed u hu')

theorem returns (he : e.stores = b.stores.refusing rules) {users : List User} (hn : users.Nodup)
    (hv : ∀ u, Alike e b u v v) (hw : ∀ u ∈ users, Alike e b u w v)
    (hsome : ∀ u ∈ users, (syncUsers e fuel roots now [u] w).isSome) :
    (syncUsers e fuel roots now users v).isSome := by
  induction users generalizing v with
  | nil => rfl
  | cons user users ih =>
    obtain ⟨hnot, hrest⟩ := List.nodup_cons.mp hn
    have hfirst := single_isSome he (hw user List.mem_cons_self) (hsome user List.mem_cons_self)
    obtain ⟨⟨rs, v₁⟩, hrun⟩ := Option.isSome_iff_exists.mp hfirst
    obtain ⟨report, rfl, ⟨-, w₁, -, hw₁⟩, hforeign⟩ := single he (hw user List.mem_cons_self) hrun
    have hv₁ : ∀ u, Alike e b u v₁ v₁ := steady hv hw₁ hforeign
    have hothers :=
      ih hrest hv₁ (fun u hu => hforeign u (fun h => hnot (h ▸ hu)) (hw u (List.mem_cons_of_mem _ hu)))
      fun u hu => hsome u (List.mem_cons_of_mem _ hu)
    rw [syncUsers_cons (uncancelled (hv user)), hrun, Option.bind_some, Option.isSome_map]
    exact hothers

theorem users_eq {users : List User} {reports : List Report}
    (h : List.Forall₂ (Fares e b fuel roots now w v) users reports) : reports.map (·.user) = users := by
  induction h with
  | nil => rfl
  | cons hfares _ ih => rw [List.map_cons, ih, hfares.1]

theorem reports_eq {users : List User} {reports : List Report}
    (h : List.Forall₂ (Fares e b fuel roots now w v) users reports) :
    reports = users.flatMap fun u => ((syncUsers e fuel roots now [u] w).map (·.1)).getD [] := by
  induction h with
  | nil => rfl
  | cons hfares _ ih =>
    obtain ⟨-, w', halone, -⟩ := hfares
    rw [List.flatMap_cons, ← ih, halone]
    rfl

theorem Fares.error {report : Report} (h : Fares e b fuel roots now w v u report) (hc : w.cancelled = false)
    {fault : Fault} (hfault : (syncUser e fuel roots now u w).map (·.1) = some (.error fault)) :
    report = .ofFault u roots fault := by
  obtain ⟨-, w', halone, -⟩ := h
  obtain ⟨⟨result, v'⟩, hrun, rfl⟩ := Option.map_eq_some_iff.mp hfault
  simp only [syncUsers, hc, hrun, Bool.false_eq_true, if_false, Option.map_some, Option.some.injEq, Prod.mk.injEq,
    List.cons.injEq, and_true] at halone
  exact halone.1.symm

/-! ## From a world on -/

section Start

variable {users : List User}

theorem self (hc : w.cancel = none) (hs : e.transport.Separates w.remote) (u : User) : Alike e b u w w :=
  ⟨hs u, rfl, ⟨hc, hc⟩, rfl⟩

theorem exists_fares {reports : List Report} (h : List.Forall₂ (Fares e b fuel roots now w v) users reports)
    (hu : u ∈ users) : ∃ report, Fares e b fuel roots now w v u report := by
  induction h with
  | nil => cases hu
  | cons hfares _ ih =>
    rcases List.mem_cons.mp hu with rfl | hu
    · exact ⟨_, hfares⟩
    · exact ih hu

theorem isSome_iff (he : e.stores = b.stores.refusing rules) (hc : w.cancel = none)
    (hs : e.transport.Separates w.remote) (hn : users.Nodup) (fuel : Nat) :
    (syncUsers e fuel roots now users w).isSome = true ↔
      ∀ u ∈ users, (syncUsers e fuel roots now [u] w).isSome = true := by
  constructor
  · intro hsome u hu
    obtain ⟨⟨rs, v⟩, hrun⟩ := Option.isSome_iff_exists.mp hsome
    obtain ⟨hall, -⟩ := reports he hn (self hc hs) (fun u _ => self hc hs u) hrun
    obtain ⟨report, -, w', halone, -⟩ := exists_fares hall hu
    rw [halone]
    rfl
  · exact returns he hn (self hc hs) fun u _ => self hc hs u

/-- A call returns, or some user's run is endless by itself. -/
theorem returns_or_endless (he : e.stores = b.stores.refusing rules) (hc : w.cancel = none)
    (hs : e.transport.Separates w.remote) (hn : users.Nodup) :
    (∃ fuel, (syncUsers e fuel roots now users w).isSome = true) ∨ ∃ u ∈ users, Endless e roots u w := by
  by_cases hendless : ∃ u ∈ users, Endless e roots u w
  · exact .inr hendless
  -- each call alone returns, so all of them do with the most rounds that one of them takes
  have hbound : ∀ us ⊆ users, ∃ fuel, ∀ u ∈ us, (syncUsers e fuel roots now [u] w).isSome = true := by
    intro us
    induction us with
    | nil => exact fun _ => ⟨0, by simp⟩
    | cons user us ih =>
      intro hsub
      obtain ⟨m, hm⟩ := ih fun u hu => hsub (List.mem_cons_of_mem _ hu)
      rcases syncUsers_returns e roots now [user] w with
        ⟨n, hn⟩ | ⟨before, u, after, k, rs, v, heq, hrun, hmeets⟩
      · refine ⟨max m n, fun u hu => ?_⟩
        rcases List.mem_cons.mp hu with rfl | hu
        · obtain ⟨out, hout⟩ := Option.isSome_iff_exists.mp hn
          rw [syncUsers_mono (Nat.le_max_right m n) hout]
          rfl
        · obtain ⟨out, hout⟩ := Option.isSome_iff_exists.mp (hm u hu)
          rw [syncUsers_mono (Nat.le_max_left m n) hout]
          rfl
      · obtain ⟨rfl, rfl, -⟩ : before = [] ∧ u = user ∧ after = [] := by
          cases before with
          | nil => simpa [eq_comm] using heq
          | cons _ _ => simp at heq
        cases hrun
        exact absurd ⟨u, hsub List.mem_cons_self, hmeets⟩ hendless
  obtain ⟨fuel, hfuel⟩ := hbound users (List.Subset.refl _)
  exact .inl ⟨fuel, (isSome_iff he hc hs hn fuel).mpr hfuel⟩

/-- In another order the users get the same reports, and the same is kept of everybody. -/
theorem permuted (he : e.stores = b.stores.refusing rules) (hc : w.cancel = none)
    (hs : e.transport.Separates w.remote) (hn : users.Nodup) {rs : List Report}
    (hrun : syncUsers e fuel roots now users w = some (rs, v)) {users' : List User} (hperm : users.Perm users') :
    ∃ rs' v', syncUsers e fuel roots now users' w = some (rs', v') ∧ rs'.map (·.user) = users' ∧ rs.Perm rs' ∧
      ∀ u, b.holding v'.stores u = b.holding v.stores u := by
  have hn' : users'.Nodup := hperm.nodup_iff.mp hn
  have hsome : (syncUsers e fuel roots now users' w).isSome = true := by
    have heach := (isSome_iff he hc hs hn fuel).mp (Option.isSome_iff_exists.mpr ⟨_, hrun⟩)
    exact (isSome_iff he hc hs hn' fuel).mpr fun u hu => heach u (hperm.mem_iff.mpr hu)
  obtain ⟨⟨rs', v'⟩, hrun'⟩ := Option.isSome_iff_exists.mp hsome
  obtain ⟨hall, hunnamed⟩ := reports he hn (self hc hs) (fun u _ => self hc hs u) hrun
  obtain ⟨hall', hunnamed'⟩ := reports he hn' (self hc hs) (fun u _ => self hc hs u) hrun'
  refine ⟨rs', v', hrun', ?_, ?_, fun u => ?_⟩
  · exact users_eq hall'
  · rw [reports_eq hall, reports_eq hall']
    exact hperm.flatMap_right _
  · by_cases hu : u ∈ users
    · obtain ⟨report, -, w₁, halone, hw₁⟩ := exists_fares hall hu
      obtain ⟨report', -, w₁', halone', hw₁'⟩ := exists_fares hall' (hperm.mem_iff.mp hu)
      rw [halone] at halone'
      cases halone'
      exact hw₁'.stores.trans hw₁.stores.symm
    · have hu' : u ∉ users' := fun h => hu (hperm.mem_iff.mpr h)
      exact (hunnamed' u hu').stores.trans (hunnamed u hu).stores.symm

end Start

end Apart

/-- **Users do not disturb one another.**  Over stores of any backend and a service that answers every user by that
user's own requests, whatever fails, a call for several users without a cancel event returns if the calls for each of
them alone do, and else the service pages a folder of some user for ever, in a run of that user by itself.  It makes one
report for each user in their order.  Each of these is the report of a call for that user alone from the same service
and stores; so are the user's requests with their replies, the writes made for the user and the progress kept of it in
the end.  If a fault ends the user's run, the report holds it with its message.  Nothing is done for other users and
their progress stays as it is.  In any other order the users get the same reports, and the same progress is kept of
everybody. -/
theorem syncUsers_isolated {τ : Type} {b : Backend} {rules : List AccessRule} {e : Env τ Progress}
    {w : World τ Progress} (he : e.stores = b.stores.refusing rules) (hc : w.cancel = none)
    (hs : e.transport.Separates w.remote) {users : List User} (hn : users.Nodup) (roots : List FolderId)
    (now : Option Stamp) :
    (∀ fuel, (syncUsers e fuel roots now users w).isSome = true ↔
      ∀ u ∈ users, (syncUsers e fuel roots now [u] w).isSome = true) ∧
    ((∃ fuel, (syncUsers e fuel roots now users w).isSome = true) ∨ ∃ u ∈ users, Endless e roots u w) ∧
    ∀ fuel reports v, syncUsers e fuel roots now users w = some (reports, v) →
      List.Forall₂
        (fun u report => report.user = u ∧
          (∃ w', syncUsers e fuel roots now [u] w = some ([report], w') ∧
            deedsOf u v.events = deedsOf u w'.events ∧ b.holding v.stores u = b.holding w'.stores u) ∧
          ∀ fault, (syncUser e fuel roots now u w).map (·.1) = some (.error fault) →
            report = { user := u, roots, error := some (.unexpected fault.message (some fault)) })
        users reports ∧
      (∀ u, u ∉ users → deedsOf u v.events = deedsOf u w.events ∧
        b.holding v.stores u = b.holding w.stores u) ∧
      ∀ users', users.Perm users' → ∃ reports' v', syncUsers e fuel roots now users' w = some (reports', v') ∧
        reports'.map (·.user) = users' ∧ reports.Perm reports' ∧
        ∀ u, b.holding v'.stores u = b.holding v.stores u := by
  refine ⟨Apart.isSome_iff he hc hs hn, Apart.returns_or_endless he hc hs hn, fun fuel reports v hrun => ?_⟩
  have hself : ∀ u, Apart.Alike e b u w w := Apart.self hc hs
  have hcalm : w.cancelled = false := by simp [World.cancelled, hc]
  have hdeeds : ∀ {u x y}, Apart.Alike e b u x y → deedsOf u y.events = deedsOf u x.events := by
    intro u x y h
    have hseen := h.seen
    rwa [Apart.shown_eq, Apart.shown_eq] at hseen
  obtain ⟨hall, hunnamed⟩ := Apart.reports he hn hself (fun u _ => hself u) hrun
  refine ⟨hall.imp fun u report hfares => ?_,
    fun u hu => ?_, fun users' hperm => Apart.permuted he hc hs hn hrun hperm⟩
  · have herror : ∀ fault, _ → report = .ofFault u roots fault := fun fault => hfares.error hcalm
    obtain ⟨huser, w', halone, hw'⟩ := hfares
    exact ⟨huser, ⟨w', halone, hdeeds hw', hw'.stores⟩, herror⟩
  · exact ⟨hdeeds (hunnamed u hu), (hunnamed u hu).stores⟩

/-- A service without memory that is down for `v` and has one folder with one item for everybody else. -/
def halfDown : Transport Unit where
  send _ user request :=
    let outcome : Reply.Outcome :=
      if user = "v" then .error (.fault (.broken "down"))
      else
        match request with
        | .find _ => .ok (some (.found [{ folders := some ["a"] }]))
        | .sync _ =>
            .ok (some (.synced [{ token := some "1", last := some true, changes := some { created := ["x"] } }]))
        | .other _ => .ok none
    ({ outcome }, ())

/-- The users around `v` are synced as if there were no `v`, whose report holds what broke it. -/
theorem halfDown_isolated : ∃ report w' report' v,
    syncUsers { transport := halfDown, stores := Backend.database.stores } 9 ["r"] none ["v", "u"]
        ({ remote := (), stores := {} } : World Unit Progress) = some ([report', report], v) ∧
      syncUsers { transport := halfDown, stores := Backend.database.stores } 9 ["r"] none ["u"]
        ({ remote := (), stores := {} } : World Unit Progress) = some ([report], w') ∧
      Backend.database.holding v.stores "u" = Backend.database.holding w'.stores "u" ∧
      report'.error = some (.unexpected "down" (some (.broken "down"))) := by
  let e : Env Unit Progress := { transport := halfDown, stores := Backend.database.stores }
  let w : World Unit Progress := { remote := (), stores := {} }
  have he : e.stores = Backend.database.stores.refusing [] := (Stores.refusing_nil _).symm
  have hs : e.transport.Separates w.remote := fun _ _ _ _ _ => rfl
  obtain ⟨-, -, hreturned⟩ :=
    syncUsers_isolated he (w := w) rfl hs (show ["v", "u"].Nodup by decide) ["r"] none
  have hsome : (syncUsers e 9 ["r"] none ["v", "u"] w).isSome = true := by decide +kernel
  obtain ⟨⟨reports, v⟩, hrun⟩ := Option.isSome_iff_exists.mp hsome
  obtain ⟨hall, -, -⟩ := hreturned 9 reports v hrun
  obtain _ | ⟨⟨-, -, hfault⟩, hall⟩ := hall
  obtain _ | ⟨⟨-, ⟨w', halone, -, hkept⟩, -⟩, hall⟩ := hall
  cases hall
  refine ⟨_, w', _, v, hrun, halone, hkept, ?_⟩
  have hbroken : (syncUser e 9 ["r"] none "v" w).map (·.1) = some (.error (.broken "down")) := rfl
  rw [hfault _ hbroken]
  rfl

end MailboxSync
