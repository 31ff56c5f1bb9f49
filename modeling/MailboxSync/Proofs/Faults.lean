import MailboxSync.Proofs.Backlog
import MailboxSync.Proofs.Mirror

/-!
# Where faults come from

* `Fault.Arises` — where the fault of a run comes from: a reply of the service, an access the stores refuse, or the
  time the run is given;
* `RunsLate.arises` — the fault a run ends in arises so;
* `Report.Accounts`, `RunsLate.accounts` — the report of a run that does not accounts for the folders it has found.

A folder that has ended in a fault tells where it arises by where it stands (`Stands.arises`).
-/

namespace MailboxSync

open Journal

variable {τ ς : Type} {e : Env τ ς} {user : User} {roots : List FolderId} {now : Option Stamp} {w w' : World τ ς}

/-! ## The states of stores -/

/-- The states of stores that accesses lead to. -/
def Stores.Reaches (s : Stores ς) : ς → ς → Prop :=
  Relation.ReflTransGen fun p q => ∃ access : Access, (access.perform s p).2 = q

theorem World.Leads.reaches {ds : List Event} (h : w.Leads e ds w') : e.stores.Reaches w.stores w'.stores := by
  induction h with
  | refl => exact .refl
  | note _ _ ih => exact ih
  | ask _ user request ih =>
    rw [ask_stores]
    exact ih
  | @writeToken _ v _ user folder token _ hw ih =>
    obtain ⟨notes, hs, -, -⟩ := writeToken_ok hw
    exact ih.tail ⟨.putToken user folder token, by simp [Access.perform, hs]⟩
  | @writeWatermark _ v _ user instant _ hw ih =>
    obtain ⟨notes, hs, -, -⟩ := writeWatermark_ok hw
    exact ih.tail ⟨.putWatermark user (.ofInstant instant), by simp [Access.perform, hs]⟩
  | trip _ ih => exact ih

/-- Where a fault of a user's run from `w` comes from, whose events are `es`: it is the outcome of a request, the stores
refuse an access with it in a state they come to, or the time of the run is none. -/
inductive Fault.Arises (e : Env τ ς) (now : Option Stamp) (user : User) (w : World τ ς) (es : List Event)
    (fault : Fault) : Prop
  | replied {request : Request} (h : .asked user request (.error (.fault fault)) ∈ es)
  | refused (access : Access) {p : ς} (hp : e.stores.Reaches w.stores p)
    (h : (access.perform e.stores p).1 = .error fault)
  | unstamped (h : e.stampOf now = .error fault)

/-! ## Discovery -/

theorem discover_fault {root : FolderId} {fault : Fault}
    (h : (discover e.transport root user w).1 = .error (.fault fault)) :
    (w.ask e.transport user (.find (.forRoot root))).1 = .error (.fault fault) := by
  unfold discover at h
  generalize w.ask e.transport user (.find (.forRoot root)) = r at h ⊢
  obtain ⟨o, w₁⟩ := r
  rcases o with trouble | _ | ms | ms
  · exact congrArg Except.error (Except.error.inj h)
  · cases h
  · dsimp only at h
    split at h <;> cases h
  · cases h

theorem discoverAll_fault {found : FolderSet} {fault : Fault}
    (h : discoverAll e.transport user roots found w = (.error (.fault fault), w')) :
    ∃ ds request, w.Acts e ds w' ∧ .asked user request (.error (.fault fault)) ∈ ds := by
  induction roots generalizing found w with
  | nil => cases h
  | cons root roots ih =>
    have ha := discover_acts e user root w
    unfold discoverAll at h
    split at h
    · cases h
    · generalize hr : discover e.transport root user w = r at h ha
      obtain ⟨result, w₁⟩ := r
      rcases result with (failure | fault') | folders
      · cases h
      · cases h
        rw [discover_fault (by rw [hr])] at ha
        exact ⟨_, _, ha, List.mem_singleton_self _⟩
      · obtain ⟨ds, request, ha', hmem⟩ := ih h
        exact ⟨_, request, ha.trans ha', List.mem_append_right _ hmem⟩

/-! ## Folders, and the end of a run -/

theorem Page.eq_of_read_fault {asked : Token} {o : Reply.Outcome} {fault : Fault}
    (h : Page.read asked o = .error (.fault fault)) : o = .error (.fault fault) := by
  by_cases ho : ∃ fault', o = .error (.fault fault')
  · obtain ⟨fault', rfl⟩ := ho
    exact congrArg Except.error (Except.error.inj h)
  · exact absurd h (Page.read_ne_fault (fun fault' heq => ho ⟨fault', heq⟩) fault)

theorem Stands.arises {folder : FolderId} {es : List Event} {ts : List Token} {fault : Fault}
    (h : Stands e user w folder (exchanges user folder es) ts (.ended (.error fault))) :
    fault.Arises e now user w es := by
  generalize hxs : exchanges user folder es = xs at h
  cases h with
  | unread hl hs => exact .refused (.getToken user folder) hl.reaches (by simp [Access.perform, hs, Except.map])
  | broken _ _ ho =>
    have hmem := mem_exchanges.mp (hxs ▸ List.mem_append_right _ (List.mem_singleton_self _))
    rw [Page.eq_of_read_fault ho] at hmem
    exact .replied hmem.1
  | @unsaved _ p _ _ _ _ _ _ hl hs =>
    exact .refused (.putToken user folder p.token) hl.reaches (by simp [Access.perform, hs])

theorem Closes.arises {w₀ : World τ ς} {rs : List (Except Fault FolderResult)} {ds es : List Event} {fault : Fault}
    (h : Closes e roots now user w rs ds (.error fault)) (hs : e.stores.Reaches w₀.stores w.stores)
    (hrs : ∀ fault, .error fault ∈ rs → Fault.Arises e now user w₀ es fault) :
    fault.Arises e now user w₀ es := by
  cases h with
  | fault hmem => exact hrs fault hmem
  | stuck _ _ ha =>
    cases ha with
    | unstamped hn => exact .unstamped hn
    | unread hr => exact .refused (.getWatermark user) hs (by simp [Access.perform, hr, Except.map])
    | @unsaved _ next hsave =>
      exact .refused (.putWatermark user (.ofInstant next)) hs (by simp [Access.perform, hsave])

theorem Closes.error_eq {rs : List (Except Fault FolderResult)} {ds : List Event} {report : Report}
    (h : Closes e roots now user w rs ds (.ok report)) :
    report.error = Failure.blamed report.folders ∧ (report.watermark.isSome = true ↔ report.error = none) := by
  cases h with
  | failed _ hb => exact ⟨hb.symm, by simp⟩
  | completed _ hok _ => exact ⟨((Failure.blamed_eq_none_iff _).mpr hok).symm, by simp⟩

/-! ## Runs -/

theorem RunsLate.world_eq {result : Except Fault Report} {trouble : Trouble}
    (h : RunsLate e roots now user w (result, w'))
    (hd : (discoverAll e.transport user roots [] w).1 = .error trouble) :
    (discoverAll e.transport user roots [] w).2 = w' := by
  generalize hout : (result, w') = out at h
  cases h with
  | undiscovered h =>
    cases hout
    rw [h]
  | broken h =>
    cases hout
    rw [h]
  | ran h _ _ _ =>
    rw [h] at hd
    cases hd

theorem RunsLate.arises {fault : Fault} (h : RunsLate e roots now user w (.error fault, w')) :
    fault.Arises e now user w (w.eventsSince w') := by
  obtain ⟨ds, hl, ⟨trouble, hd, -, hresult⟩ | ⟨folders, ends, -, hran⟩⟩ := h.cases
  · cases trouble with
    | failure failure => cases hresult
    | fault fault' =>
      cases hresult
      obtain ⟨ds', request, ha, hmem⟩ := discoverAll_fault (Prod.ext hd (h.world_eq hd))
      rw [← ha.leads.deeds_eventsSince] at hmem
      exact .replied (List.mem_of_mem_filter hmem)
  · obtain ⟨v, ds₁, ds₂, hlv, -, hc, -⟩ := hran.closes
    refine hc.arises hlv.reaches fun fault hmem => ?_
    obtain ⟨⟨folder, r⟩, hx, rfl⟩ := List.mem_map.mp hmem
    have hstands := hran.stands _ hx
    rw [← hl.exchanges_eventsSince] at hstands
    exact hstands.arises

/-- The report of a run that has found `folders`: it has a result for each of them, it is blamed on the failure that
these say, and it has a watermark unless there is one. -/
structure Report.Accounts (folders : FolderSet) (report : Report) : Prop where
  sorted : folders.Pairwise (· < ·)
  each : (report.folders.map (·.folder)).Perm folders
  error : report.error = Failure.blamed report.folders
  watermark : report.watermark.isSome = true ↔ report.error = none

theorem RunsLate.accounts {report : Report} (h : RunsLate e roots now user w (.ok report, w')) :
    (∃ failure, (discoverAll e.transport user roots [] w).1 = .error (.failure failure) ∧
        report = { user, roots, error := some failure }) ∨
      ∃ folders, (discoverAll e.transport user roots [] w).1 = .ok folders ∧ report.Accounts folders := by
  obtain ⟨ds, -, ⟨trouble, hd, -, hresult⟩ | ⟨folders, ends, hd, hran⟩⟩ := h.cases
  · cases trouble with
    | failure failure =>
      cases hresult
      exact .inl ⟨failure, hd, rfl⟩
    | fault fault => cases hresult
  · obtain ⟨_, _, _, -, -, hc, -⟩ := hran.closes
    obtain ⟨herror, hwatermark⟩ := hc.error_eq
    exact .inr ⟨folders, hd, hran.sorted, hran.folders_eq ▸ hran.all, herror, hwatermark⟩

end MailboxSync
