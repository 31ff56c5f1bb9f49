import MailboxSync.Proofs.Provenance
import MailboxSync.Proofs.Requests

/-!
# Cancellation

* `SetBy` — the moment at which the cancel event gets set: before anything happens, or during the last request of what
  has happened;
* `FinalReply` — the last event is a request whose reply brought the final page of a folder;
* `Obeys` — after that moment nothing is asked, and no token is written but that of such a reply;
* `RunsLate.obeys`, `Batch.obeys` — a run obeys, and so do the runs of several users;
* `Batch.last_run` — what happens in such runs after that moment happens in the last of them.

Deeds that obey follow one another (`Obeys.trans`), since an event that is set stays set: so it is enough that each turn
of a folder obeys, and that each request of discovery does.
-/

namespace MailboxSync

open Journal

/-! ## The moment -/

section Moments

variable {τ ς : Type} {e : Env τ ς} {w w' v : World τ ς} {ds ds' ds₁ ds₂ : List Event}

/-- After these events of a run from `w` the cancel event has just got set: it was set before them and there are none,
or it is there and the reply to the last of them, a request, set it. -/
inductive SetBy (e : Env τ ς) (w : World τ ς) : List Event → Prop
  | before (h : w.cancelled = true) : SetBy e w []
  | during {es : List Event} {user : User} {request : Request} {o : Reply.Outcome} (hc : w.cancel.isSome = true)
    (h : (e.transport.send (e.transport.after w.remote (requests es)) user request).1.cancels = true) :
    SetBy e w (es ++ [.asked user request o])

/-- The last event is a request about a user's folder whose reply brought its final page, with this token. -/
def FinalReply (es : List Event) (user : User) (folder : FolderId) (token : Token) : Prop :=
  ∃ before r o page, es = before ++ [.asked user (.sync r) o] ∧ r.folder = folder ∧
    Page.read r.token o = .ok page ∧ page.last = true ∧ page.token = token

/-- Once the cancel event is set nothing is asked, and no token is written but that of a final page which came of the
last request. -/
def Obeys (e : Env τ ς) (w : World τ ς) (ds : List Event) : Prop :=
  ∀ ds₁ ds₂, ds = ds₁ ++ ds₂ → SetBy e w ds₁ →
    requests ds₂ = [] ∧
      ∀ user folder token, .savedToken user folder token ∈ ds₂ → FinalReply ds₁ user folder token

theorem not_finalReply_nil (user : User) (folder : FolderId) (token : Token) : ¬ FinalReply [] user folder token := by
  rintro ⟨before, r, o, page, h, -⟩
  simp at h

theorem FinalReply.append {user : User} {folder : FolderId} {token : Token} (h : FinalReply ds user folder token)
    (ds₀ : List Event) : FinalReply (ds₀ ++ ds) user folder token := by
  obtain ⟨before, r, o, page, rfl, hr, ho, hlast, ht⟩ := h
  exact ⟨ds₀ ++ before, r, o, page, by simp, hr, ho, hlast, ht⟩

theorem SetBy.cases (h : SetBy e w ds) : (ds = [] ∧ w.cancelled = true) ∨
    ∃ before user request o, ds = before ++ [.asked user request o] ∧ w.cancel.isSome = true ∧
      (e.transport.send (e.transport.after w.remote (requests before)) user request).1.cancels = true := by
  cases h with
  | before h => exact .inl ⟨rfl, h⟩
  | during hc h => exact .inr ⟨_, _, _, _, rfl, hc, h⟩

/-- The cancel event is set when it has just got set. -/
theorem World.Leads.cancelled_of_setBy (h : w.Leads e ds v) (hset : SetBy e w ds) : v.cancelled = true := by
  -- what is no request does not set it
  have hother : ∀ {ds d}, (∀ user request o, d ≠ .asked user request o) → ¬ SetBy e w (ds ++ [d]) := by
    intro ds d hd hset
    rcases hset.cases with ⟨hnil, -⟩ | ⟨before, user, request, o, heq, -⟩
    · simp at hnil
    · obtain ⟨-, hx⟩ := List.append_inj' heq rfl
      exact hd user request o (List.cons.inj hx).1
  induction h with
  | refl =>
    rcases hset.cases with ⟨-, hc⟩ | ⟨before, user, request, o, heq, -⟩
    · exact hc
    · simp at heq
  | note _ _ ih => exact ih hset
  | @ask ds v hl user request _ =>
    rcases hset.cases with ⟨hnil, -⟩ | ⟨before, u, r, o, heq, hc, h⟩
    · simp at hnil
    · obtain ⟨rfl, hx⟩ := List.append_inj' heq rfl
      cases hx
      rw [← hl.remote_eq] at h
      obtain ⟨c, hsome⟩ := Option.isSome_iff_exists.mp (hl.cancel_isSome.trans hc)
      rw [World.cancelled_iff, World.ask_cancel, if_pos h, hsome]
      rfl
  | writeToken _ _ _ => exact absurd hset (hother (by simp))
  | writeWatermark _ _ _ => exact absurd hset (hother (by simp))
  | trip hl ih => exact (World.Leads.refl (e := e)).trip.cancelled (ih hset)

theorem SetBy.of_append (h : SetBy e w (ds ++ ds')) (hl : w.Leads e ds v) : SetBy e v ds' := by
  by_cases hne : ds' = []
  · subst hne
    rw [List.append_nil] at h
    exact .before (hl.cancelled_of_setBy h)
  · rcases h.cases with ⟨hnil, -⟩ | ⟨before, user, request, o, heq, hc, h⟩
    · exact absurd (List.append_eq_nil_iff.mp hnil).2 hne
    · rcases snoc_eq_append heq.symm with ⟨-, hnil⟩ | ⟨rest, rfl, rfl⟩
      · exact absurd hnil hne
      · rw [requests_append, Transport.after_append, ← hl.remote_eq] at h
        exact .during (hl.cancel_isSome.trans hc) h

/-! ## Deeds that obey -/

theorem Obeys.trans (h : Obeys e w ds) (hl : w.Leads e ds v) (h' : Obeys e v ds') : Obeys e w (ds ++ ds') := by
  intro ds₁ ds₂ heq hset
  rcases List.append_eq_append_iff.mp heq with ⟨mid, rfl, rfl⟩ | ⟨mid, rfl, rfl⟩
  · -- the moment comes with the later deeds, or between the two
    obtain ⟨hr, ht⟩ := h' mid ds₂ rfl (hset.of_append hl)
    exact ⟨hr, fun user folder token hmem => (ht user folder token hmem).append ds⟩
  · -- it comes with the earlier deeds, and the later ones begin in a world in which the event is set
    obtain ⟨hr, ht⟩ := h ds₁ mid rfl hset
    obtain ⟨v₁, hl₁, hl₂⟩ := hl.split
    have hc : v.cancelled = true := hl₂.cancelled (hl₁.cancelled_of_setBy hset)
    obtain ⟨hr', ht'⟩ := h' [] ds' rfl (.before hc)
    refine ⟨by rw [requests_append, hr, hr']; rfl, fun user folder token hmem => ?_⟩
    rcases List.mem_append.mp hmem with hmem | hmem
    · exact ht user folder token hmem
    · exact absurd (ht' user folder token hmem) (not_finalReply_nil user folder token)

theorem Obeys.idle (hr : requests ds = []) (ht : ∀ user folder token, .savedToken user folder token ∉ ds) :
    Obeys e w ds := by
  rintro ds₁ ds₂ rfl -
  rw [requests_append, List.append_eq_nil_iff] at hr
  exact ⟨hr.2, fun user folder token hmem => absurd (List.mem_append_right _ hmem) (ht user folder token)⟩

theorem Obeys.nil : Obeys e w [] := .idle rfl (by simp)

theorem SetBy.ne_nil (h : SetBy e w ds) (hc : w.cancelled = false) : ds ≠ [] := by
  rintro rfl
  have hset : w.cancelled = true := World.Leads.refl.cancelled_of_setBy h
  rw [hc] at hset
  cases hset

theorem Obeys.asked (hc : w.cancelled = false) (user : User) (request : Request) (o : Reply.Outcome) :
    Obeys e w [.asked user request o] := by
  intro ds₁ ds₂ heq hset
  rcases List.singleton_eq_append_iff.mp heq with ⟨hnil, -⟩ | ⟨-, rfl⟩
  · exact absurd hnil (hset.ne_nil hc)
  · exact ⟨rfl, by simp⟩

theorem Obeys.final (hc : w.cancelled = false) {user : User} {r : SyncRequest} {o : Reply.Outcome} {page : Page}
    (ho : Page.read r.token o = .ok page) (hlast : page.last = true) :
    Obeys e w [.asked user (.sync r) o, .savedToken user r.folder page.token] := by
  intro ds₁ ds₂ heq hset
  cases ds₁ with
  | nil => exact absurd rfl (hset.ne_nil hc)
  | cons d rest =>
    obtain ⟨rfl, hrest⟩ := List.cons.inj heq
    rcases List.singleton_eq_append_iff.mp hrest with ⟨rfl, rfl⟩ | ⟨-, rfl⟩
    · refine ⟨rfl, fun u f token hmem => ?_⟩
      obtain ⟨rfl, rfl, rfl⟩ : u = user ∧ f = r.folder ∧ token = page.token := by simpa using hmem
      exact ⟨[], r, o, page, rfl, rfl, ho, hlast, rfl⟩
    · exact ⟨rfl, by simp⟩

/-! ## A run obeys -/

section Runs

variable {roots : List FolderId} {now : Option Stamp} {user : User}

theorem Task.Moves.obeys {task : Task} {move : Move} (h : Task.Moves e user task w ds move) : Obeys e w ds := by
  cases h with
  | cancelled _ => exact .nil
  | failed hc _ => exact .asked hc _ _ _
  | broken hc _ => exact .asked hc _ _ _
  | paged hc _ _ => exact .asked hc _ _ _
  | finished hc ho hlast => exact Obeys.final (r := task.request e) hc ho hlast
  | unsaved hc _ _ _ => exact .asked hc _ _ _

theorem Backlog.steps_obeys {b b' : Backlog} (h : Relation.ReflTransGen (Backlog.Steps e user) (b, w) (b', w')) :
    ∃ ds, w.Leads e ds w' ∧ Obeys e w ds := by
  generalize hlast : (b', w') = s at h
  induction h generalizing b' w' with
  | refl =>
    cases hlast
    exact ⟨[], .refl, .nil⟩
  | @tail s _ _ hstep ih =>
    subst hlast
    obtain ⟨ds₁, hl₁, ho₁⟩ := ih rfl
    obtain ⟨ds₂, hl₂, hds⟩ := hstep.deeds
    have ho₂ : Obeys e s.2 ds₂ := by
      rcases hds with rfl | ⟨task, move, hm⟩
      · exact .nil
      · exact hm.obeys
    exact ⟨ds₁ ++ ds₂, hl₁.trans hl₂, ho₁.trans hl₁ ho₂⟩

theorem discoverAll_obeys (e : Env τ ς) (user : User) (roots : List FolderId) (found : FolderSet) (w : World τ ς) :
    ∃ ds, w.Leads e ds (discoverAll e.transport user roots found w).2 ∧ Obeys e w ds := by
  induction roots generalizing found w with
  | nil => exact ⟨[], .refl, .nil⟩
  | cons root roots ih =>
    unfold discoverAll
    split
    · exact ⟨[], .refl, .nil⟩
    · rename_i hc
      have hl := discover_acts e user root w
      have ho : Obeys e w [.asked user (.find (.forRoot root)) (w.ask e.transport user (.find (.forRoot root))).1] :=
        .asked (by simpa using hc) _ _ _
      generalize discover e.transport root user w = r at hl
      obtain ⟨result, v⟩ := r
      rcases result with (failure | fault) | folders
      · exact ⟨_, hl.leads.note _, ho⟩
      · exact ⟨_, hl.leads, ho⟩
      · obtain ⟨ds', hl', ho'⟩ := ih (found.insertAll folders) v
        exact ⟨_, hl.leads.trans hl', ho.trans hl.leads ho'⟩

theorem Closes.obeys {rs : List (Except Fault FolderResult)} {result : Except Fault Report}
    (h : Closes e roots now user v rs ds result) : Obeys e w ds := by
  have hadvances : ∀ {r}, Advances e user now v ds r → Obeys e w ds := by
    intro r ha
    cases ha with
    | saved _ _ _ => exact .idle rfl (by simp)
    | _ => exact .nil
  cases h with
  | fault _ => exact .nil
  | failed _ _ => exact .nil
  | stuck _ _ ha => exact hadvances ha
  | completed _ _ ha => exact hadvances ha

/-- **A run obeys**: whenever its cancel event gets set, it asks for nothing more. -/
theorem RunsLate.obeys {out : Except Fault Report × World τ ς} (h : RunsLate e roots now user w out) :
    ∃ ds, w.Leads e ds out.2 ∧ Obeys e w ds := by
  obtain ⟨ds₁, hl₁, ho₁⟩ := discoverAll_obeys e user roots [] w
  cases h with
  | undiscovered hd =>
    rw [hd] at hl₁
    exact ⟨ds₁, hl₁, ho₁⟩
  | broken hd =>
    rw [hd] at hl₁
    exact ⟨ds₁, hl₁, ho₁⟩
  | @ran folders w₁ w₂ b hd hs hi hlate =>
    rw [hd] at hl₁
    obtain ⟨ds₂, hl₂, ho₂⟩ := Backlog.steps_obeys hs
    have hnodup := FolderSet.nodup_of_sorted (discoverAll_sorted List.Pairwise.nil hd)
    have hbegun : w₁.Leads e [] w₁ := .refl
    obtain ⟨_, taken, hinv⟩ := (Backlog.Inv.ofFolders user e.config.maxFolderWorkers hbegun hnodup .nil).steps hs
    obtain ⟨ds₃, hc, hl₃⟩ := concludeRun_closes e roots now user (hinv.took_all hlate) folders.length w₂
    have hl₁₂ : w.Leads e (ds₁ ++ ds₂) w₂ := hl₁.trans hl₂
    exact ⟨_, hl₁₂.trans hl₃.leads, (ho₁.trans hl₁ ho₂).trans hl₁₂ hc.obeys⟩

end Runs

/-! ## Runs obey -/

section Calls

variable {roots : List FolderId} {now : Option Stamp} {users : List User} {cs : List (Call τ ς)}

theorem Call.obeys (c : Call τ ς) : Obeys c.env c.before (deeds c.events) := by
  obtain ⟨ds, hl, ho⟩ := c.runs.obeys
  have hds : deeds c.events = ds := hl.deeds_eventsSince
  rw [hds]
  exact ho

theorem Batch.obeys (h : Batch e roots now users w cs w') : Obeys e w (cs.flatMap fun c => deeds c.events) := by
  induction h with
  | done w => exact .nil
  | cancelled hc => exact .nil
  | ran c he _ _ _ _ ih =>
    subst he
    rw [List.flatMap_cons]
    exact c.obeys.trans c.leads_noted ih

/-- What happens in a batch after its cancel event got set happens in its last run. -/
theorem Batch.last_run (h : Batch e roots now users w cs w')
    (hds : (cs.flatMap fun c => deeds c.events) = ds₁ ++ ds₂)
    (hset : SetBy e w ds₁) {d : Event} (hd : d ∈ ds₂) : ∃ c, cs.getLast? = some c ∧ d ∈ c.events := by
  induction h generalizing ds₁ ds₂ with
  | done w =>
    obtain ⟨-, rfl⟩ := List.append_eq_nil_iff.mp hds.symm
    cases hd
  | cancelled hc =>
    obtain ⟨-, rfl⟩ := List.append_eq_nil_iff.mp hds.symm
    cases hd
  | @ran _ _ cs c he _ _ _ hrest ih =>
    subst he
    rw [List.flatMap_cons] at hds
    rcases List.append_eq_append_iff.mp hds with ⟨mid, rfl, hrest'⟩ | ⟨mid, hmid, rfl⟩
    · obtain ⟨c', hlast, hmem⟩ := ih hrest' (hset.of_append c.leads_noted) hd
      exact ⟨c', by simp [List.getLast?_cons, hlast], hmem⟩
    · -- the event is set when this run is over, so no other follows
      obtain ⟨v, hl₁, hl₂⟩ := World.Leads.split (hmid ▸ c.leads_noted)
      have hc : c.noted.cancelled = true := hl₂.cancelled (hl₁.cancelled_of_setBy hset)
      obtain rfl : cs = [] := by
        generalize c.noted = v' at hrest hc
        cases hrest with
        | done _ => rfl
        | cancelled _ => rfl
        | ran _ _ _ _ hcalm _ =>
          rw [hcalm] at hc
          cases hc
      have hmem : d ∈ deeds c.events := by
        rw [hmid]
        simpa using List.mem_append_right ds₁ hd
      exact ⟨c, rfl, List.mem_of_mem_filter hmem⟩

/-- A run writes no watermark but its user's, and that only if it found its folders and finished all of them. -/
theorem Call.finishes_of_watermark (c : Call τ ς) {user : User} {i : Instant}
    (h : .savedWatermark user i ∈ c.events) :
    c.user = user ∧ ∃ folders, c.found = .ok folders ∧ ∀ f ∈ folders, Finishes c.env c.user c.events f := by
  obtain ⟨ds, hl, hcases⟩ := c.runs.cases
  have hmem : (user, i) ∈ savedWatermarks ds := by
    rw [← hl.savedWatermarks_eventsSince]
    exact List.mem_filterMap.mpr ⟨_, h, rfl⟩
  rcases hcases with ⟨trouble, -, hq, -⟩ | ⟨folders, ends, hd, hran⟩
  · rw [hq.savedWatermarks] at hmem
    cases hmem
  · have hall := hran.all_finish_iff
    obtain ⟨w₂, ds₂, ds₃, -, hm, hc, rfl⟩ := hran.closes
    rw [savedWatermarks_append, hm, List.nil_append] at hmem
    suffices hended : c.user = user ∧ ∀ r ∈ ends.map (·.2), ∃ result, r = .ok result ∧ result.ok = true by
      refine ⟨hended.1, folders, hd, fun f hf => ?_⟩
      exact (finishes_eventsSince hl f).mpr (hall.mpr hended.2 f hf)
    generalize c.result = result at hc
    cases hc with
    | fault _ => cases hmem
    | failed _ _ => cases hmem
    | stuck _ _ ha => cases ha <;> cases hmem
    | completed hrs hok ha =>
      cases ha with
      | saved _ _ _ =>
        obtain ⟨rfl, -⟩ := Prod.mk.inj (List.mem_singleton.mp hmem)
        exact ⟨rfl, by rw [hrs]; simpa using hok⟩

end Calls

end Moments

end MailboxSync
