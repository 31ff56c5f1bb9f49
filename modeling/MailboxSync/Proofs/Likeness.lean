import MailboxSync.Proofs.Pool
import MailboxSync.Proofs.Requests
import MailboxSync.Proofs.Trimming
import MailboxSync.Sync.Worker

/-!
# Runs that cannot be told apart

Two environments, each with a service and stores of its own.  If every request and every access to the stores comes to
the same on both sides, so does everything the engine does.

* `Likeness` — which states belong together, and which users, folders and tokens this is asked of;
* `Likeness.Transports`, `Likeness.Accesses`, `Likeness.Envs` — what transports, stores and environments have to do;
* `Likeness.Worlds` — worlds that belong together: their states do, and so do their deeds, not their notes;
* `Likeness.Same` — equal results in worlds that belong together.

One lemma for each function of the engine says that it comes to the same on both sides, up to `syncUsers` and
`Worker.poll`.
-/

namespace MailboxSync

open Journal

/-- How two environments are compared. -/
structure Likeness (τ τ' ς ς' : Type) where
  user : User → Prop := fun _ => True
  folder : FolderId → Prop := fun _ => True
  /-- The folders whose listings are compared. -/
  root : FolderId → Prop := folder
  token : Token → Prop := fun _ => True
  /-- What of a reply is compared; at least all that is read from it. -/
  view : Reply.Outcome → Reply.Outcome := id
  /-- The deeds that are compared. -/
  shows : Event → Bool := fun _ => true
  /-- Whether callers may have a cancel event. -/
  heeds : Bool := true
  remote : τ → τ' → Prop
  stores : ς → ς' → Prop
  view_trimmed : ∀ o o', view o = view o' → o.trimmed = o'.trimmed

/-- An event with what is compared of its reply. -/
def Event.viewed (view : Reply.Outcome → Reply.Outcome) : Event → Event
  | asked user request outcome => asked user request (view outcome)
  | ev => ev

@[simp] theorem Event.viewed_id (ev : Event) : ev.viewed id = ev := by cases ev <;> rfl

theorem Journal.requests_viewed (view : Reply.Outcome → Reply.Outcome) (es : List Event) :
    requests (es.map (Event.viewed view)) = requests es := by
  simp only [requests, List.filterMap_map]
  refine congrArg (es.filterMap ·) (funext fun ev => ?_)
  cases ev <;> rfl

/-- Accesses that come to the same: one fault, or values that belong together, whatever the notes. -/
inductive Agree {α β : Type} (P : α → β → Prop) :
    Except Fault (α × List Note) → Except Fault (β × List Note) → Prop
  | refused (fault : Fault) : Agree P (.error fault) (.error fault)
  | done {a : α} {b : β} (h : P a b) (notes notes' : List Note) : Agree P (.ok (a, notes)) (.ok (b, notes'))

theorem Agree.cases {α β : Type} {P : α → β → Prop} {x : Except Fault (α × List Note)}
    {x' : Except Fault (β × List Note)} (h : Agree P x x') : (∃ fault, x = .error fault ∧ x' = .error fault) ∨
      ∃ a b notes notes', x = .ok (a, notes) ∧ x' = .ok (b, notes') ∧ P a b := by
  cases h with
  | refused fault => exact .inl ⟨fault, rfl, rfl⟩
  | done h notes notes' => exact .inr ⟨_, _, notes, notes', rfl, rfl, h⟩

theorem Agree.of_refl {α : Type} {P : α → α → Prop} (hP : ∀ a, P a a) (x : Except Fault (α × List Note)) :
    Agree P x x := by
  cases x with
  | error fault => exact .refused fault
  | ok r => exact .done (hP r.1) r.2 r.2

namespace Likeness

variable {τ τ' ς ς' : Type}

/-- The requests of runs. -/
inductive Asks (R : Likeness τ τ' ς ς') : User → Request → Prop
  | find {user : User} {root : FolderId} (hu : R.user user) (hr : R.root root) : Asks R user (.find (.forRoot root))
  | sync {user : User} {folder : FolderId} {token : Token} (hu : R.user user) (hf : R.folder folder)
    (ht : R.token token) (size : Int) : Asks R user (.sync (.forPage folder token size))

/-- Callers that cancel alike, if they may cancel at all. -/
def Cancels (R : Likeness τ τ' ς ς') (cancel cancel' : Option Bool) : Prop :=
  match R.heeds with
  | true => cancel' = cancel
  | false => cancel = none ∧ cancel' = none

theorem Cancels.eq {R : Likeness τ τ' ς ς'} {cancel cancel' : Option Bool} (h : R.Cancels cancel cancel') :
    cancel' = cancel := by
  unfold Cancels at h
  split at h
  · exact h
  · rw [h.1, h.2]

theorem Cancels.trip {R : Likeness τ τ' ς ς'} {cancel cancel' : Option Bool} {sets sets' : Bool}
    (h : R.Cancels cancel cancel') (hsets : R.heeds = true → sets = sets') :
    R.Cancels (if sets then cancel.map fun _ => true else cancel)
      (if sets' then cancel'.map fun _ => true else cancel') := by
  unfold Cancels at h ⊢
  split at h
  · rename_i hheeds
    rw [hsets hheeds, h]
  · simp [h.1, h.2]

/-- The folders and tokens in a reply may be asked about. -/
def Tells (R : Likeness τ τ' ς ς') : Reply.Outcome → Prop
  | .ok (some (.found ms)) => ∀ m ∈ ms, ∀ folder ∈ m.folders.getD [], R.folder folder
  | .ok (some (.synced ms)) => ∀ m ∈ ms, ∀ token, m.token = some token → R.token token
  | _ => True

theorem tells_of_all {R : Likeness τ τ' ς ς'} (hfolder : ∀ folder, R.folder folder)
    (htoken : ∀ token, R.token token) (o : Reply.Outcome) : R.Tells o := by
  rcases o with _ | _ | ms | ms
  · trivial
  · trivial
  · exact fun _ _ folder _ => hfolder folder
  · exact fun _ _ token _ => htoken token

/-- Transports whose replies are alike. -/
structure Transports (R : Likeness τ τ' ς ς') (t : Transport τ) (t' : Transport τ') : Prop where
  view : ∀ {s s' user request}, R.remote s s' → R.Asks user request →
    R.view (t.send s user request).1.outcome = R.view (t'.send s' user request).1.outcome
  tells : ∀ {s s' user request}, R.remote s s' → R.Asks user request → R.Tells (t.send s user request).1.outcome
  cancels : ∀ {s s' user request}, R.remote s s' → R.Asks user request → R.heeds = true →
    (t.send s user request).1.cancels = (t'.send s' user request).1.cancels
  remote : ∀ {s s' user request}, R.remote s s' → R.Asks user request →
    R.remote (t.send s user request).2 (t'.send s' user request).2

/-- Stores whose accesses come to the same. -/
structure Accesses (R : Likeness τ τ' ς ς') (a : Stores ς) (a' : Stores ς') : Prop where
  token : ∀ {s s' user folder}, R.stores s s' → R.user user → R.folder folder →
    Agree (fun token token' => token = token' ∧ R.token token) (a.token s user folder) (a'.token s' user folder)
  saveToken : ∀ {s s' user folder token}, R.stores s s' → R.user user → R.folder folder → R.token token →
    Agree R.stores (a.saveToken s user folder token) (a'.saveToken s' user folder token)
  watermark :
    ∀ {s s' user}, R.stores s s' → R.user user → Agree (· = ·) (a.watermark s user) (a'.watermark s' user)
  saveWatermark : ∀ {s s' user} stamp, R.stores s s' → R.user user →
    Agree R.stores (a.saveWatermark s user stamp) (a'.saveWatermark s' user stamp)

/-- Environments that are alike. -/
structure Envs (R : Likeness τ τ' ς ς') (e : Env τ ς) (e' : Env τ' ς') : Prop where
  transport : R.Transports e.transport e'.transport
  stores : R.Accesses e.stores e'.stores
  config : e'.config = e.config
  clock : e'.clock = e.clock

/-- What is compared of a journal. -/
def shown (R : Likeness τ τ' ς ς') (es : List Event) : List Event :=
  ((deeds es).map (Event.viewed R.view)).filter R.shows

theorem shown_append (R : Likeness τ τ' ς ς') (es es' : List Event) :
    R.shown (es ++ es') = R.shown es ++ R.shown es' := by
  simp [shown]

theorem shown_of_view (R : Likeness τ τ' ς ς') (hview : R.view = id) (es : List Event) :
    R.shown es = (deeds es).filter R.shows := by
  have hid : Event.viewed id = id := funext Event.viewed_id
  rw [shown, hview, hid, List.map_id]

/-- Worlds that belong together. -/
structure Worlds (R : Likeness τ τ' ς ς') (w : World τ ς) (w' : World τ' ς') : Prop where
  remote : R.remote w.remote w'.remote
  stores : R.stores w.stores w'.stores
  cancels : R.Cancels w.cancel w'.cancel
  seen : R.shown w'.events = R.shown w.events

/-- One value, of which `P` is true, in worlds that belong together. -/
inductive Same (R : Likeness τ τ' ς ς') {α : Type} (P : α → Prop) :
    α × World τ ς → α × World τ' ς' → Prop
  | intro {a : α} {w : World τ ς} {w' : World τ' ς'} (fine : P a) (worlds : R.Worlds w w') :
      Same R P (a, w) (a, w')

variable {R : Likeness τ τ' ς ς'} {e : Env τ ς} {e' : Env τ' ς'} {t : Transport τ} {t' : Transport τ'}
  {w : World τ ς} {w' : World τ' ς'} {user : User}

/-! ## Worlds -/

namespace Worlds

theorem deeds (h : R.Worlds w w') (hshows : R.shows = fun _ => true := by rfl) :
    (Journal.deeds w'.events).map (Event.viewed R.view) = (Journal.deeds w.events).map (Event.viewed R.view) := by
  simpa [shown, hshows] using h.seen

theorem cancel (h : R.Worlds w w') : w'.cancel = w.cancel := h.cancels.eq

theorem cancelled (h : R.Worlds w w') : w'.cancelled = w.cancelled := by simp [World.cancelled, h.cancel]

theorem noteAll (h : R.Worlds w w') (notes notes' : List Note) : R.Worlds (w.noteAll notes) (w'.noteAll notes') where
  remote := by simpa using h.remote
  stores := by simpa using h.stores
  cancels := by simpa using h.cancels
  seen := by simpa [shown] using h.seen

theorem note (h : R.Worlds w w') (level level' : Level) (text text' : String) :
    R.Worlds (w.note level text) (w'.note level' text') :=
  h.noteAll [⟨level, text⟩] [⟨level', text'⟩]

theorem withCancel (h : R.Worlds w w') (hheeds : R.heeds = true) (cancel : Option Bool) :
    R.Worlds { w with cancel } { w' with cancel } :=
  ⟨h.remote, h.stores, by simp [Cancels, hheeds], h.seen⟩

theorem record (h : R.Worlds w w') (ev ev' : Event)
    (hev : R.shown [ev'] = R.shown [ev]) : R.Worlds (w.record ev) (w'.record ev') where
  remote := h.remote
  stores := h.stores
  cancels := h.cancels
  seen := by simp only [World.record_events, shown_append, h.seen, hev]

theorem trip (h : R.Worlds w w') {sets sets' : Bool} (hsets : R.heeds = true → sets = sets') :
    R.Worlds (if sets then w.trip else w) (if sets' then w'.trip else w') := by
  have hcancels := h.cancels.trip hsets
  cases sets <;> cases sets' <;> exact ⟨h.remote, h.stores, hcancels, h.seen⟩

theorem withRemote (h : R.Worlds w w') {s : τ} {s' : τ'} (hs : R.remote s s') :
    R.Worlds { w with remote := s } { w' with remote := s' } :=
  ⟨hs, h.stores, h.cancels, h.seen⟩

theorem withStores (h : R.Worlds w w') {s : ς} {s' : ς'} (hs : R.stores s s') :
    R.Worlds { w with stores := s } { w' with stores := s' } :=
  ⟨h.remote, hs, h.cancels, h.seen⟩

theorem ask (h : R.Worlds w w') (ht : R.Transports t t') {request : Request} (hr : R.Asks user request) :
    R.Worlds (w.ask t user request).2 (w'.ask t' user request).2 := by
  have hrecord := (h.withRemote (ht.remote h.remote hr)).record
    (.asked user request (t.send w.remote user request).1.outcome)
    (.asked user request (t'.send w'.remote user request).1.outcome)
    (by simp [shown, Journal.deeds, Event.isNote, Event.viewed, ht.view h.remote hr])
  exact (hrecord.trip (ht.cancels h.remote hr)).noteAll _ _

end Worlds

/-! ## Results -/

namespace Same

variable {α : Type} {P : α → Prop} {x : α × World τ ς} {x' : α × World τ' ς'}

theorem elim (h : R.Same P x x') : ∃ a w w', x = (a, w) ∧ x' = (a, w') ∧ P a ∧ R.Worlds w w' := by
  cases h with
  | intro fine worlds => exact ⟨_, _, _, rfl, rfl, fine, worlds⟩

theorem value (h : R.Same P x x') : x'.1 = x.1 := by cases h; rfl

end Same

/-! ## Accesses to the stores -/

section Stores

variable {a : Stores ς} {a' : Stores ς'} {folder : FolderId}

theorem readToken (ha : R.Accesses a a') (hu : R.user user) (hf : R.folder folder) (hw : R.Worlds w w') :
    R.Same (fun r => ∀ token, r = .ok token → R.token token) (w.readToken a user folder)
      (w'.readToken a' user folder) := by
  unfold World.readToken
  obtain ⟨fault, hx, hx'⟩ | ⟨token, token', notes, notes', hx, hx', rfl, hfine⟩ :=
    (ha.token hw.stores hu hf).cases
  · rw [hx, hx']
    exact .intro (by simp) hw
  · rw [hx, hx']
    exact .intro (by simpa using hfine) (hw.noteAll _ _)

theorem writeToken (ha : R.Accesses a a') (hu : R.user user) (hf : R.folder folder) {token : Token}
    (ht : R.token token) (hw : R.Worlds w w') :
    R.Same (fun _ => True) (w.writeToken a user folder token) (w'.writeToken a' user folder token) := by
  unfold World.writeToken
  obtain ⟨fault, hx, hx'⟩ | ⟨s, s', notes, notes', hx, hx', hs⟩ := (ha.saveToken hw.stores hu hf ht).cases
  · rw [hx, hx']
    exact .intro trivial hw
  · rw [hx, hx']
    exact .intro trivial (((hw.withStores hs).record _ _ rfl).noteAll _ _)

theorem readWatermark (ha : R.Accesses a a') (hu : R.user user) (hw : R.Worlds w w') :
    R.Same (fun _ => True) (w.readWatermark a user) (w'.readWatermark a' user) := by
  unfold World.readWatermark
  obtain ⟨fault, hx, hx'⟩ | ⟨i, i', notes, notes', hx, hx', rfl⟩ := (ha.watermark hw.stores hu).cases
  · rw [hx, hx']
    exact .intro trivial hw
  · rw [hx, hx']
    exact .intro trivial (hw.noteAll _ _)

theorem writeWatermark (ha : R.Accesses a a') (hu : R.user user) (instant : Instant) (hw : R.Worlds w w') :
    R.Same (fun _ => True) (w.writeWatermark a user instant) (w'.writeWatermark a' user instant) := by
  unfold World.writeWatermark
  have hsave := (ha.saveWatermark (.ofInstant instant) hw.stores hu).cases
  obtain ⟨fault, hx, hx'⟩ | ⟨s, s', notes, notes', hx, hx', hs⟩ := hsave
  · rw [hx, hx']
    exact .intro trivial hw
  · rw [hx, hx']
    exact .intro trivial (((hw.withStores hs).record _ _ rfl).noteAll _ _)

end Stores

/-! ## Requests -/

section Requests

variable {root folder : FolderId} {token : Token}

theorem Tells.folderSet {o : Reply.Outcome} (h : R.Tells o) {folders : FolderSet}
    (ho : FolderSet.read o = .ok folders) :
    ∀ folder ∈ folders, R.folder folder := by
  intro folder hf
  rcases o with _ | _ | ms | ms
  · cases ho
  · cases ho
  · unfold FolderSet.read at ho
    simp only at ho
    split at ho <;> cases ho
    obtain ⟨hmem, -⟩ := List.mem_filter.mp (FolderSet.mem_ofList.mp hf)
    obtain ⟨m, hm, hmem⟩ := List.mem_flatMap.mp hmem
    exact h m hm folder hmem
  · cases ho

theorem lastToken_fine {asked : Token} (ha : R.token asked) {ms : List SyncMessage}
    (h : ∀ m ∈ ms, ∀ token, m.token = some token → R.token token) :
    R.token (SyncMessage.lastToken asked ms) := by
  unfold SyncMessage.lastToken
  induction ms generalizing asked with
  | nil => exact ha
  | cons m ms ih =>
    rw [List.foldl_cons]
    refine ih ?_ fun m' hm' => h m' (List.mem_cons_of_mem _ hm')
    cases hm : m.token with
    | none => exact ha
    | some token => exact h m List.mem_cons_self token hm

theorem Tells.page {o : Reply.Outcome} (h : R.Tells o) (ht : R.token token) {page : Page}
    (ho : Page.read token o = .ok page) : R.token page.token := by
  rcases o with _ | _ | ms | ms
  · cases ho
  · cases ho
  · cases ho
  · unfold Page.read at ho
    simp only at ho
    split at ho <;> cases ho
    exact lastToken_fine ht h

theorem discover (ht : R.Transports t t') (hu : R.user user) (hr : R.root root) (hw : R.Worlds w w') :
    R.Same (fun r => ∀ folders, r = .ok folders → ∀ folder ∈ folders, R.folder folder)
      (MailboxSync.discover t root user w) (MailboxSync.discover t' root user w') := by
  have hasks : R.Asks user (.find (.forRoot root)) := .find hu hr
  obtain ⟨notes, heq⟩ := discover_eq t root user w
  obtain ⟨notes', heq'⟩ := discover_eq t' root user w'
  have hread : FolderSet.read (w'.ask t' user (.find (.forRoot root))).1 =
      FolderSet.read (w.ask t user (.find (.forRoot root))).1 :=
    FolderSet.read_congr (R.view_trimmed _ _ (ht.view hw.remote hasks).symm)
  rw [heq, heq', hread]
  exact .intro (fun folders h => (ht.tells hw.remote hasks).folderSet h) ((hw.ask ht hasks).noteAll _ _)

theorem requestPage (ht : R.Transports t t') (hu : R.user user) (hf : R.folder folder) (htoken : R.token token)
    (size : Int) (hw : R.Worlds w w') :
    R.Same (fun r => ∀ page, r = .ok page → R.token page.token)
      (MailboxSync.requestPage t folder user token size w) (MailboxSync.requestPage t' folder user token size w') := by
  have hasks : R.Asks user (.sync (.forPage folder token size)) := .sync hu hf htoken size
  obtain ⟨notes, heq⟩ := requestPage_eq t folder user token size w
  obtain ⟨notes', heq'⟩ := requestPage_eq t' folder user token size w'
  have hread : Page.read token (w'.ask t' user (.sync (.forPage folder token size))).1 =
      Page.read token (w.ask t user (.sync (.forPage folder token size))).1 :=
    Page.read_congr token (R.view_trimmed _ _ (ht.view hw.remote hasks).symm)
  rw [heq, heq', hread]
  exact .intro (fun page h => (ht.tells hw.remote hasks).page htoken h) ((hw.ask ht hasks).noteAll _ _)

end Requests

/-! ## Folders -/

section Folders

/-- A folder that may be asked about, with such a token. -/
def Pages (R : Likeness τ τ' ς ς') (p : Paging) : Prop := R.folder p.folder ∧ R.token p.token

theorem announce (p : Paging) (hw : R.Worlds w w') : R.Worlds (p.announce w) (p.announce w') := by
  unfold Paging.announce
  split
  · exact hw
  · exact hw.note _ _ _ _

theorem turn (ht : R.Transports t t') (hu : R.user user) (size : Int) {p : Paging} (hp : R.Pages p)
    (hw : R.Worlds w w') :
    R.Same (fun r => ∀ q last, r = .ok (q, last) → R.Pages q) (p.turn t user size w) (p.turn t' user size w') := by
  have hannounced := announce p hw
  obtain ⟨result, w₁, w₁', hx, hx', hpage, hw₁⟩ := (requestPage ht hu hp.1 hp.2 size hannounced).elim
  unfold Paging.turn
  dsimp only
  rw [hannounced.cancelled, hx, hx']
  split
  · exact .intro (by simp) hannounced
  · cases result with
    | error trouble => exact .intro (by simp) hw₁
    | ok page =>
      refine .intro ?_ ?_
      · rintro q last h
        cases h
        exact ⟨hp.1, hpage page rfl⟩
      · split
        · exact announce _ hw₁
        · exact hw₁

/-- A folder that goes on may go on being asked about. -/
def Moves (R : Likeness τ τ' ς ς') (move : Move) : Prop := ∀ task ∈ move.tasks, R.Pages task.paging

theorem Moves.going {task : Task} (h : R.Pages task.paging) : R.Moves (.going task) := by
  simpa [Moves, Move.tasks] using h

theorem Moves.ended (result : Except Fault FolderResult) : R.Moves (.ended result) := by simp [Moves, Move.tasks]

theorem finish (he : R.Envs e e') (hu : R.user user) {p : Paging} (hp : R.Pages p) (hw : R.Worlds w w') :
    R.Same (fun _ => True) (Task.finish e user p w) (Task.finish e' user p w') := by
  obtain ⟨result, w₁, w₁', hx, hx', -, hw₁⟩ := (writeToken he.stores hu hp.1 hp.2 hw).elim
  unfold Task.finish
  rw [hx, hx']
  cases result with
  | error fault => exact .intro trivial hw₁
  | ok _ => exact .intro trivial (hw₁.note _ _ _ _)

theorem fail (user : User) (folder : FolderId) (stored : Token) (failure : Failure) (hw : R.Worlds w w') :
    R.Same (fun _ => True) (Task.fail user folder stored failure w) (Task.fail user folder stored failure w') := by
  refine .intro trivial ?_
  split <;> exact hw.note _ _ _ _

theorem step (he : R.Envs e e') (hu : R.user user) {task : Task} (ht : R.Pages task.paging) (hw : R.Worlds w w') :
    R.Same R.Moves (Task.step e user task w) (Task.step e' user task w') := by
  obtain ⟨result, w₁, w₁', hx, hx', hpaged, hw₁⟩ := (turn he.transport hu e.config.idPageSize ht hw).elim
  unfold Task.step
  rw [he.config, hx, hx']
  rcases result with (failure | fault) | ⟨p, _ | _⟩
  · obtain ⟨result, w₂, w₂', hx, hx', -, hw₂⟩ :=
      (fail user task.paging.folder task.stored failure hw₁).elim
    dsimp only
    rw [hx, hx']
    exact .intro (.ended _) hw₂
  · exact .intro (.ended _) hw₁
  · exact .intro (.going (hpaged p false rfl)) hw₁
  · obtain ⟨result, w₂, w₂', hx, hx', -, hw₂⟩ := (finish he hu (hpaged p true rfl) hw₁).elim
    dsimp only
    rw [hx, hx']
    exact .intro (.ended _) hw₂

theorem start (he : R.Envs e e') (hu : R.user user) (stopped : Bool) {folder : FolderId} (hf : R.folder folder)
    (hw : R.Worlds w w') :
    R.Same R.Moves (Task.start e user stopped folder w) (Task.start e' user stopped folder w') := by
  obtain ⟨result, w₁, w₁', hx, hx', hstored, hw₁⟩ := (readToken he.stores hu hf hw).elim
  unfold Task.start
  rw [hx, hx']
  cases result with
  | error fault => exact .intro (.ended _) hw₁
  | ok stored =>
    dsimp only
    rw [hw₁.cancelled]
    split
    · exact .intro (.ended _) (hw₁.note _ _ _ _)
    · exact step he hu ⟨hf, hstored stored rfl⟩ hw₁

end Folders

/-! ## The pool -/

section Pools

/-- A pool whose folders may be asked about. -/
structure Holds (R : Likeness τ τ' ς ς') (p : Pool) : Prop where
  queue : ∀ folder ∈ p.queue, R.folder folder
  slots : ∀ task, some task ∈ p.slots → R.Pages task.paging

theorem Holds.ofFolders (workers : Nat) {folders : FolderSet} (h : ∀ folder ∈ folders, R.folder folder) :
    R.Holds (.ofFolders workers folders) where
  queue := h
  slots task ht := by simp [Pool.ofFolders] at ht

theorem Holds.settle {p : Pool} (h : R.Holds p) (i : Nat) {move : Move} (hm : R.Moves move) :
    R.Holds (p.settle i move) where
  queue := by simpa using h.queue
  slots task ht := by
    cases move with
    | going next =>
      rcases List.mem_or_eq_of_mem_set ht with ht | heq
      · exact h.slots task ht
      · cases heq
        exact hm task (by simp [Move.tasks])
    | ended result =>
      rw [Pool.settle, Pool.slots_take] at ht
      rcases List.mem_or_eq_of_mem_set ht with ht | heq
      · exact h.slots task ht
      · cases heq

theorem visit (he : R.Envs e e') (hu : R.user user) (i : Nat) {s : Pool × World τ ς} {s' : Pool × World τ' ς'}
    (hs : R.Same R.Holds s s') : R.Same R.Holds (Pool.visit e user i s) (Pool.visit e' user i s') := by
  obtain ⟨p, w, w', rfl, rfl, hp, hw⟩ := hs.elim
  rcases hslot : p.slots[i]? with _ | _ | task
  · rw [Pool.visit_absent hslot, Pool.visit_absent hslot]
    exact .intro hp hw
  · cases hq : p.queue with
    | nil =>
      rw [Pool.visit_empty hslot hq, Pool.visit_empty hslot hq]
      exact .intro hp hw
    | cons folder queue =>
      have hqueue := hp.queue
      rw [hq] at hqueue
      have hrest : R.Holds { p with queue } := ⟨fun f hf => hqueue f (List.mem_cons_of_mem _ hf), hp.slots⟩
      have hstart := start he hu p.stopped (hqueue folder List.mem_cons_self) hw
      obtain ⟨move, w₁, w₁', hx, hx', hm, hw₁⟩ := hstart.elim
      rw [Pool.visit_start hslot hq, Pool.visit_start hslot hq, hx, hx']
      exact .intro (hrest.settle i hm) hw₁
  · have hstep := step he hu (hp.slots task (List.mem_of_getElem? hslot)) hw
    obtain ⟨move, w₁, w₁', hx, hx', hm, hw₁⟩ := hstep.elim
    rw [Pool.visit_task hslot, Pool.visit_task hslot, hx, hx']
    exact .intro (hp.settle i hm) hw₁

theorem follow (he : R.Envs e e') (hu : R.user user) (schedule : List Nat) {s : Pool × World τ ς}
    {s' : Pool × World τ' ς'} (hs : R.Same R.Holds s s') :
    R.Same R.Holds (Pool.follow e user schedule s) (Pool.follow e' user schedule s') := by
  induction schedule generalizing s s' with
  | nil => exact hs
  | cons i schedule ih => exact ih (visit he hu i hs)

theorem drive (he : R.Envs e e') (hu : R.user user) (fuel : Nat) {s : Pool × World τ ς} {s' : Pool × World τ' ς'}
    (hs : R.Same R.Holds s s') :
    Option.Rel (R.Same R.Holds) (Pool.drive e user fuel s) (Pool.drive e' user fuel s') := by
  induction fuel generalizing s s' with
  | zero =>
    unfold Pool.drive
    rw [hs.value]
    split
    · exact .some hs
    · exact .none
  | succ fuel ih =>
    unfold Pool.drive
    rw [hs.value]
    split
    · exact .some hs
    · unfold Pool.round
      rw [hs.value]
      exact ih (follow he hu _ hs)

end Pools

/-! ## Runs -/

section Runs

variable {roots : List FolderId}

theorem discoverAll (ht : R.Transports t t') (hu : R.user user) (hr : ∀ root ∈ roots, R.root root)
    {found : FolderSet} (hfound : ∀ folder ∈ found, R.folder folder) (hw : R.Worlds w w') :
    R.Same (fun r => ∀ folders, r = .ok folders → ∀ folder ∈ folders, R.folder folder)
      (MailboxSync.discoverAll t user roots found w) (MailboxSync.discoverAll t' user roots found w') := by
  induction roots generalizing found w w' with
  | nil =>
    refine .intro ?_ hw
    rintro folders h
    cases h
    exact hfound
  | cons root roots ih =>
    have hdiscover := discover ht hu (hr root List.mem_cons_self) hw
    obtain ⟨result, w₁, w₁', hx, hx', hfolders, hw₁⟩ := hdiscover.elim
    unfold MailboxSync.discoverAll
    rw [hw.cancelled, hx, hx']
    split
    · exact .intro (by simp) hw
    · rcases result with (failure | fault) | folders
      · exact .intro (by simp) (hw₁.note _ _ _ _)
      · exact .intro (by simp) hw₁
      · refine ih (fun root' h => hr root' (List.mem_cons_of_mem _ h)) (fun folder hf => ?_) hw₁
        rcases FolderSet.mem_insertAll.mp hf with hf | hf
        · exact hfolders folders rfl folder hf
        · exact hfound folder hf

theorem advanceWatermark (he : R.Envs e e') (hu : R.user user) (now : Option Stamp) (hw : R.Worlds w w') :
    R.Same (fun _ => True) (MailboxSync.advanceWatermark e user now w)
      (MailboxSync.advanceWatermark e' user now w') := by
  have hstamp : e'.stampOf now = e.stampOf now := by simp [Env.stampOf, he.clock]
  unfold MailboxSync.advanceWatermark
  rw [hstamp]
  cases e.stampOf now with
  | error fault => exact .intro trivial hw
  | ok stamp =>
    obtain ⟨result, w₁, w₁', hx, hx', -, hw₁⟩ := (readWatermark he.stores hu hw).elim
    dsimp only
    rw [hx, hx']
    cases result with
    | error fault => exact .intro trivial hw₁
    | ok previous =>
      let kept := s!"Watermark for {user} already at {Iso.ofInstant previous}, keeping it"
      by_cases hlt : stamp < previous
      · have hwrite := writeWatermark he.stores hu previous (hw₁.note .debug .debug kept kept)
        obtain ⟨result, w₂, w₂', hx, hx', -, hw₂⟩ := hwrite.elim
        simp only [if_pos hlt]
        rw [hx, hx']
        cases result <;> exact .intro trivial hw₂
      · obtain ⟨result, w₂, w₂', hx, hx', -, hw₂⟩ := (writeWatermark he.stores hu stamp hw₁).elim
        simp only [if_neg hlt]
        rw [hx, hx']
        cases result <;> exact .intro trivial hw₂

theorem concludeRun (he : R.Envs e e') {report : Report} (hu : R.user report.user) (folders : Nat) (now : Option Stamp)
    (pool : Pool) (hw : R.Worlds w w') :
    R.Same (fun _ => True) (MailboxSync.concludeRun e report folders now pool w)
      (MailboxSync.concludeRun e' report folders now pool w') := by
  unfold MailboxSync.concludeRun
  cases pool.fault with
  | some fault => exact .intro trivial hw
  | none =>
    cases pool.cause with
    | some failure => exact .intro trivial (hw.note _ _ _ _)
    | none =>
      obtain ⟨result, w₁, w₁', hx, hx', -, hw₁⟩ := (advanceWatermark he hu now hw).elim
      dsimp only
      rw [hx, hx']
      cases result with
      | error fault => exact .intro trivial hw₁
      | ok stamp => exact .intro trivial (hw₁.note _ _ _ _)

theorem syncUser (he : R.Envs e e') (fuel : Nat) (hu : R.user user) (hr : ∀ root ∈ roots, R.root root)
    (now : Option Stamp) (hw : R.Worlds w w') :
    Option.Rel (R.Same fun _ => True) (MailboxSync.syncUser e fuel roots now user w)
      (MailboxSync.syncUser e' fuel roots now user w') := by
  have hdiscover := discoverAll he.transport hu hr (List.forall_mem_nil _) hw
  obtain ⟨result, w₁, w₁', hx, hx', hfolders, hw₁⟩ := hdiscover.elim
  unfold MailboxSync.syncUser
  dsimp only
  rw [hx, hx']
  rcases result with (failure | fault) | folders
  · exact .some (.intro trivial hw₁)
  · exact .some (.intro trivial hw₁)
  · have hdrive := drive he hu fuel
      (.intro (Holds.ofFolders e.config.maxFolderWorkers (hfolders folders rfl)) hw₁)
    dsimp only
    rw [he.config]
    generalize Pool.drive e user fuel (.ofFolders e.config.maxFolderWorkers folders, w₁) = r at hdrive
    generalize Pool.drive e' user fuel (.ofFolders e.config.maxFolderWorkers folders, w₁') = r' at hdrive
    cases hdrive with
    | none => exact .none
    | some h =>
      obtain ⟨pool, w₂, w₂', rfl, rfl, -, hw₂⟩ := h.elim
      exact .some (concludeRun he hu _ now pool hw₂)

/-- **Users are synced alike on both sides: the same reports, and worlds that belong together.** -/
theorem syncUsers (he : R.Envs e e') (fuel : Nat) {users : List User} (hu : ∀ user ∈ users, R.user user)
    (hr : ∀ root ∈ roots, R.root root) (now : Option Stamp) (hw : R.Worlds w w') :
    Option.Rel (R.Same fun _ => True) (MailboxSync.syncUsers e fuel roots now users w)
      (MailboxSync.syncUsers e' fuel roots now users w') := by
  induction users generalizing w w' with
  | nil => exact .some (.intro trivial hw)
  | cons user users ih =>
    have hrest {v : World τ ς} {v' : World τ' ς'} (hv : R.Worlds v v') (report : Report) :
        Option.Rel (R.Same fun _ => True)
          ((MailboxSync.syncUsers e fuel roots now users v).map fun x => (report :: x.1, x.2))
          ((MailboxSync.syncUsers e' fuel roots now users v').map fun x => (report :: x.1, x.2)) := by
      have h := ih (fun u h => hu u (List.mem_cons_of_mem _ h)) hv
      generalize MailboxSync.syncUsers e fuel roots now users v = r at h
      generalize MailboxSync.syncUsers e' fuel roots now users v' = r' at h
      cases h with
      | none => exact .none
      | some h =>
        obtain ⟨reports, w₂, w₂', rfl, rfl, -, hw₂⟩ := h.elim
        exact .some (.intro trivial hw₂)
    unfold MailboxSync.syncUsers
    rw [hw.cancelled]
    split
    · exact .some (.intro trivial (hw.note _ _ _ _))
    · have huser := syncUser he fuel (hu user List.mem_cons_self) hr now hw
      generalize MailboxSync.syncUser e fuel roots now user w = r at huser
      generalize MailboxSync.syncUser e' fuel roots now user w' = r' at huser
      cases huser with
      | none => exact .none
      | some h =>
        obtain ⟨result, w₁, w₁', rfl, rfl, -, hw₁⟩ := h.elim
        cases result with
        | ok report => exact hrest hw₁ report
        | error fault => exact hrest (hw₁.note _ _ _ _) _

theorem recordAll (stats : Stats) (reports : List Report) (hw : R.Worlds w w') :
    R.Same (fun _ => True) (Worker.recordAll stats reports w) (Worker.recordAll stats reports w') := by
  induction reports generalizing stats w w' with
  | nil => exact .intro trivial hw
  | cons report reports ih =>
    unfold Worker.recordAll
    cases report.error with
    | none => exact ih _ hw
    | some failure => exact ih _ (hw.note _ _ _ _)

/-- Reports and the worker after a poll, in worlds that belong together. -/
def Polled (R : Likeness τ τ' ς ς') (x : List Report × Worker × World τ ς)
    (x' : List Report × Worker × World τ' ς') : Prop :=
  x'.1 = x.1 ∧ R.Same (fun _ => True) x.2 x'.2

/-- **A poll comes to the same on both sides.** -/
theorem poll (he : R.Envs e e') (fuel : Nat) (k : Worker) (hu : ∀ user ∈ k.users, R.user user)
    (hr : ∀ root ∈ k.roots, R.root root) (hw : R.Worlds w w') (hheeds : R.heeds = true := by rfl) :
    Option.Rel R.Polled (k.poll e fuel w) (k.poll e' fuel w') := by
  have hstarted := (hw.withCancel hheeds (some k.stopped)).note .info .info s!"Starting poll cycle #{k.stats.polls + 1}"
    s!"Starting poll cycle #{k.stats.polls + 1}"
  have hrun := syncUsers he fuel hu hr none hstarted
  unfold Worker.poll
  dsimp only
  generalize MailboxSync.syncUsers e fuel k.roots none k.users _ = r at hrun
  generalize MailboxSync.syncUsers e' fuel k.roots none k.users _ = r' at hrun
  cases hrun with
  | none => exact .none
  | some h =>
    obtain ⟨reports, w₁, w₁', rfl, rfl, -, hw₁⟩ := h.elim
    have hstats := recordAll { k.stats with polled := true } reports hw₁
    obtain ⟨stats, w₂, w₂', hx, hx', -, hw₂⟩ := hstats.elim
    refine .some ⟨rfl, ?_⟩
    dsimp only
    rw [hx, hx', hw₂.cancelled]
    exact .intro trivial (hw₂.note _ _ _ _)

end Runs

end Likeness

end MailboxSync
