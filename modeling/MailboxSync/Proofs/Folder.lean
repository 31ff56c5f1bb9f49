import MailboxSync.Proofs.Journal

/-!
# One folder of a run

* `Page.read` — the page a reply amounts to, apart from the notes written about it;
* `Paging.Reaches size p₀ xs p last` — paging that stands at `p₀` comes to `p` by the exchanges `xs`, every one of
  them a page that asks on with the token of the page before; `last` says whether the final page has come.  There is at
  most one such `p` (`Reaches.unique`), and its items are those of the replies (`Reaches.items_eq`);
* `Task.Moves`, `Task.Starts` — everything one turn of a folder, and its start, can do.
-/

namespace MailboxSync

/-- What the reply to a sync request that carried `asked` amounts to. -/
def Page.read (asked : Token) : Reply.Outcome → Except Trouble Page
  | .error trouble => .error trouble
  | .ok none => .error (.failure (.protocol .noSyncResponse none))
  | .ok (some (.found ms)) => .error (.failure (.protocol (.wrongKind .sync (Response.found ms).typeName) none))
  | .ok (some (.synced ms)) =>
    match SyncMessage.firstError ms with
    | some (code, _) => .error (.failure (.protocol .errorCode (some code)))
    | none => .ok (.ofMessages asked ms)

def newItems : Reply.Outcome → List ItemId
  | .ok (some (.synced ms)) => SyncMessage.newItems ms
  | _ => []

theorem Page.items_of_read {asked : Token} {o : Reply.Outcome} {page : Page} (h : Page.read asked o = .ok page) :
    page.items = newItems o := by
  unfold Page.read at h
  split at h <;> try cases h
  split at h <;> cases h
  rfl

theorem Page.read_ne_fault {asked : Token} {o : Reply.Outcome} (h : ∀ fault, o ≠ .error (.fault fault))
    (fault : Fault) : Page.read asked o ≠ .error (.fault fault) := by
  intro hread
  unfold Page.read at hread
  split at hread
  · rename_i trouble
    obtain rfl : trouble = .fault fault := Except.error.inj hread
    exact h fault rfl
  · cases hread
  · cases hread
  · split at hread <;> cases hread

/-! ## Paging along replies -/

namespace Paging

@[simp] theorem add_folder (p : Paging) (page : Page) : (p.add page).folder = p.folder := rfl
@[simp] theorem add_token (p : Paging) (page : Page) : (p.add page).token = page.token := rfl
@[simp] theorem add_items (p : Paging) (page : Page) : (p.add page).items = p.items ++ page.items := rfl
@[simp] theorem add_requests (p : Paging) (page : Page) : (p.add page).requests = p.requests + 1 := rfl

/-- Paging that stands at `p₀` comes to `p` by the exchanges `xs`; `last` says whether the final page has come. -/
inductive Reaches (size : Int) (p₀ : Paging) : List SyncExchange → Paging → Bool → Prop
  | start : Reaches size p₀ [] p₀ false
  | page {xs : List SyncExchange} {p : Paging} {o : Reply.Outcome} {page : Page} (h : Reaches size p₀ xs p false)
    (ho : Page.read p.token o = .ok page) :
    Reaches size p₀ (xs ++ [(.forPage p.folder p.token size, o)]) (p.add page) page.last

namespace Reaches

variable {size : Int} {p₀ p q : Paging} {xs : List SyncExchange} {b c : Bool}

theorem folder_eq (h : Reaches size p₀ xs p b) : p.folder = p₀.folder := by
  induction h with
  | start => rfl
  | page _ _ ih => exact ih

theorem requests_eq (h : Reaches size p₀ xs p b) : p.requests = p₀.requests + xs.length := by
  induction h with
  | start => rfl
  | page _ _ ih => simp [ih, Nat.add_assoc]

theorem items_eq (h : Reaches size p₀ xs p b) : p.items = p₀.items ++ xs.flatMap fun x => newItems x.2 := by
  induction h with
  | start => simp
  | page _ ho ih => simp [ih, Page.items_of_read ho]

theorem unique (h : Reaches size p₀ xs p b) (h' : Reaches size p₀ xs q c) : p = q ∧ b = c := by
  generalize hys : xs = ys at h'
  induction h generalizing q c ys with
  | start =>
    cases h' with
    | start => exact ⟨rfl, rfl⟩
    | page _ _ => simp at hys
  | page _ ho ih =>
    cases h' with
    | start => simp at hys
    | page h' ho' =>
      obtain ⟨rfl, hx⟩ := List.append_inj' hys rfl
      obtain ⟨rfl, -⟩ := ih _ rfl h'
      simp only [List.cons.injEq, Prod.mk.injEq, and_true, true_and] at hx
      subst hx
      rw [ho] at ho'
      cases ho'
      exact ⟨rfl, rfl⟩

end Reaches

end Paging

/-! ## One request -/

section Requests

variable {τ ς : Type}

/-- Requesting a page is one deed, whose outcome says what comes of it. -/
theorem requestPage_acts (e : Env τ ς) (user : User) (folder : FolderId) (token : Token) (size : Int)
    (w : World τ ς) :
    let o := (w.ask e.transport user (.sync (.forPage folder token size))).1
    (requestPage e.transport folder user token size w).1 = Page.read token o ∧
      w.Acts e [.asked user (.sync (.forPage folder token size)) o]
        (requestPage e.transport folder user token size w).2 ∧
      (requestPage e.transport folder user token size w).2.stores = w.stores := by
  intro o
  have hl := World.Acts.ask (.refl (w := w)) (e := e) user (.sync (.forPage folder token size))
  have hs := World.ask_stores e.transport user (.sync (.forPage folder token size)) w
  have ho : (w.ask e.transport user (.sync (.forPage folder token size))).1 = o := rfl
  clear_value o
  unfold requestPage
  generalize w.ask e.transport user (.sync (.forPage folder token size)) = r at hl hs ho
  obtain ⟨o', w'⟩ := r
  subst ho
  rcases o' with trouble | _ | ms | ms
  · exact ⟨rfl, hl, hs⟩
  · exact ⟨rfl, hl.note _, hs⟩
  · exact ⟨rfl, hl, hs⟩
  · simp only [Page.read]
    cases hf : SyncMessage.firstError ms with
    | some error => exact ⟨rfl, hl.note _, hs⟩
    | none =>
      refine ⟨rfl, ?_, ?_⟩
      · simp only
        split
        · exact hl.note _
        · exact hl
      · simp only
        split <;> exact hs

end Requests

/-! ## One turn of paging -/

namespace Paging

variable {τ ς : Type} {e : Env τ ς}

theorem announce_acts (p : Paging) (w : World τ ς) :
    w.Acts e [] (p.announce w) ∧ (p.announce w).stores = w.stores ∧ (p.announce w).remote = w.remote ∧
      (p.announce w).cancelled = w.cancelled := by
  unfold announce
  split
  · exact ⟨.refl, rfl, rfl, rfl⟩
  · exact ⟨World.Acts.refl.note _, rfl, rfl, rfl⟩

/-- A turn looks at the cancel event and, unless that is set, makes one request, whose outcome says what comes of it. -/
theorem turn_acts (e : Env τ ς) (user : User) (size : Int) (p : Paging) (w : World τ ς) :
    (p.turn e.transport user size w).2.stores = w.stores ∧
      ((w.cancelled = true ∧
          (p.turn e.transport user size w).1 = .error (.failure (.cancelled (.afterRequests p.folder p.requests))) ∧
          w.Acts e [] (p.turn e.transport user size w).2) ∨
        w.cancelled = false ∧ ∃ o,
          o = (e.transport.send w.remote user (.sync (.forPage p.folder p.token size))).1.outcome ∧
          (p.turn e.transport user size w).1 = (Page.read p.token o).map (fun page => (p.add page, page.last)) ∧
          w.Acts e [.asked user (.sync (.forPage p.folder p.token size)) o] (p.turn e.transport user size w).2) := by
  obtain ⟨ha, hst, hre, hca⟩ := announce_acts (e := e) p w
  unfold turn
  generalize p.announce w = w₁ at ha hst hre hca
  dsimp only
  cases hc : w.cancelled with
  | true =>
    rw [if_pos (by rw [hca, hc])]
    exact ⟨hst, .inl ⟨rfl, rfl, ha⟩⟩
  | false =>
    rw [if_neg (by rw [hca, hc]; simp)]
    obtain ⟨hr, hl, hs⟩ := requestPage_acts e user p.folder p.token size w₁
    rw [World.ask_fst, hre] at hr hl
    generalize (e.transport.send w.remote user (.sync (.forPage p.folder p.token size))).1.outcome = o at hr hl
    generalize requestPage e.transport p.folder user p.token size w₁ = r at hr hl hs
    obtain ⟨result, w₂⟩ := r
    obtain rfl : result = Page.read p.token o := hr
    have hs : w₂.stores = w.stores := hs.trans hst
    have hl : w.Acts e [.asked user (.sync (.forPage p.folder p.token size)) o] w₂ := ha.trans hl
    cases hread : Page.read p.token o with
    | error trouble => exact ⟨hs, .inr ⟨rfl, o, rfl, by rw [hread]; rfl, hl⟩⟩
    | ok page =>
      obtain ⟨ha', hst', -, -⟩ := announce_acts (e := e) (p.add page) w₂
      dsimp only
      split
      · exact ⟨hst'.trans hs, .inr ⟨rfl, o, rfl, by rw [hread]; rfl, by simpa using hl.trans ha'⟩⟩
      · exact ⟨hs, .inr ⟨rfl, o, rfl, by rw [hread]; rfl, hl⟩⟩

/-- Everything that paging by itself can do next, from `w` to `v`: stop at the cancel event, or make one request, whose
outcome is `o`, and by it stop or go on. -/
inductive Steps (e : Env τ ς) (user : User) (size : Int) (p : Paging) (w v : World τ ς) (o : Reply.Outcome) : Prop
  | cut (hc : w.cancelled = true) (hl : w.Acts e [] v)
    (hrun : ∀ fuel, p.run e.transport user size (fuel + 1) w =
      some (.error (.failure (.cancelled (.afterRequests p.folder p.requests))), v))
  | refused {trouble : Trouble} (hc : w.cancelled = false)
    (hl : w.Acts e [.asked user (.sync (.forPage p.folder p.token size)) o] v)
    (ho : Page.read p.token o = .error trouble)
    (hrun : ∀ fuel, p.run e.transport user size (fuel + 1) w = some (.error trouble, v))
  | ended {page : Page} (hc : w.cancelled = false)
    (hl : w.Acts e [.asked user (.sync (.forPage p.folder p.token size)) o] v) (ho : Page.read p.token o = .ok page)
    (hlast : page.last = true) (hrun : ∀ fuel, p.run e.transport user size (fuel + 1) w = some (.ok (p.add page), v))
  | paged {page : Page} (hc : w.cancelled = false)
    (hl : w.Acts e [.asked user (.sync (.forPage p.folder p.token size)) o] v) (ho : Page.read p.token o = .ok page)
    (hlast : page.last = false)
    (hrun : ∀ fuel, p.run e.transport user size (fuel + 1) w = (p.add page).run e.transport user size fuel v)

theorem run_steps (e : Env τ ς) (user : User) (size : Int) (p : Paging) (w : World τ ς) :
    ∃ v, Steps e user size p w v
      (e.transport.send w.remote user (.sync (.forPage p.folder p.token size))).1.outcome := by
  obtain ⟨-, hturn⟩ := turn_acts e user size p w
  rcases hr : p.turn e.transport user size w with ⟨result, v⟩
  rw [hr] at hturn
  dsimp only at hturn
  refine ⟨v, ?_⟩
  rcases hturn with ⟨hc, rfl, hl⟩ | ⟨hc, o, rfl, rfl, hl⟩
  · exact .cut hc hl fun _ => by rw [run, hr]
  · generalize (e.transport.send w.remote user (.sync (.forPage p.folder p.token size))).1.outcome = o at hr hl ⊢
    cases hread : Page.read p.token o with
    | error trouble =>
      rw [hread, Except.map] at hr
      exact .refused hc hl hread fun _ => by rw [run, hr]
    | ok page =>
      rw [hread, Except.map] at hr
      cases hlast : page.last with
      | true => exact .ended hc hl hread hlast fun _ => by rw [run, hr, hlast]
      | false => exact .paged hc hl hread hlast fun _ => by rw [run, hr, hlast]

end Paging

/-! ## One turn -/

namespace Task

variable {τ ς : Type} (e : Env τ ς) (user : User)

/-- The request of a folder's next turn. -/
def request (task : Task) : SyncRequest := .forPage task.paging.folder task.paging.token e.config.idPageSize

def outcome (task : Task) (w : World τ ς) : Reply.Outcome :=
  (e.transport.send w.remote user (.sync (task.request e))).1.outcome

/-- Everything one turn of a folder can do: its deeds, and what it comes to. -/
inductive Moves (task : Task) (w : World τ ς) : List Event → Move → Prop
  | cancelled (hc : w.cancelled = true) :
    Moves task w []
      (.ended (.ok (.failed task.paging.folder task.stored
        (.cancelled (.afterRequests task.paging.folder task.paging.requests)))))
  | failed {failure : Failure} (hc : w.cancelled = false)
    (ho : Page.read task.paging.token (task.outcome e user w) = .error (.failure failure)) :
    Moves task w [.asked user (.sync (task.request e)) (task.outcome e user w)]
      (.ended (.ok (.failed task.paging.folder task.stored failure)))
  | broken {fault : Fault} (hc : w.cancelled = false)
    (ho : Page.read task.paging.token (task.outcome e user w) = .error (.fault fault)) :
    Moves task w [.asked user (.sync (task.request e)) (task.outcome e user w)] (.ended (.error fault))
  | paged {page : Page} (hc : w.cancelled = false)
    (ho : Page.read task.paging.token (task.outcome e user w) = .ok page) (hl : page.last = false) :
    Moves task w [.asked user (.sync (task.request e)) (task.outcome e user w)]
      (.going { task with paging := task.paging.add page })
  | finished {page : Page} (hc : w.cancelled = false)
    (ho : Page.read task.paging.token (task.outcome e user w) = .ok page) (hl : page.last = true) :
    Moves task w
      [.asked user (.sync (task.request e)) (task.outcome e user w),
        .savedToken user task.paging.folder page.token]
      (.ended (.ok (.finished (task.paging.add page))))
  | unsaved {page : Page} {fault : Fault} (hc : w.cancelled = false)
    (ho : Page.read task.paging.token (task.outcome e user w) = .ok page) (hl : page.last = true)
    (hs : e.stores.saveToken w.stores user task.paging.folder page.token = .error fault) :
    Moves task w [.asked user (.sync (task.request e)) (task.outcome e user w)] (.ended (.error fault))

variable {e user}

theorem fail_acts (e : Env τ ς) (user : User) (folder : FolderId) (stored : Token) (failure : Failure)
    (w : World τ ς) :
    (fail user folder stored failure w).1 = .failed folder stored failure ∧
      w.Acts e [] (fail user folder stored failure w).2 := by
  refine ⟨rfl, ?_⟩
  unfold fail
  dsimp only
  split <;> exact World.Acts.refl.note _

theorem finish_acts (e : Env τ ς) (user : User) (p : Paging) (w : World τ ς) :
    ((finish e user p w).1 = .ok (.finished p) ∧
        w.Acts e [.savedToken user p.folder p.token] (finish e user p w).2) ∨
      ∃ fault, e.stores.saveToken w.stores user p.folder p.token = .error fault ∧
        finish e user p w = (.error fault, w) := by
  unfold finish
  cases hs : e.stores.saveToken w.stores user p.folder p.token with
  | error fault =>
    have hw : w.writeToken e.stores user p.folder p.token = (.error fault, w) := by simp [World.writeToken, hs]
    exact .inr ⟨fault, rfl, by rw [hw]⟩
  | ok r =>
    obtain ⟨w', hw⟩ : ∃ w', w.writeToken e.stores user p.folder p.token = (.ok (), w') := by
      simp [World.writeToken, hs]
    rw [hw]
    exact .inl ⟨rfl, (World.Acts.refl.writeToken hw).note _⟩

/-- A turn does one of these, and leads from world to world by its deeds. -/
theorem step_moves (e : Env τ ς) (user : User) (task : Task) (w : World τ ς) :
    ∃ ds, Moves e user task w ds (task.step e user w).1 ∧ w.Acts e ds (task.step e user w).2 := by
  obtain ⟨hs, hturn⟩ := Paging.turn_acts e user e.config.idPageSize task.paging w
  unfold step
  generalize task.paging.turn e.transport user e.config.idPageSize w = r at hs hturn
  obtain ⟨result, w₂⟩ := r
  dsimp only at hs hturn ⊢
  rcases hturn with ⟨hc, rfl, hl⟩ | ⟨hc, o, ho, rfl, hl⟩
  · obtain ⟨-, hl'⟩ := fail_acts e user task.paging.folder task.stored
      (.cancelled (.afterRequests task.paging.folder task.paging.requests)) w₂
    exact ⟨[], .cancelled hc, hl.trans hl'⟩
  · obtain rfl : o = task.outcome e user w := ho
    have hl : w.Acts e [.asked user (.sync (task.request e)) (task.outcome e user w)] w₂ := hl
    cases hread : Page.read task.paging.token (task.outcome e user w) with
    | error trouble =>
      cases trouble with
      | failure failure =>
        obtain ⟨-, hl'⟩ := fail_acts e user task.paging.folder task.stored failure w₂
        have hl := hl.trans hl'
        rw [List.append_nil] at hl
        exact ⟨_, .failed hc hread, hl⟩
      | fault fault => exact ⟨_, .broken hc hread, hl⟩
    | ok page =>
      dsimp only [Except.map]
      cases hlast : page.last with
      | false => exact ⟨_, .paged hc hread hlast, hl⟩
      | true =>
        rcases finish_acts e user (task.paging.add page) w₂ with ⟨hr, hl'⟩ | ⟨fault, hs', hr⟩
        · simp only [hr]
          exact ⟨_, .finished hc hread hlast, by simpa using hl.trans hl'⟩
        · rw [hs] at hs'
          simp only [hr]
          exact ⟨_, .unsaved hc hread hlast hs', hl⟩

theorem Moves.going {e : Env τ ς} {user : User} {task next : Task} {w : World τ ς} {ds : List Event}
    (h : Moves e user task w ds (.going next)) :
    next.paging.folder = task.paging.folder ∧ next.paging.requests = task.paging.requests + 1 := by
  cases h with
  | paged _ _ _ => exact ⟨rfl, rfl⟩

/-- Everything the start of a folder can do. -/
inductive Starts (e : Env τ ς) (user : User) (stopped : Bool) (folder : FolderId) (w : World τ ς) :
    List Event → Move → Prop
  | unread {fault : Fault} (h : e.stores.token w.stores user folder = .error fault) :
    Starts e user stopped folder w [] (.ended (.error fault))
  | skipped {stored : Token} {notes : List Note} (h : e.stores.token w.stores user folder = .ok (stored, notes))
    (hs : stopped = true ∨ w.cancelled = true) :
    Starts e user stopped folder w [] (.ended (.ok (.failed folder stored (.cancelled (.notStarted folder)))))
  | begun {stored : Token} {notes : List Note} {ds : List Event} {move : Move}
    (h : e.stores.token w.stores user folder = .ok (stored, notes)) (hs : stopped = false)
    (hm : Moves e user { stored, paging := .start folder stored } (w.noteAll notes) ds move) :
    Starts e user stopped folder w ds move

theorem Starts.going {e : Env τ ς} {user : User} {stopped : Bool} {folder : FolderId} {next : Task} {w : World τ ς}
    {ds : List Event} (h : Starts e user stopped folder w ds (.going next)) :
    next.paging.folder = folder ∧ next.paging.requests = 1 := by
  cases h with
  | begun _ _ hm => exact hm.going

theorem start_starts (e : Env τ ς) (user : User) (stopped : Bool) (folder : FolderId) (w : World τ ς) :
    ∃ ds, Starts e user stopped folder w ds (start e user stopped folder w).1 ∧
      w.Acts e ds (start e user stopped folder w).2 := by
  unfold start World.readToken
  cases h : e.stores.token w.stores user folder with
  | error fault => exact ⟨[], .unread h, .refl⟩
  | ok r =>
    obtain ⟨stored, notes⟩ := r
    have hl : w.Acts e [] (w.noteAll notes) := World.Acts.refl.noteAll notes
    have hc : (w.noteAll notes).cancelled = w.cancelled := by simp [World.cancelled]
    dsimp only
    rw [hc]
    split
    · rename_i hs
      exact ⟨[], .skipped h (by simpa using hs), hl.note _⟩
    · rename_i hs
      obtain ⟨ds, hm, hl'⟩ := step_moves e user { stored, paging := .start folder stored }
        (w.noteAll notes)
      simp only [Bool.or_eq_true, not_or, Bool.not_eq_true] at hs
      exact ⟨ds, .begun h hs.1 hm, hl.trans hl'⟩

end Task

end MailboxSync
