import MailboxSync.Proofs.Folder

/-!
# The folders of a pool

Whatever the order in which slots move, every folder of a pool waits, is between two turns, or has ended; what it has
asked and what has been written for it is what that standing says, and nothing is asked or written beyond that.

* `ReadFrom` — a token the stores gave for a folder before this run wrote one for it;
* `Stands` — a folder between two turns, or at one of the seven ends it can come to, with its exchanges and writes;
* `Census` — the standing of all folders; `Census.start` and `Census.step` say how one move changes it;
* `Pool.Turns` — everything one visit of a slot can do; `Pool.follow_induction` carries what turns keep along any
  schedule;
* `Pool.Inv` — a pool with its census; `Pool.Inv.turn` is one turn, `Pool.Inv.follow` any schedule.
-/

namespace MailboxSync

open Journal

variable {τ ς : Type}

/-- The token may have been read for the folder in a run from `w₀`, before one was written for it. -/
def ReadFrom (e : Env τ ς) (user : User) (w₀ : World τ ς) (folder : FolderId) (token : Token) : Prop :=
  ∃ ds w notes, w₀.Leads e ds w ∧ savedTokens user folder ds = [] ∧
    e.stores.token w.stores user folder = .ok (token, notes)

/-- Where a folder stands after its exchanges and the writes of its token: between two turns, or at an end. -/
inductive Stands (e : Env τ ς) (user : User) (w₀ : World τ ς) (folder : FolderId) :
    List SyncExchange → List Token → Move → Prop
  | underway {task : Task} {xs : List SyncExchange} (hr : ReadFrom e user w₀ folder task.stored)
    (hp : (Paging.start folder task.stored).Reaches e.config.idPageSize xs task.paging false) :
    Stands e user w₀ folder xs [] (.going task)
  | finished {stored : Token} {p : Paging} {xs : List SyncExchange} (hr : ReadFrom e user w₀ folder stored)
    (hp : (Paging.start folder stored).Reaches e.config.idPageSize xs p true) :
    Stands e user w₀ folder xs [p.token] (.ended (.ok (.finished p)))
  | failed {stored : Token} {p : Paging} {xs : List SyncExchange} {o : Reply.Outcome} {failure : Failure}
    (hr : ReadFrom e user w₀ folder stored)
    (hp : (Paging.start folder stored).Reaches e.config.idPageSize xs p false)
    (ho : Page.read p.token o = .error (.failure failure)) :
    Stands e user w₀ folder (xs ++ [(.forPage folder p.token e.config.idPageSize, o)]) []
      (.ended (.ok (.failed folder stored failure)))
  | cancelled {stored : Token} {p : Paging} {xs : List SyncExchange} (hr : ReadFrom e user w₀ folder stored)
    (hp : (Paging.start folder stored).Reaches e.config.idPageSize xs p false) :
    Stands e user w₀ folder xs []
      (.ended (.ok (.failed folder stored (.cancelled (.afterRequests folder p.requests)))))
  | skipped {stored : Token} (hr : ReadFrom e user w₀ folder stored) :
    Stands e user w₀ folder [] [] (.ended (.ok (.failed folder stored (.cancelled (.notStarted folder)))))
  | unread {fault : Fault} {ds : List Event} {w : World τ ς} (hl : w₀.Leads e ds w)
    (hs : e.stores.token w.stores user folder = .error fault) :
    Stands e user w₀ folder [] [] (.ended (.error fault))
  | broken {stored : Token} {p : Paging} {xs : List SyncExchange} {o : Reply.Outcome} {fault : Fault}
    (hr : ReadFrom e user w₀ folder stored)
    (hp : (Paging.start folder stored).Reaches e.config.idPageSize xs p false)
    (ho : Page.read p.token o = .error (.fault fault)) :
    Stands e user w₀ folder (xs ++ [(.forPage folder p.token e.config.idPageSize, o)]) [] (.ended (.error fault))
  | unsaved {stored : Token} {p : Paging} {xs : List SyncExchange} {fault : Fault} {ds : List Event} {w : World τ ς}
    (hr : ReadFrom e user w₀ folder stored)
    (hp : (Paging.start folder stored).Reaches e.config.idPageSize xs p true) (hl : w₀.Leads e ds w)
    (hs : e.stores.saveToken w.stores user folder p.token = .error fault) :
    Stands e user w₀ folder xs [] (.ended (.error fault))

theorem Stands.of_going {e : Env τ ς} {user : User} {w₀ : World τ ς} {folder : FolderId} {xs : List SyncExchange}
    {ts : List Token} {task : Task} (h : Stands e user w₀ folder xs ts (.going task)) :
    ts = [] ∧ task.paging.folder = folder ∧ ReadFrom e user w₀ folder task.stored ∧
      (Paging.start folder task.stored).Reaches e.config.idPageSize xs task.paging false := by
  cases h with
  | underway hr hp => exact ⟨rfl, hp.folder_eq, hr, hp⟩

theorem Stands.result_folder {e : Env τ ς} {user : User} {w₀ : World τ ς} {folder : FolderId}
    {xs : List SyncExchange}
    {ts : List Token} {result : FolderResult} (h : Stands e user w₀ folder xs ts (.ended (.ok result))) :
    result.folder = folder := by
  cases h with
  | finished _ hp => exact hp.folder_eq
  | failed _ _ _ => rfl
  | cancelled _ _ => rfl
  | skipped _ => rfl

/-! ## One folder moves -/

/-- Deeds that concern one folder of one user, and no watermark. -/
structure About (user : User) (folder : FolderId) (ds : List Event) : Prop where
  exchanges : ∀ u f, ¬ (u = user ∧ f = folder) → Journal.exchanges u f ds = []
  savedTokens : ∀ u f, ¬ (u = user ∧ f = folder) → Journal.savedTokens u f ds = []
  savedWatermarks : Journal.savedWatermarks ds = []

section Moves

variable {e : Env τ ς} {user : User} {w₀ w : World τ ς} {folder : FolderId}

theorem exchanges_asked (u : User) (f : FolderId) (r : SyncRequest) (o : Reply.Outcome) :
    exchanges u f [.asked user (.sync r) o] = if user = u ∧ r.folder = f then [(r, o)] else [] := by
  unfold exchanges
  split <;> rename_i h <;> simp [Event.exchange?, h]

theorem savedTokens_asked (u : User) (f : FolderId) (r : Request) (o : Reply.Outcome) :
    savedTokens u f [.asked user r o] = [] := rfl

theorem savedTokens_saved (u : User) (f : FolderId) (token : Token) :
    savedTokens u f [.savedToken user folder token] = if user = u ∧ folder = f then [token] else [] := by
  unfold savedTokens
  split <;> rename_i h <;> simp [Event.savedToken?, h]

theorem exchanges_saved (u : User) (f : FolderId) (token : Token) :
    exchanges u f [.savedToken user folder token] = [] := rfl

theorem About.nil : About user folder [] := ⟨fun _ _ _ => rfl, fun _ _ _ => rfl, rfl⟩

theorem About.asked {r : SyncRequest} (h : r.folder = folder) (o : Reply.Outcome) :
    About user folder [.asked user (.sync r) o] where
  exchanges u f hn := by rw [exchanges_asked, if_neg (by rw [h]; exact fun ⟨a, b⟩ => hn ⟨a.symm, b.symm⟩)]
  savedTokens _ _ _ := rfl
  savedWatermarks := rfl

theorem About.saved (user : User) (folder : FolderId) (token : Token) :
    About user folder [.savedToken user folder token] where
  exchanges _ _ _ := rfl
  savedTokens u f hn := by rw [savedTokens_saved, if_neg fun ⟨a, b⟩ => hn ⟨a.symm, b.symm⟩]
  savedWatermarks := rfl

theorem About.append {ds ds' : List Event} (h : About user folder ds) (h' : About user folder ds') :
    About user folder (ds ++ ds') where
  exchanges u f hn := by simp [h.exchanges u f hn, h'.exchanges u f hn]
  savedTokens u f hn := by simp [h.savedTokens u f hn, h'.savedTokens u f hn]
  savedWatermarks := by simp [h.savedWatermarks, h'.savedWatermarks]

/-- A turn of a folder between two turns takes it to where it stands next. -/
theorem Task.Moves.stands {task : Task} {xs : List SyncExchange} {ts : List Token} {ds₀ ds : List Event} {move : Move}
    (hm : Task.Moves e user task w ds move) (hl : w₀.Leads e ds₀ w)
    (hs : Stands e user w₀ folder xs ts (.going task)) :
    About user folder ds ∧
      Stands e user w₀ folder (xs ++ exchanges user folder ds) (ts ++ savedTokens user folder ds) move := by
  obtain ⟨rfl, hf, hr, hp⟩ := hs.of_going
  have hrf : (task.request e).folder = folder := hf
  have hx : exchanges user folder [.asked user (.sync (task.request e)) (task.outcome e user w)] =
      [(.forPage task.paging.folder task.paging.token e.config.idPageSize, task.outcome e user w)] := by
    rw [exchanges_asked, if_pos ⟨rfl, hrf⟩]; rfl
  have ha : About user folder [.asked user (.sync (task.request e)) (task.outcome e user w)] := .asked hrf _
  cases hm with
  | cancelled _ =>
    refine ⟨.nil, ?_⟩
    simpa [hf] using Stands.cancelled hr hp
  | failed _ ho =>
    refine ⟨ha, ?_⟩
    rw [hx, savedTokens_asked, hf]
    exact .failed hr hp ho
  | broken _ ho =>
    refine ⟨ha, ?_⟩
    rw [hx, savedTokens_asked, hf]
    exact .broken hr hp ho
  | paged _ ho hlast =>
    refine ⟨ha, ?_⟩
    rw [hx, savedTokens_asked]
    exact .underway hr (hlast ▸ hp.page ho)
  | @finished page _ ho hlast =>
    have hsaved := About.saved user folder page.token
    rw [hf]
    refine ⟨ha.append hsaved, ?_⟩
    rw [← List.singleton_append, exchanges_append, savedTokens_append, hx, savedTokens_asked, exchanges_saved,
      savedTokens_saved, if_pos ⟨rfl, rfl⟩]
    exact .finished hr (hlast ▸ hp.page ho)
  | unsaved _ ho hlast hsave =>
    refine ⟨ha, ?_⟩
    rw [hx, savedTokens_asked]
    exact .unsaved hr (hlast ▸ hp.page ho) hl (hf ▸ hsave)

theorem Task.Starts.stands {stopped : Bool} {ds₀ ds : List Event} {move : Move}
    (hm : Task.Starts e user stopped folder w ds move) (hl : w₀.Leads e ds₀ w)
    (hn : savedTokens user folder ds₀ = []) :
    About user folder ds ∧
      Stands e user w₀ folder (exchanges user folder ds) (savedTokens user folder ds) move := by
  cases hm with
  | unread h => exact ⟨.nil, .unread hl h⟩
  | skipped h _ => exact ⟨.nil, .skipped ⟨_, _, _, hl, hn, h⟩⟩
  | @begun stored notes _ _ h _ hm =>
    have hs : Stands e user w₀ folder [] [] (.going { stored, paging := .start folder stored }) :=
      .underway ⟨_, _, _, hl, hn, h⟩ .start
    exact hm.stands (hl.noteAll notes) hs

end Moves

/-! ## All folders -/

/-- The ends folders came to. -/
abbrev Ends := List (FolderId × Except Fault FolderResult)

def Move.tasks : Move → List Task
  | .going task => [task]
  | .ended _ => []

def Move.ends (folder : FolderId) : Move → Ends
  | .going _ => []
  | .ended r => [(folder, r)]

/-- The folders held, those that wait, those between two turns and those that have ended are all folders, each once;
those between two turns or at an end stand where their exchanges and writes among the deeds say, nothing has been asked
or written for those that wait, and the deeds hold nothing else. -/
structure Census (e : Env τ ς) (user : User) (w₀ : World τ ς) (folders : List FolderId) (ds : List Event)
    (held queue : List FolderId) (active : List Task) (ends : Ends) : Prop where
  parts : (held ++ (queue ++ (active.map (·.paging.folder) ++ ends.map (·.1)))).Perm folders
  nodup : folders.Nodup
  waiting : ∀ f ∈ queue, exchanges user f ds = [] ∧ savedTokens user f ds = []
  active : ∀ t ∈ active,
    Stands e user w₀ t.paging.folder (exchanges user t.paging.folder ds)
      (savedTokens user t.paging.folder ds) (.going t)
  ended : ∀ x ∈ ends, Stands e user w₀ x.1 (exchanges user x.1 ds) (savedTokens user x.1 ds) (.ended x.2)
  elsewhere : ∀ u f, ¬ (u = user ∧ f ∈ folders) → exchanges u f ds = [] ∧ savedTokens u f ds = []
  savedWatermarks : savedWatermarks ds = []

namespace Census

variable {e : Env τ ς} {user : User} {w₀ w : World τ ς} {folders held queue : List FolderId} {folder : FolderId}
  {ds ds' : List Event} {active active' : List Task} {ends : Ends} {task : Task} {next : Move}

theorem active_mem (h : Census e user w₀ folders ds held queue active ends) (ht : task ∈ active) :
    task.paging.folder ∈ folders := by
  have hmem : task.paging.folder ∈ active.map (·.paging.folder) := List.mem_map_of_mem ht
  exact h.parts.subset (List.mem_append_right _ (List.mem_append_right _ (List.mem_append_left _ hmem)))

theorem ended_mem (h : Census e user w₀ folders ds held queue active ends) {x : FolderId × Except Fault FolderResult}
    (hx : x ∈ ends) : x.1 ∈ folders := by
  have hmem : x.1 ∈ ends.map (·.1) := List.mem_map_of_mem hx
  exact h.parts.subset (List.mem_append_right _ (List.mem_append_right _ (List.mem_append_right _ hmem)))

theorem not_ended (h : Census e user w₀ folders ds [] queue active ends)
    (hf : folder ∈ queue ∨ folder ∈ active.map (·.paging.folder)) : ∀ x ∈ ends, x.1 ≠ folder := by
  have hnodup : (queue ++ (active.map (·.paging.folder) ++ ends.map (·.1))).Nodup :=
    h.parts.nodup_iff.mpr h.nodup
  obtain ⟨-, hrest, hqueue⟩ := List.nodup_append.mp hnodup
  obtain ⟨-, -, hactive⟩ := List.nodup_append.mp hrest
  rintro x hx rfl
  have hended : x.1 ∈ ends.map (·.1) := List.mem_map_of_mem hx
  rcases hf with hf | hf
  · exact hqueue _ hf _ (List.mem_append_right _ hended) rfl
  · exact hactive _ hf _ hended rfl

theorem perm_active (h : Census e user w₀ folders ds held queue active ends) (hp : active.Perm active') :
    Census e user w₀ folders ds held queue active' ends where
  parts := (((((hp.map _).symm).append_right _).append_left _).append_left _).trans h.parts
  nodup := h.nodup
  waiting := h.waiting
  active t ht := h.active t (hp.mem_iff.mpr ht)
  ended := h.ended
  elsewhere := h.elsewhere
  savedWatermarks := h.savedWatermarks

theorem perm_ends (h : Census e user w₀ folders ds held queue active ends) {ends' : Ends} (hp : ends.Perm ends') :
    Census e user w₀ folders ds held queue active ends' where
  parts := ((((hp.map _).symm.append_left _).append_left _).append_left _).trans h.parts
  nodup := h.nodup
  waiting := h.waiting
  active := h.active
  ended x hx := h.ended x (hp.mem_iff.mpr hx)
  elsewhere := h.elsewhere
  savedWatermarks := h.savedWatermarks

theorem hold_queue (h : Census e user w₀ folders ds [] (folder :: queue) active ends) :
    Census e user w₀ folders ds [folder] queue active ends where
  parts := h.parts
  nodup := h.nodup
  waiting f hf := h.waiting f (List.mem_cons_of_mem _ hf)
  active := h.active
  ended := h.ended
  elsewhere := h.elsewhere
  savedWatermarks := h.savedWatermarks

theorem hold_active (h : Census e user w₀ folders ds [] queue (task :: active) ends) :
    Census e user w₀ folders ds [task.paging.folder] queue active ends where
  parts := by simpa using List.perm_middle.symm.trans h.parts
  nodup := h.nodup
  waiting := h.waiting
  active t ht := h.active t (List.mem_cons_of_mem _ ht)
  ended := h.ended
  elsewhere := h.elsewhere
  savedWatermarks := h.savedWatermarks

/-- The folder held comes back where its new deeds have taken it. -/
theorem release (h : Census e user w₀ folders ds [folder] queue active ends) (about : About user folder ds')
    (hs : Stands e user w₀ folder (exchanges user folder ds ++ exchanges user folder ds')
      (savedTokens user folder ds ++ savedTokens user folder ds') next) :
    Census e user w₀ folders (ds ++ ds') [] queue (next.tasks ++ active) (ends ++ next.ends folder) := by
  have hnodup : (folder :: (queue ++ (active.map (·.paging.folder) ++ ends.map (·.1)))).Nodup :=
    h.parts.nodup_iff.mpr h.nodup
  have hmem : folder ∈ folders := h.parts.subset (by simp)
  simp only [List.nodup_cons, List.mem_append, List.mem_map, not_or, not_exists, not_and] at hnodup
  obtain ⟨⟨hwaiting, hactive, hended⟩, -⟩ := hnodup
  -- the other folders have the exchanges and writes they had
  have hx : ∀ f, f ≠ folder → exchanges user f (ds ++ ds') = exchanges user f ds := fun f hf => by
    rw [exchanges_append, about.exchanges user f fun h => hf h.2, List.append_nil]
  have ht : ∀ f, f ≠ folder → savedTokens user f (ds ++ ds') = savedTokens user f ds := fun f hf => by
    rw [savedTokens_append, about.savedTokens user f fun h => hf h.2, List.append_nil]
  rw [← exchanges_append, ← savedTokens_append] at hs
  have waiting : ∀ f ∈ queue, exchanges user f (ds ++ ds') = [] ∧ savedTokens user f (ds ++ ds') = [] := by
    intro f hf
    have hne : f ≠ folder := by rintro rfl; exact hwaiting hf
    rw [hx f hne, ht f hne]
    exact h.waiting f hf
  have hactive' : ∀ t ∈ active, Stands e user w₀ t.paging.folder (exchanges user t.paging.folder (ds ++ ds'))
      (savedTokens user t.paging.folder (ds ++ ds')) (.going t) := by
    intro t hmem
    rw [hx _ (hactive t hmem), ht _ (hactive t hmem)]
    exact h.active t hmem
  have hended' : ∀ x ∈ ends, Stands e user w₀ x.1 (exchanges user x.1 (ds ++ ds'))
      (savedTokens user x.1 (ds ++ ds')) (.ended x.2) := by
    intro x hmem
    rw [hx _ (hended x hmem), ht _ (hended x hmem)]
    exact h.ended x hmem
  have elsewhere : ∀ u f, ¬ (u = user ∧ f ∈ folders) →
      exchanges u f (ds ++ ds') = [] ∧ savedTokens u f (ds ++ ds') = [] := by
    intro u f hn
    have hn' : ¬ (u = user ∧ f = folder) := fun ⟨hu, hf⟩ => hn ⟨hu, hf ▸ hmem⟩
    obtain ⟨h₁, h₂⟩ := h.elsewhere u f hn
    simp [h₁, h₂, about.exchanges u f hn', about.savedTokens u f hn']
  have marks : Journal.savedWatermarks (ds ++ ds') = [] := by
    rw [savedWatermarks_append, h.savedWatermarks, about.savedWatermarks, List.append_nil]
  cases next with
  | going t =>
    obtain ⟨-, hf, -⟩ := hs.of_going
    refine ⟨?_, h.nodup, waiting, ?_, by simpa [Move.ends] using hended', elsewhere, marks⟩
    · have hp : (queue ++ folder :: (active.map (·.paging.folder) ++ ends.map (·.1))).Perm folders :=
        List.perm_middle.trans h.parts
      simpa [Move.tasks, Move.ends, hf] using hp
    · intro t' ht'
      rcases List.mem_cons.mp ht' with rfl | ht'
      · rw [hf]; exact hs
      · exact hactive' t' ht'
  | ended r =>
    refine ⟨?_, h.nodup, waiting, by simpa [Move.tasks] using hactive', ?_, elsewhere, marks⟩
    · have hp := (List.perm_append_singleton folder
        (queue ++ (active.map (·.paging.folder) ++ ends.map (·.1)))).trans h.parts
      simpa [Move.tasks, Move.ends] using hp
    · intro x hx'
      rcases List.mem_append.mp hx' with hx' | hx'
      · exact hended' x hx'
      · obtain rfl : x = (folder, r) := by simpa [Move.ends] using hx'
        exact hs

end Census

/-! ## The pool -/

/-- The failure a run is blamed on after one more result. -/
def Failure.blameFor (cause : Option Failure) (r : FolderResult) : Option Failure :=
  match r.error with
  | none => cause
  | some f => some (Failure.blame cause f)

/-- The failure a run with these results is blamed on. -/
def Failure.blamed (rs : List FolderResult) : Option Failure := rs.foldl blameFor none

theorem Failure.foldl_blameFor_eq_none_iff (cause : Option Failure) (rs : List FolderResult) :
    rs.foldl blameFor cause = none ↔ cause = none ∧ ∀ r ∈ rs, r.ok = true := by
  induction rs generalizing cause with
  | nil => simp
  | cons r rs ih =>
    rw [List.foldl_cons, ih]
    cases hr : r.error <;> simp [blameFor, FolderResult.ok, hr]

theorem Failure.blamed_eq_none_iff (rs : List FolderResult) : blamed rs = none ↔ ∀ r ∈ rs, r.ok = true := by
  simp [blamed, foldl_blameFor_eq_none_iff]

namespace Pool

/-- The folders between two turns. -/
def active (p : Pool) : List Task := p.slots.filterMap id

theorem idle_iff {p : Pool} : p.idle = true ↔ p.queue = [] ∧ p.active = [] := by
  simp [idle, active, List.isEmpty_iff, List.filterMap_eq_nil_iff]

/-- What the pool has taken in when folders have come to these ends, in this order. -/
def Took (p : Pool) (rs : List (Except Fault FolderResult)) : Prop :=
  match p.fault with
  | none => rs = p.results.map .ok ∧ p.cause = Failure.blamed p.results
  | some fault => .error fault ∈ rs

@[simp] theorem queue_accept (p : Pool) (r : FolderResult) : (p.accept r).queue = p.queue := by
  unfold accept; split <;> rfl

@[simp] theorem queue_take (p : Pool) (r : Except Fault FolderResult) : (p.take r).queue = p.queue := by
  unfold take; split <;> simp

@[simp] theorem queue_settle (p : Pool) (i : Nat) (m : Move) : (p.settle i m).queue = p.queue := by
  cases m <;> simp [settle]

theorem Took.take {p : Pool} {rs : List (Except Fault FolderResult)} (h : p.Took rs)
    (r : Except Fault FolderResult) : (p.take r).Took (rs ++ [r]) := by
  unfold Took at h
  cases hf : p.fault with
  | some fault =>
    simp only [hf] at h
    have hp : p.take r = p := by unfold Pool.take; simp [hf]
    rw [hp]
    simp only [Took, hf]
    exact List.mem_append_left _ h
  | none =>
    simp only [hf] at h
    obtain ⟨rfl, hc⟩ := h
    cases r with
    | error fault =>
      have hp : p.take (.error fault) = { p with fault := some fault, stopped := true } := by
        unfold Pool.take; simp [hf]
      rw [hp]
      simp [Took]
    | ok r =>
      have hp : p.take (.ok r) = p.accept r := by unfold Pool.take; simp [hf]
      rw [hp]
      unfold accept
      cases hr : r.error <;> simp [Took, hf, hc, Failure.blamed, Failure.blameFor, hr]

theorem Took.settle {p : Pool} {rs : List (Except Fault FolderResult)} (h : p.Took rs) (i : Nat) (folder : FolderId)
    (m : Move) : (p.settle i m).Took (rs ++ (m.ends folder).map (·.2)) := by
  cases m with
  | going t => simpa [Pool.settle, Move.ends, Took] using h
  | ended r => exact Took.take (p := { p with slots := p.slots.set i none }) h r

theorem active_settle {p : Pool} {i : Nat} {x : Option Task} (h : p.slots[i]? = some x) :
    ∃ rest, p.active.Perm (x.toList ++ rest) ∧ ∀ m : Move, (p.settle i m).active.Perm (m.tasks ++ rest) := by
  obtain ⟨hi, hx⟩ := List.getElem?_eq_some_iff.mp h
  obtain ⟨l₁, l₂, hs, hl⟩ : ∃ l₁ l₂, p.slots = l₁ ++ x :: l₂ ∧ l₁.length = i :=
    ⟨p.slots.take i, p.slots.drop (i + 1), by simp [← hx], by simp; omega⟩
  refine ⟨l₁.filterMap id ++ l₂.filterMap id, ?_, fun m => ?_⟩
  · cases x <;> simp [active, hs, List.perm_middle]
  · cases m with
    | going t => simp [active, Pool.settle, hs, ← hl, Move.tasks, List.perm_middle]
    | ended r => simp [active, Pool.settle, hs, ← hl, Move.tasks]

section Visit

variable {e : Env τ ς} {user : User} {i : Nat} {p : Pool} {w : World τ ς}

theorem visit_absent (h : p.slots[i]? = none) : visit e user i (p, w) = (p, w) := by simp [visit, h]

theorem visit_task {task : Task} (h : p.slots[i]? = some (some task)) :
    visit e user i (p, w) = (p.settle i (task.step e user w).1, (task.step e user w).2) := by simp [visit, h]

theorem visit_empty (h : p.slots[i]? = some none) (hq : p.queue = []) : visit e user i (p, w) = (p, w) := by
  simp [visit, h, hq]

theorem visit_start {folder : FolderId} {queue : List FolderId} (h : p.slots[i]? = some none)
    (hq : p.queue = folder :: queue) :
    visit e user i (p, w) = ({ p with queue }.settle i (Task.start e user p.stopped folder w).1,
      (Task.start e user p.stopped folder w).2) := by
  simp [visit, h, hq]

end Visit

/-- One turn in a pool: a folder moves, in a slot of its own or out of the queue, by deeds that lead to the next
world. -/
inductive Turns (e : Env τ ς) (user : User) (p : Pool) (w : World τ ς) :
    FolderId → List Event → Move → Pool → World τ ς → Prop
  | goesOn {i : Nat} {task : Task} {ds : List Event} {move : Move} {w' : World τ ς}
    (hi : p.slots[i]? = some (some task)) (hm : Task.Moves e user task w ds move) (ha : w.Acts e ds w') :
    Turns e user p w task.paging.folder ds move (p.settle i move) w'
  | begins {i : Nat} {folder : FolderId} {queue : List FolderId} {ds : List Event} {move : Move} {w' : World τ ς}
    (hi : p.slots[i]? = some none) (hq : p.queue = folder :: queue)
    (hm : Task.Starts e user p.stopped folder w ds move) (ha : w.Acts e ds w') :
    Turns e user p w folder ds move ({ p with queue }.settle i move) w'

/-- Nothing can move in slot `i`: there is no such slot, or it is empty and nothing waits. -/
def Rests (p : Pool) (i : Nat) : Prop := p.slots[i]? = none ∨ p.slots[i]? = some none ∧ p.queue = []

theorem visit_cases (e : Env τ ς) (user : User) (i : Nat) (p : Pool) (w : World τ ς) :
    (p.Rests i ∧ visit e user i (p, w) = (p, w)) ∨
      ∃ folder ds move, Turns e user p w folder ds move (visit e user i (p, w)).1 (visit e user i (p, w)).2 := by
  cases hi : p.slots[i]? with
  | none => exact .inl ⟨.inl hi, visit_absent hi⟩
  | some x =>
    cases x with
    | some task =>
      obtain ⟨ds, hm, ha⟩ := Task.step_moves e user task w
      rw [visit_task hi]
      exact .inr ⟨_, ds, _, .goesOn hi hm ha⟩
    | none =>
      cases hq : p.queue with
      | nil => exact .inl ⟨.inr ⟨hi, hq⟩, visit_empty hi hq⟩
      | cons folder queue =>
        obtain ⟨ds, hm, ha⟩ := Task.start_starts e user p.stopped folder w
        rw [visit_start hi hq]
        exact .inr ⟨_, ds, _, .begins hi hq hm ha⟩

theorem Turns.acts {e : Env τ ς} {user : User} {p p' : Pool} {w w' : World τ ς} {folder : FolderId}
    {ds : List Event} {move : Move} (h : Turns e user p w folder ds move p' w') : w.Acts e ds w' := by
  cases h with
  | goesOn _ _ ha => exact ha
  | begins _ _ _ ha => exact ha

theorem Turns.leads {e : Env τ ς} {user : User} {p p' : Pool} {w w' : World τ ς} {folder : FolderId}
    {ds : List Event} {move : Move} (h : Turns e user p w folder ds move p' w') : w.Leads e ds w' := h.acts.leads

theorem follow_induction {e : Env τ ς} {user : User} {P : Pool → World τ ς → Prop}
    (step : ∀ {p w folder ds move p' w'}, P p w → Turns e user p w folder ds move p' w' → P p' w') {p : Pool}
    {w : World τ ς} (h : P p w) (schedule : List Nat) :
    P (follow e user schedule (p, w)).1 (follow e user schedule (p, w)).2 := by
  induction schedule generalizing p w with
  | nil => exact h
  | cons i schedule ih =>
    have hnext : P (visit e user i (p, w)).1 (visit e user i (p, w)).2 := by
      rcases visit_cases e user i p w with ⟨-, hrest⟩ | ⟨folder, ds, move, ht⟩
      · rw [hrest]
        exact h
      · exact step h ht
    exact ih hnext

theorem follow_acts (e : Env τ ς) (user : User) (schedule : List Nat) (p : Pool) (w : World τ ς) :
    ∃ ds, w.Acts e ds (follow e user schedule (p, w)).2 := by
  refine follow_induction (P := fun _ v => ∃ ds, w.Acts e ds v) ?_ ⟨[], .refl⟩ schedule
  rintro p v folder ds' move p' v' ⟨ds, ha⟩ ht
  exact ⟨ds ++ ds', ha.trans ht.acts⟩

/-- Nothing moves in an idle pool. -/
theorem follow_of_idle {e : Env τ ς} {user : User} {p : Pool} (hi : p.idle = true) (w : World τ ς)
    (schedule : List Nat) :
    follow e user schedule (p, w) = (p, w) := by
  obtain ⟨hq, ha⟩ := idle_iff.mp hi
  have hvisit : ∀ i, visit e user i (p, w) = (p, w) := by
    intro i
    cases hslot : p.slots[i]? with
    | none => exact visit_absent hslot
    | some x =>
      cases x with
      | none => exact visit_empty hslot hq
      | some task =>
        have hmem : task ∈ p.active := List.mem_filterMap.mpr ⟨_, List.mem_of_getElem? hslot, rfl⟩
        rw [ha] at hmem
        cases hmem
  induction schedule with
  | nil => rfl
  | cons i schedule ih =>
    have hcons : follow e user (i :: schedule) (p, w) = follow e user schedule (visit e user i (p, w)) := rfl
    rw [hcons, hvisit]
    exact ih

theorem slots_length_follow (e : Env τ ς) (user : User) (schedule : List Nat) (p : Pool) (w : World τ ς) :
    (follow e user schedule (p, w)).1.slots.length = p.slots.length := by
  have hstep : ∀ {q : Pool} {u : World τ ς} {folder ds move q' u'}, q.slots.length = p.slots.length →
      Turns e user q u folder ds move q' u' → q'.slots.length = p.slots.length := by
    intro q u folder ds move q' u' hq ht
    cases ht with
    | goesOn _ _ _ => rw [slots_length_settle, hq]
    | begins _ _ _ _ => rw [slots_length_settle, hq]
  exact follow_induction (P := fun q _ => q.slots.length = p.slots.length) hstep rfl schedule

/-- A pool with the census of its folders. -/
structure Inv (e : Env τ ς) (user : User) (w₀ : World τ ς) (folders : List FolderId) (ds : List Event) (p : Pool)
    (w : World τ ς) (ends : Ends) : Prop where
  leads : w₀.Leads e ds w
  census : Census e user w₀ folders ds [] p.queue p.active ends
  took : p.Took (ends.map (·.2))

namespace Inv

variable {e : Env τ ς} {user : User} {w₀ w : World τ ς} {folders : List FolderId} {ds : List Event} {p : Pool}
  {ends : Ends}

theorem ofFolders (user : User) (workers : Nat) (hl : w₀.Leads e ds w) (hn : folders.Nodup) (hq : Quiet ds) :
    Inv e user w₀ folders ds (ofFolders workers folders) w [] where
  leads := hl
  census :=
    { parts := by simp [Pool.ofFolders, Pool.active]
      nodup := hn
      waiting := fun f _ => ⟨hq.exchanges user f, hq.savedTokens user f⟩
      active := by simp [Pool.ofFolders, Pool.active]
      ended := by simp
      elsewhere := fun u f _ => ⟨hq.exchanges u f, hq.savedTokens u f⟩
      savedWatermarks := hq.savedWatermarks }
  took := ⟨rfl, rfl⟩

theorem not_ended {p' : Pool} {w' : World τ ς} {folder : FolderId} {ds' : List Event} {move : Move}
    (h : Inv e user w₀ folders ds p w ends) (ht : Turns e user p w folder ds' move p' w') :
    ∀ x ∈ ends, x.1 ≠ folder := by
  refine h.census.not_ended ?_
  cases ht with
  | goesOn hi _ _ => exact .inr (List.mem_map_of_mem (List.mem_filterMap.mpr ⟨_, List.mem_of_getElem? hi, rfl⟩))
  | begins _ hq _ _ => exact .inl (by simp [hq])

/-- One turn: the deeds of it are about the folder that moves, and the census goes on. -/
theorem turn {p' : Pool} {w' : World τ ς} {folder : FolderId} {ds' : List Event} {move : Move}
    (h : Inv e user w₀ folders ds p w ends) (ht : Turns e user p w folder ds' move p' w') :
    About user folder ds' ∧ Inv e user w₀ folders (ds ++ ds') p' w' (ends ++ move.ends folder) := by
  cases ht with
  | @goesOn i task _ _ _ hi hm ha =>
    obtain ⟨rest, hactive, hsettle⟩ := active_settle hi
    have hc : Census e user w₀ folders ds [] p.queue (task :: rest) ends := h.census.perm_active hactive
    obtain ⟨about, hs⟩ := hm.stands h.leads (hc.active task List.mem_cons_self)
    refine ⟨about, h.leads.trans ha.leads, ?_, ?_⟩
    · rw [queue_settle]
      exact (hc.hold_active.release about hs).perm_active (hsettle _).symm
    · simpa using h.took.settle i task.paging.folder _
  | @begins i _ queue _ _ _ hi hq hm ha =>
    obtain ⟨rest, hactive, hsettle⟩ := active_settle (p := { p with queue }) hi
    have hc : Census e user w₀ folders ds [] (folder :: queue) rest ends := (hq ▸ h.census).perm_active hactive
    obtain ⟨hx, ht⟩ := hc.waiting folder List.mem_cons_self
    obtain ⟨about, hs⟩ := hm.stands h.leads ht
    refine ⟨about, h.leads.trans ha.leads, ?_, ?_⟩
    · rw [queue_settle]
      exact (hc.hold_queue.release about (by simpa [hx, ht] using hs)).perm_active (hsettle _).symm
    · simpa using Took.settle (p := { p with queue }) h.took i folder _

theorem follow (h : Inv e user w₀ folders ds p w ends) (schedule : List Nat) :
    ∃ ds' ends', Inv e user w₀ folders (ds ++ ds') (Pool.follow e user schedule (p, w)).1
      (Pool.follow e user schedule (p, w)).2 (ends ++ ends') := by
  refine follow_induction (P := fun p w => ∃ ds' ends', Inv e user w₀ folders (ds ++ ds') p w (ends ++ ends')) ?_
    ⟨[], [], by simpa using h⟩ schedule
  rintro p w folder ds₂ move p' w' ⟨ds₁, ends₁, h₁⟩ ht
  exact ⟨ds₁ ++ ds₂, ends₁ ++ move.ends folder, by simpa using (h₁.turn ht).2⟩

end Inv

end Pool

end MailboxSync
