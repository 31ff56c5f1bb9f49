import MailboxSync.Proofs.Likeness
import MailboxSync.Proofs.Stores

/-!
# One store for another

Progress in a database is progress in memory.

* `Access` — one access to stores, and what comes of it;
* `Database.Mirrors` — a database holds what a memory holds, a watermark as the text of its instant.  Every access
  comes to the same on both and keeps this (`Mirrors.access`);
* `Job`, `Site.work` — everything that can be done with an engine and its stores: accesses, opening the stores anew,
  runs for one user or many, polls of a worker, each run with a transport, a configuration, a clock and a cancel event
  of its own;
* `Database.mirrored` — any series of jobs comes to the same, whichever of the two stores it is done with.
-/

namespace MailboxSync

open Journal

/-! ## Accesses -/

/-- An access to stores. -/
inductive Access where
  | getToken (user : User) (folder : FolderId)
  | putToken (user : User) (folder : FolderId) (token : Token)
  | getWatermark (user : User)
  | putWatermark (user : User) (stamp : Stamp)
  deriving Repr

/-- What an access gives. -/
inductive Access.Answer where
  | token (token : Token)
  | watermark (instant : Instant)
  | written
  deriving DecidableEq, Repr

/-- What an access comes to, and the stores after it. -/
def Access.perform {ς : Type} (s : Stores ς) (p : ς) : Access → Except Fault Access.Answer × ς
  | .getToken user folder => ((s.token p user folder).map fun r => .token r.1, p)
  | .putToken user folder token =>
    match s.saveToken p user folder token with
    | .error fault => (.error fault, p)
    | .ok (p, _) => (.ok .written, p)
  | .getWatermark user => ((s.watermark p user).map fun r => .watermark r.1, p)
  | .putWatermark user stamp =>
    match s.saveWatermark p user stamp with
    | .error fault => (.error fault, p)
    | .ok (p, _) => (.ok .written, p)

theorem Access.perform_error {ς : Type} {s : Stores ς} {p : ς} {a : Access} {fault : Fault}
    (h : (a.perform s p).1 = .error fault) : (a.perform s p).2 = p := by
  cases a with
  | getToken user folder => rfl
  | putToken user folder token =>
    unfold perform at h ⊢
    dsimp only at h ⊢
    split at h
    · rfl
    · cases h
  | getWatermark user => rfl
  | putWatermark user stamp =>
    unfold perform at h ⊢
    dsimp only at h ⊢
    split at h
    · rfl
    · cases h

namespace Likeness

variable {τ τ' ς ς' : Type} {R : Likeness τ τ' ς ς'}

/-- Accesses about users, folders and tokens that are compared. -/
inductive Allows (R : Likeness τ τ' ς ς') : Access → Prop
  | getToken {user : User} {folder : FolderId} (hu : R.user user) (hf : R.folder folder) :
    Allows R (.getToken user folder)
  | putToken {user : User} {folder : FolderId} {token : Token} (hu : R.user user) (hf : R.folder folder)
    (ht : R.token token) : Allows R (.putToken user folder token)
  | getWatermark {user : User} (hu : R.user user) : Allows R (.getWatermark user)
  | putWatermark {user : User} (hu : R.user user) (stamp : Stamp) : Allows R (.putWatermark user stamp)

/-- An access comes to the same on stores whose accesses do. -/
theorem access {s : Stores ς} {s' : Stores ς'} (hs : R.Accesses s s') {a : Access} (ha : R.Allows a)
    {p : ς} {p' : ς'} (hp : R.stores p p') :
    (a.perform s' p').1 = (a.perform s p).1 ∧ R.stores (a.perform s p).2 (a.perform s' p').2 := by
  cases ha with
  | getToken hu hf =>
    obtain ⟨fault, hx, hx'⟩ | ⟨t, t', notes, notes', hx, hx', rfl, -⟩ := (hs.token hp hu hf).cases
    · exact ⟨by simp only [Access.perform, hx, hx', Except.map], hp⟩
    · exact ⟨by simp only [Access.perform, hx, hx', Except.map], hp⟩
  | putToken hu hf ht =>
    obtain ⟨fault, hx, hx'⟩ | ⟨q, q', notes, notes', hx, hx', hq⟩ := (hs.saveToken hp hu hf ht).cases
    · simpa only [Access.perform, hx, hx', true_and] using hp
    · simpa only [Access.perform, hx, hx', true_and] using hq
  | getWatermark hu =>
    obtain ⟨fault, hx, hx'⟩ | ⟨i, i', notes, notes', hx, hx', rfl⟩ := (hs.watermark hp hu).cases
    · exact ⟨by simp only [Access.perform, hx, hx', Except.map], hp⟩
    · exact ⟨by simp only [Access.perform, hx, hx', Except.map], hp⟩
  | putWatermark hu stamp =>
    obtain ⟨fault, hx, hx'⟩ | ⟨q, q', notes, notes', hx, hx', hq⟩ := (hs.saveWatermark stamp hp hu).cases
    · simpa only [Access.perform, hx, hx', true_and] using hp
    · simpa only [Access.perform, hx, hx', true_and] using hq

end Likeness

/-! ## A database and a memory -/

namespace Database

/-- A database that holds what a memory holds, watermarks as text. -/
structure Mirrors (m : Memory) (d : Database) : Prop where
  tokens : ∃ t, d.tokens = some t ∧ ∀ key, t.get? key = m.tokens.get? key
  watermarks : ∃ t, d.watermarks = some t ∧ ∀ user, t.get? user = (m.watermarks.get? user).map Iso.ofInstant

namespace Mirrors

variable {m : Memory} {d : Database}

theorem fresh : Mirrors {} {} := ⟨⟨{}, rfl, fun _ => rfl⟩, ⟨{}, rfl, fun _ => rfl⟩⟩

theorem ensure (h : Mirrors m d) : Mirrors m d.ensure := by
  obtain ⟨⟨t, ht, heq⟩, ⟨u, hu, heq'⟩⟩ := h
  exact ⟨⟨t, by simp [Database.ensure, ht], heq⟩, ⟨u, by simp [Database.ensure, hu], heq'⟩⟩

theorem token (h : Mirrors m d) (user : User) (folder : FolderId) :
    Agree (fun token token' => token = token' ∧ True) (Memory.stores.token m user folder)
      (stores.token d user folder) := by
  obtain ⟨t, ht, heq⟩ := h.tokens
  simp only [Memory.stores, TokenTable.token, stores, token?, tokenTable, ht, Except.map, heq]
  cases m.tokens.get? (user, folder) with
  | none => exact .done ⟨rfl, trivial⟩ _ _
  | some token => exact .done ⟨rfl, trivial⟩ _ _

theorem saveToken (h : Mirrors m d) (user : User) (folder : FolderId) (token : Token) :
    Agree Mirrors (Memory.stores.saveToken m user folder token) (stores.saveToken d user folder token) := by
  obtain ⟨t, ht, heq⟩ := h.tokens
  simp only [Memory.stores, stores, putToken, tokenTable, ht, Except.map]
  refine .done ⟨⟨_, rfl, fun key => ?_⟩, h.watermarks⟩ _ _
  rw [Table.get?_put, Table.get?_put, heq]

theorem watermark (h : Mirrors m d) (user : User) :
    Agree (· = ·) (Memory.stores.watermark m user) (stores.watermark d user) := by
  obtain ⟨t, ht, heq⟩ := h.watermarks
  cases hm : m.watermarks.get? user with
  | none =>
    have hstored : t.get? user = none := by rw [heq, hm]; rfl
    simp only [Memory.stores, WatermarkTable.watermark, stores, watermark?, watermarkTable, ht, hm, hstored]
    exact .done rfl _ _
  | some i =>
    have hstored : t.get? user = some (Iso.ofInstant i) := by rw [heq, hm]; rfl
    rw [watermark_eq ht hstored (Iso.instant?_ofInstant i)]
    simp only [Memory.stores, WatermarkTable.watermark, hm]
    exact .done rfl _ _

theorem saveWatermark (h : Mirrors m d) (user : User) (stamp : Stamp) :
    Agree Mirrors (Memory.stores.saveWatermark m user stamp) (stores.saveWatermark d user stamp) := by
  obtain ⟨t, ht, heq⟩ := h.watermarks
  simp only [Memory.stores, WatermarkTable.save, stores]
  cases stamp.toInstant with
  | error fault => exact .refused fault
  | ok i =>
    simp only [putWatermarkText, watermarkTable, ht, Except.map]
    refine .done ⟨h.tokens, ⟨_, rfl, fun u => ?_⟩⟩ _ _
    rw [Table.get?_put, Table.get?_put, heq]
    split <;> rfl

end Mirrors

/-- A database in place of a memory, the service being the same. -/
def likeness (τ : Type) : Likeness τ τ Memory Database where
  remote := (· = ·)
  stores := Mirrors
  view_trimmed _ _ h := congrArg _ h

theorem accesses (τ : Type) : (likeness τ).Accesses Memory.stores stores where
  token h _ _ := h.token _ _
  saveToken h _ _ _ := h.saveToken _ _ _
  watermark h _ := h.watermark _
  saveWatermark stamp h _ := h.saveWatermark _ stamp

theorem transports {τ : Type} (t : Transport τ) : (likeness τ).Transports t t where
  view h _ := by cases h; rfl
  tells {s s' user request} _ _ := by
    rcases (t.send s user request).1.outcome with _ | _ | ms | ms
    · trivial
    · trivial
    · exact fun _ _ _ _ => trivial
    · exact fun _ _ _ _ => trivial
  cancels h _ _ := by cases h; rfl
  remote h _ := by cases h; rfl

end Database

/-! ## Jobs -/

/-- A place where progress is kept: how it is accessed, and what closing and opening it does. -/
structure Place (ς : Type) where
  stores : Stores ς
  reopen : ς → ς

def Memory.place : Place Memory := ⟨Memory.stores, id⟩

def Database.place : Place Database := ⟨Database.stores, Database.ensure⟩

/-- What a run is given besides its stores. -/
structure Setting (τ : Type) where
  transport : Transport τ
  config : Config := {}
  clock : Instant := .epoch

def Setting.env {τ ς : Type} (x : Setting τ) (place : Place ς) : Env τ ς :=
  { transport := x.transport, stores := place.stores, config := x.config, clock := x.clock }

/-- What can be done with an engine and its stores. -/
inductive Job (τ : Type) where
  | access (access : Access)
  | reopen
  /-- The service changes by itself. -/
  | change (next : τ → τ)
  | syncUser (setting : Setting τ) (cancel : Option Bool) (roots : List FolderId) (now : Option Stamp) (user : User)
  | syncUsers (setting : Setting τ) (cancel : Option Bool) (roots : List FolderId) (now : Option Stamp)
    (users : List User)
  | hire (worker : Worker)
  | stop
  | poll (setting : Setting τ)

/-- What comes of a job; of a run, also its requests with the replies to them and what it wrote. -/
inductive Job.Outcome where
  | accessed (result : Except Fault Access.Answer)
  | done
  | reported (result : Except Fault Report) (deeds : List Event)
  | polled (reports : List Report) (deeds : List Event)

/-- A service, stores and a worker. -/
structure Bench (τ ς : Type) where
  remote : τ
  stores : ς
  worker : Worker

namespace Bench

variable {τ ς : Type}

def world (b : Bench τ ς) (cancel : Option Bool) : World τ ς := { remote := b.remote, stores := b.stores, cancel }

def after (b : Bench τ ς) (w : World τ ς) : Bench τ ς := { b with remote := w.remote, stores := w.stores }

/-- Does a job; nothing when `fuel` does not suffice for a run in it. -/
def perform (place : Place ς) (fuel : Nat) (b : Bench τ ς) : Job τ → Option (Job.Outcome × Bench τ ς)
  | .access a =>
    let (result, stores) := a.perform place.stores b.stores
    some (.accessed result, { b with stores })
  | .reopen => some (.done, { b with stores := place.reopen b.stores })
  | .change next => some (.done, { b with remote := next b.remote })
  | .syncUser setting cancel roots now user =>
    (MailboxSync.syncUser (setting.env place) fuel roots now user (b.world cancel)).map fun (result, w) =>
      (.reported result (deeds w.events), b.after w)
  | .syncUsers setting cancel roots now users =>
    (MailboxSync.syncUsers (setting.env place) fuel roots now users (b.world cancel)).map fun (reports, w) =>
      (.polled reports (deeds w.events), b.after w)
  | .hire worker => some (.done, { b with worker })
  | .stop => some (.done, { b with worker := b.worker.stop })
  | .poll setting =>
    (b.worker.poll (setting.env place) fuel (b.world none)).map fun (reports, worker, w) =>
      (.polled reports (deeds w.events), { b.after w with worker })

def work (place : Place ς) (fuel : Nat) : Bench τ ς → List (Job τ) → Option (List Job.Outcome × Bench τ ς)
  | b, [] => some ([], b)
  | b, job :: jobs => do
    let (outcome, b) ← b.perform place fuel job
    let (outcomes, b) ← work place fuel b jobs
    some (outcome :: outcomes, b)

end Bench

namespace Database

variable {τ : Type}

/-- Benches that differ in where progress is kept. -/
structure Alike (b : Bench τ Memory) (b' : Bench τ Database) : Prop where
  remote : b'.remote = b.remote
  stores : Mirrors b.stores b'.stores
  worker : b'.worker = b.worker

theorem envs (setting : Setting τ) : (likeness τ).Envs (setting.env Memory.place) (setting.env place) :=
  ⟨transports _, accesses τ, rfl, rfl⟩

theorem Alike.world {b : Bench τ Memory} {b' : Bench τ Database} (h : Alike b b') (cancel : Option Bool) :
    (likeness τ).Worlds (b.world cancel) (b'.world cancel) :=
  ⟨h.remote.symm, h.stores, rfl, rfl⟩

theorem Alike.after {b : Bench τ Memory} {b' : Bench τ Database} (h : Alike b b') {w : World τ Memory}
    {w' : World τ Database} (hw : (likeness τ).Worlds w w') : Alike (b.after w) (b'.after w') :=
  ⟨hw.remote.symm, hw.stores, h.worker⟩

theorem deeds_eq {w : World τ Memory} {w' : World τ Database} (hw : (likeness τ).Worlds w w') :
    deeds w'.events = deeds w.events := by
  have h := hw.deeds
  have hid : Event.viewed (likeness τ).view = id := funext fun ev => ev.viewed_id
  rwa [hid, List.map_id, List.map_id] at h

/-- One job comes to the same. -/
theorem Alike.perform {b : Bench τ Memory} {b' : Bench τ Database} (h : Alike b b') (fuel : Nat) (job : Job τ) :
    Option.Rel (fun x x' => x'.1 = x.1 ∧ Alike x.2 x'.2) (b.perform Memory.place fuel job)
      (b'.perform place fuel job) := by
  cases job with
  | access a =>
    have ha : (likeness τ).Allows a := by cases a <;> constructor <;> trivial
    obtain ⟨hresult, hstores⟩ := Likeness.access (accesses τ) ha h.stores
    exact .some ⟨congrArg Job.Outcome.accessed hresult, ⟨h.remote, hstores, h.worker⟩⟩
  | reopen => exact .some ⟨rfl, ⟨h.remote, h.stores.ensure, h.worker⟩⟩
  | change next => exact .some ⟨rfl, ⟨congrArg next h.remote, h.stores, h.worker⟩⟩
  | syncUser setting cancel roots now user =>
    have hrun := Likeness.syncUser (envs setting) fuel (show (likeness τ).user user from trivial)
      (fun root (_ : root ∈ roots) => trivial) now (h.world cancel)
    unfold Bench.perform
    dsimp only
    generalize MailboxSync.syncUser (setting.env Memory.place) fuel roots now user (b.world cancel) = r at hrun
    generalize MailboxSync.syncUser (setting.env place) fuel roots now user (b'.world cancel) = r' at hrun
    cases hrun with
    | none => exact .none
    | some hsame =>
      obtain ⟨result, w, w', rfl, rfl, -, hw⟩ := hsame.elim
      exact .some ⟨congrArg _ (deeds_eq hw), h.after hw⟩
  | syncUsers setting cancel roots now users =>
    have hrun := Likeness.syncUsers (envs setting) fuel (fun user (_ : user ∈ users) => trivial)
      (fun root (_ : root ∈ roots) => trivial) now (h.world cancel)
    unfold Bench.perform
    dsimp only
    generalize MailboxSync.syncUsers (setting.env Memory.place) fuel roots now users (b.world cancel) = r at hrun
    generalize MailboxSync.syncUsers (setting.env place) fuel roots now users (b'.world cancel) = r' at hrun
    cases hrun with
    | none => exact .none
    | some hsame =>
      obtain ⟨reports, w, w', rfl, rfl, -, hw⟩ := hsame.elim
      exact .some ⟨congrArg _ (deeds_eq hw), h.after hw⟩
  | hire worker => exact .some ⟨rfl, ⟨h.remote, h.stores, rfl⟩⟩
  | stop => exact .some ⟨rfl, ⟨h.remote, h.stores, congrArg Worker.stop h.worker⟩⟩
  | poll setting =>
    have hrun := Likeness.poll (envs setting) fuel b.worker (fun _ _ => trivial) (fun _ _ => trivial) (h.world none)
    unfold Bench.perform
    dsimp only
    rw [h.worker]
    generalize b.worker.poll (setting.env Memory.place) fuel (b.world none) = r at hrun
    generalize b.worker.poll (setting.env place) fuel (b'.world none) = r' at hrun
    cases hrun with
    | none => exact .none
    | @some x x' hpolled =>
      obtain ⟨reports, x⟩ := x
      obtain ⟨reports', x'⟩ := x'
      obtain ⟨rfl, hsame⟩ := hpolled
      obtain ⟨worker, w, w', rfl, rfl, -, hw⟩ := hsame.elim
      exact .some ⟨congrArg _ (deeds_eq hw), ⟨hw.remote.symm, hw.stores, rfl⟩⟩

/-- Jobs one after another come to the same. -/
theorem Alike.work {b : Bench τ Memory} {b' : Bench τ Database} (h : Alike b b') (fuel : Nat) (jobs : List (Job τ)) :
    Option.Rel (fun x x' => x'.1 = x.1 ∧ Alike x.2 x'.2) (b.work Memory.place fuel jobs)
      (b'.work place fuel jobs) := by
  induction jobs generalizing b b' with
  | nil => exact .some ⟨rfl, h⟩
  | cons job jobs ih =>
    have hperform := h.perform fuel job
    unfold Bench.work
    generalize b.perform Memory.place fuel job = r at hperform
    generalize b'.perform place fuel job = r' at hperform
    cases hperform with
    | none => exact .none
    | @some x x' hx =>
      obtain ⟨outcome, b₁⟩ := x
      obtain ⟨outcome', b₁'⟩ := x'
      obtain ⟨rfl, h₁⟩ := hx
      have hwork := ih h₁
      simp only [Option.bind_eq_bind, Option.bind_some]
      generalize b₁.work Memory.place fuel jobs = r at hwork
      generalize b₁'.work place fuel jobs = r' at hwork
      cases hwork with
      | none => exact .none
      | @some y y' hy =>
        obtain ⟨outcomes, b₂⟩ := y
        obtain ⟨outcomes', b₂'⟩ := y'
        obtain ⟨rfl, h₂⟩ := hy
        exact .some ⟨rfl, h₂⟩

theorem watermark_of_saveWatermark {d d' : Database} {user : User} {stamp : Stamp} {notes : List Note}
    (h : stores.saveWatermark d user stamp = .ok (d', notes)) :
    ∃ i t, stamp.toInstant = .ok i ∧ d'.watermarks = some t ∧ t.get? user = some (Iso.ofInstant i) ∧
      stores.watermark d' user = .ok (i, []) := by
  simp only [stores] at h
  cases hs : stamp.toInstant with
  | error fault => simp [hs] at h
  | ok i =>
    cases ht : d.watermarks with
    | none => simp [hs, putWatermarkText, watermarkTable, ht, Except.map] at h
    | some t =>
      simp only [hs, putWatermarkText, watermarkTable, ht, Except.map, Except.ok.injEq, Prod.mk.injEq] at h
      obtain ⟨rfl, -⟩ := h
      have hget : (t.put user (Iso.ofInstant i)).get? user = some (Iso.ofInstant i) := by simp [Table.get?_put]
      exact ⟨i, _, rfl, rfl, hget, watermark_eq rfl hget (Iso.instant?_ofInstant i)⟩

/-- **Progress in a database is progress in memory.**  From fresh stores, whatever is done and however often the stores
are opened anew, both give the same values, faults and reports for the same requests and writes, and end with the same
contents.  An access that fails leaves either store as it was, and what the database keeps of a stamp is a text that
reads back as the stamp's instant. -/
theorem mirrored (fuel : Nat) (remote : τ) (worker : Worker) (jobs : List (Job τ)) :
    Option.Rel (fun x x' => x'.1 = x.1 ∧ Alike x.2 x'.2)
        (Bench.work Memory.place fuel ⟨remote, {}, worker⟩ jobs)
          (Bench.work place fuel ⟨remote, {}, worker⟩ jobs) ∧
      (∀ (a : Access) (m : Memory) (d : Database) (fault : Fault),
        ((a.perform Memory.stores m).1 = .error fault → (a.perform Memory.stores m).2 = m) ∧
          ((a.perform stores d).1 = .error fault → (a.perform stores d).2 = d)) ∧
      ∀ (d d' : Database) (user : User) (stamp : Stamp) (notes : List Note),
        stores.saveWatermark d user stamp = .ok (d', notes) →
          ∃ i t, stamp.toInstant = .ok i ∧ d'.watermarks = some t ∧ t.get? user = some (Iso.ofInstant i) ∧
            stores.watermark d' user = .ok (i, []) :=
  ⟨Alike.work ⟨rfl, .fresh, rfl⟩ fuel jobs, fun _ _ _ _ => ⟨Access.perform_error, Access.perform_error⟩,
    fun _ _ _ _ _ h => watermark_of_saveWatermark h⟩

end Database

end MailboxSync
