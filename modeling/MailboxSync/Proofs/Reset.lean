import MailboxSync.Command.OneShot
import MailboxSync.Proofs.Ownership
import Mathlib.Algebra.BigOperators.Group.List.Lemmas

/-!
# Forgetting users

* `Table.Proper` — a table in which each key stands once;
* `Database.Edited` — the databases that writes of tokens and watermarks and the forgetting of users lead to; both
  tables of such a database are there and proper (`Edited.sound`), so counting counts folders;
* `Database.Forgotten`, `Database.Forgets` — everything that forgetting one user does, and forgetting users one after
  another;
* `Database.Unknown` — a user of whom nothing is kept; a run of one is a run over an empty database (`Unknown.run`);
* `OneShot.reset_starts_afresh` — the command that forgets users does so, and leaves everybody else alone.
-/

namespace MailboxSync

open Journal

/-! ## Tables -/

namespace Table

variable {α β : Type}

/-- Each key stands once. -/
def Proper (t : Table α β) : Prop := (t.entries.map (·.1)).Nodup

/-- The entries whose key is in `p`. -/
def rows (t : Table α β) (p : α → Bool) : List (α × β) := t.entries.filter fun e => p e.1

theorem Proper.eraseIf {t : Table α β} (h : t.Proper) (p : α → Bool) : (t.eraseIf p).Proper :=
  h.sublist (List.filter_sublist.map _)

theorem countIf_eq (t : Table α β) (p : α → Bool) : t.countIf p = (t.rows p).length := List.countP_eq_length_filter

theorem rows_eraseIf (t : Table α β) {p q : α → Bool} (h : ∀ k, q k = true → p k = false) :
    (t.eraseIf p).rows q = t.rows q := by
  unfold rows eraseIf
  rw [List.filter_filter]
  refine List.filter_congr fun e _ => ?_
  cases hq : q e.1 with
  | false => rfl
  | true => simp [h e.1 hq]

variable [DecidableEq α]

theorem keys_putIn (k : α) (v : β) (es : List (α × β)) :
    (putIn k v es).map (·.1) = if k ∈ es.map (·.1) then es.map (·.1) else es.map (·.1) ++ [k] := by
  induction es with
  | nil => rfl
  | cons e es ih =>
    obtain ⟨k', v'⟩ := e
    unfold putIn
    by_cases hk : k' = k
    · simp [hk]
    · rw [if_neg hk, List.map_cons, ih]
      by_cases hmem : k ∈ es.map (·.1)
      · simp [hmem]
      · simp [hmem, Ne.symm hk]

theorem Proper.put {t : Table α β} (h : t.Proper) (k : α) (v : β) : (t.put k v).Proper := by
  unfold Proper Table.put at *
  rw [keys_putIn]
  split
  · exact h
  · rename_i hk
    exact List.nodup_append.mpr ⟨h, List.nodup_singleton k, fun a ha b hb heq => hk (by simp_all)⟩

theorem Proper.mem_entries {t : Table α β} (h : t.Proper) {k : α} {v : β} :
    (k, v) ∈ t.entries ↔ t.get? k = some v := by
  obtain ⟨es⟩ := t
  unfold Proper at h
  unfold get?
  induction es with
  | nil => simp [find]
  | cons e es ih =>
    obtain ⟨k', v'⟩ := e
    obtain ⟨hk', hes⟩ := List.nodup_cons.mp h
    unfold find
    by_cases hk : k' = k
    · subst hk
      have habsent : (k', v) ∉ es := fun hmem => hk' (List.mem_map.mpr ⟨_, hmem, rfl⟩)
      simp [habsent, eq_comm]
    · have hne : (k, v) ≠ (k', v') := fun heq => hk (congrArg Prod.fst heq).symm
      rw [if_neg hk, List.mem_cons, or_iff_right hne]
      exact ih hes

theorem get?_eq_none_iff (t : Table α β) (k : α) : t.get? k = none ↔ ∀ e ∈ t.entries, e.1 ≠ k := by
  obtain ⟨es⟩ := t
  unfold get?
  induction es with
  | nil => simp [find]
  | cons e es ih =>
    obtain ⟨k', v⟩ := e
    unfold find
    by_cases hk : k' = k
    · simp [hk]
    · simpa [hk] using ih

theorem rows_eq_nil_iff (t : Table α β) (p : α → Bool) :
    t.rows p = [] ↔ ∀ k, p k = true → t.get? k = none := by
  simp only [rows, List.filter_eq_nil_iff, get?_eq_none_iff]
  constructor
  · rintro h k hk e he rfl
    exact h e he hk
  · intro h e he hp
    exact h e.1 hp e he rfl

end Table

namespace Database

/-! ## Databases that were edited -/

/-- What may be done to a database. -/
inductive Edit where
  | putToken (user : User) (folder : FolderId) (token : Token)
  | putWatermark (user : User) (stamp : Stamp)
  | deleteUser (user : User)

def Edit.perform (d : Database) : Edit → Except Fault Database
  | putToken user folder token => d.putToken user folder token
  | putWatermark user stamp => d.putWatermark user stamp
  | deleteUser user => (d.deleteUser user).map (·.2.1)

/-- The databases edits lead to from an empty one. -/
inductive Edited : Database → Prop
  | empty : Edited {}
  | edit {d d' : Database} (h : Edited d) (edit : Edit) (hd : edit.perform d = .ok d') : Edited d'

/-- Both tables are there and proper. -/
structure Sound (d : Database) : Prop where
  tokens : ∃ t, d.tokens = some t ∧ t.Proper
  watermarks : ∃ t, d.watermarks = some t ∧ t.Proper

variable {d d' : Database} {user : User}

/-- All rows of a user. -/
def rowsOf (d : Database) (user : User) :
    Option (List ((User × FolderId) × Token)) × Option (List (User × String)) :=
  (d.tokens.map (·.rows fun k => k.1 = user), d.watermarks.map (·.rows (· = user)))

/-- The users that have tokens. -/
def owners (d : Database) : List User := ((d.tokens.getD {}).entries.map (·.1.1)).dedup

/-- The number of all tokens is the sum of the numbers of the tokens of those who have some. -/
def AddsUp (d : Database) : Prop :=
  ∃ counts : User → Nat, (∀ u, d.count (some u) = .ok (counts u)) ∧ d.count none = .ok (d.owners.map counts).sum

/-- Nothing is kept of a user. -/
structure Unknown (d : Database) (user : User) : Prop where
  token : ∀ folder, d.token? user folder = .ok none
  watermark : d.watermark? user = .ok none

/-- Everything that forgetting a user does, who had tokens for `n` folders. -/
structure Forgotten (d : Database) (user : User) (n : Nat) (d' : Database) : Prop where
  deleted : ∃ notes, d.deleteUser user = .ok (n, d', notes)
  counted : d.count (some user) = .ok n
  folders : ∃ folders : List FolderId, folders.Nodup ∧ folders.length = n ∧
    ∀ f, f ∈ folders ↔ ∃ token, d.token? user f = .ok (some token)
  unknown : d'.Unknown user
  others : ∀ u, u ≠ user → d'.rowsOf u = d.rowsOf u

/-- Users are forgotten one after another, each with the number of folders there were when its turn came. -/
inductive Forgets : Database → List User → List (User × Nat) → Database → Prop
  | nil (d : Database) : Forgets d [] [] d
  | cons {d d₁ d₂ : Database} {user : User} {users : List User} {n : Nat} {done : List (User × Nat)}
    (h : Forgotten d user n d₁) (rest : Forgets d₁ users done d₂) :
    Forgets d (user :: users) ((user, n) :: done) d₂

namespace Sound

/-- A user's tokens are counted folder by folder. -/
theorem folders (h : d.Sound) (user : User) : ∃ folders : List FolderId, folders.Nodup ∧
    d.count (some user) = .ok folders.length ∧
      ∀ f, f ∈ folders ↔ ∃ token, d.token? user f = .ok (some token) := by
  obtain ⟨t, ht, hproper⟩ := h.tokens
  refine ⟨(t.rows fun k => k.1 = user).map (·.1.2), ?_, ?_, fun f => ?_⟩
  · -- keys differ, and the user is the same in all of them
    have hkeys : ((t.rows fun k => k.1 = user).map (·.1)).Nodup := hproper.sublist (List.filter_sublist.map _)
    rw [← Function.comp_def Prod.snd Prod.fst, ← List.map_map]
    refine hkeys.map_on fun k hk k' hk' heq => Prod.ext ?_ heq
    obtain ⟨e, he, rfl⟩ := List.mem_map.mp hk
    obtain ⟨e', he', rfl⟩ := List.mem_map.mp hk'
    have huser : e.1.1 = user := by simpa using (List.mem_filter.mp he).2
    have huser' : e'.1.1 = user := by simpa using (List.mem_filter.mp he').2
    rw [huser, huser']
  · simp [count, tokenTable, ht, Except.map, Table.countIf_eq]
  · have htoken : ∀ token, d.token? user f = .ok (some token) ↔ ((user, f), token) ∈ t.entries := by
      intro token
      rw [hproper.mem_entries]
      simp [token?, tokenTable, ht, Except.map]
    simp only [htoken, Table.rows, List.mem_map, List.mem_filter, decide_eq_true_eq]
    constructor
    · rintro ⟨⟨⟨u, f'⟩, token⟩, ⟨hmem, rfl⟩, rfl⟩
      exact ⟨token, hmem⟩
    · rintro ⟨token, hmem⟩
      exact ⟨((user, f), token), ⟨hmem, rfl⟩, rfl⟩

theorem addsUp (h : d.Sound) : d.AddsUp := by
  obtain ⟨t, ht, -⟩ := h.tokens
  refine ⟨fun u => t.countIf fun k => k.1 = u, fun u => by simp [count, tokenTable, ht, Except.map], ?_⟩
  have hcount : ∀ u, (t.countIf fun k => k.1 = u) = (t.entries.map (·.1.1)).count u := by
    intro u
    rw [List.count, List.countP_map]
    exact List.countP_congr fun e _ => by simp
  have hsum : ((t.entries.map (·.1.1)).dedup.map fun u => t.countIf fun k => k.1 = u).sum = t.size := by
    simp only [hcount, Table.size, List.sum_map_count_dedup_eq_length, List.length_map]
  simp [count, tokenTable, ht, Except.map, owners, hsum]

/-- **Forgetting a user** drops all rows of that user and no others, and gives the number of folders there were. -/
theorem deleteUser (h : d.Sound) (user : User) : ∃ n d', d.Forgotten user n d' ∧ d'.Sound := by
  obtain ⟨t, ht, hproper⟩ := h.tokens
  obtain ⟨m, hm, hproper'⟩ := h.watermarks
  obtain ⟨folders, hnodup, hcount, hmem⟩ := h.folders user
  have hlength : (t.countIf fun k => k.1 = user) = folders.length := by
    simpa [count, tokenTable, ht, Except.map] using hcount
  let d' : Database := ⟨some (t.eraseIf fun k => k.1 = user), some (m.eraseIf fun k => k = user)⟩
  have hdelete : ∃ notes, d.deleteUser user = .ok (folders.length, d', notes) := by
    simp only [Database.deleteUser, tokenTable, watermarkTable, ht, hm, hlength]
    exact ⟨_, rfl⟩
  refine ⟨folders.length, d',
    ⟨hdelete, hcount, ⟨folders, hnodup, rfl, hmem⟩, ⟨fun f => ?_, ?_⟩, fun u hu => ?_⟩,
    ⟨_, rfl, hproper.eraseIf _⟩, ⟨_, rfl, hproper'.eraseIf _⟩⟩
  · simp [d', token?, tokenTable, Except.map, Table.get?_eraseIf]
  · simp [d', watermark?, watermarkTable, Table.get?_eraseIf]
  · simp only [d', rowsOf, ht, hm, Option.map_some]
    rw [Table.rows_eraseIf, Table.rows_eraseIf]
    · intro k hk
      simp only [decide_eq_true_eq] at hk
      simp [hk, hu]
    · intro k hk
      simp only [decide_eq_true_eq] at hk
      simp [hk, hu]

theorem ensure_eq (h : d.Sound) : d.ensure = d := by
  obtain ⟨t, ht, -⟩ := h.tokens
  obtain ⟨m, hm, -⟩ := h.watermarks
  obtain ⟨tokens, watermarks⟩ := d
  simp only at ht hm
  subst ht hm
  rfl

theorem edit (h : d.Sound) (edit : Edit) (hd : edit.perform d = .ok d') : d'.Sound := by
  obtain ⟨t, ht, hproper⟩ := h.tokens
  obtain ⟨m, hm, hproper'⟩ := h.watermarks
  cases edit with
  | putToken user folder token =>
    simp only [Edit.perform, putToken, tokenTable, ht, Except.map, Except.ok.injEq] at hd
    subst hd
    exact ⟨⟨_, rfl, hproper.put _ _⟩, h.watermarks⟩
  | putWatermark user stamp =>
    simp only [Edit.perform, putWatermark, putWatermarkText, watermarkTable, hm, Except.map, Except.ok.injEq] at hd
    subst hd
    exact ⟨h.tokens, ⟨_, rfl, hproper'.put _ _⟩⟩
  | deleteUser user =>
    obtain ⟨n, d₁, hforgotten, hsound⟩ := h.deleteUser user
    obtain ⟨notes, hdelete⟩ := hforgotten.deleted
    simp only [Edit.perform, hdelete, Except.map, Except.ok.injEq] at hd
    subst hd
    exact hsound

theorem deleteUsers (h : d.Sound) (users : List User) : ∃ done d',
    Database.deleteUsers users d = (done, none, d') ∧ Forgets d users done d' ∧ d'.Sound := by
  induction users generalizing d with
  | nil => exact ⟨[], d, rfl, .nil d, h⟩
  | cons user users ih =>
    obtain ⟨n, d₁, hforgotten, hsound⟩ := h.deleteUser user
    obtain ⟨done, d₂, hrun, hforgets, hsound'⟩ := ih hsound
    obtain ⟨notes, hdelete⟩ := hforgotten.deleted
    refine ⟨(user, n) :: done, d₂, ?_, .cons hforgotten hforgets, hsound'⟩
    simp only [Database.deleteUsers, hdelete, hrun]

end Sound

theorem Edited.sound (h : d.Edited) : d.Sound := by
  induction h with
  | empty => exact ⟨⟨{}, rfl, List.nodup_nil⟩, ⟨{}, rfl, List.nodup_nil⟩⟩
  | edit _ edit hd ih => exact ih.edit edit hd

/-! ## What forgetting leaves -/

theorem Forgets.others {users : List User} {done : List (User × Nat)} (h : Forgets d users done d') {u : User}
    (hu : u ∉ users) : d'.rowsOf u = d.rowsOf u := by
  induction h with
  | nil d => rfl
  | cons hf _ ih =>
    obtain ⟨hne, hrest⟩ := not_or.mp (mt List.mem_cons.mpr hu)
    rw [ih hrest, hf.others u hne]

theorem unknown_iff : d.Unknown user ↔ d.rowsOf user = (some [], some []) := by
  unfold rowsOf
  rw [Prod.mk.injEq]
  constructor
  · rintro ⟨htoken, hmark⟩
    constructor
    · cases ht : d.tokens with
      | none => simpa [token?, tokenTable, ht, Except.map] using htoken ""
      | some t =>
        have hnone : ∀ f, t.get? (user, f) = none := by simpa [token?, tokenTable, ht, Except.map] using htoken
        refine congrArg some ((t.rows_eq_nil_iff _).mpr fun k hk => ?_)
        obtain ⟨u, f⟩ := k
        simp only [decide_eq_true_eq] at hk
        rw [hk]
        exact hnone f
    · cases hm : d.watermarks with
      | none => simp [watermark?, watermarkTable, hm] at hmark
      | some m =>
        have hnone : m.get? user = none := by
          simp only [watermark?, watermarkTable, hm] at hmark
          split at hmark
          · assumption
          · split at hmark <;> cases hmark
        refine congrArg some ((m.rows_eq_nil_iff _).mpr fun k hk => ?_)
        simp only [decide_eq_true_eq] at hk
        rw [hk]
        exact hnone
  · rintro ⟨htokens, hmarks⟩
    obtain ⟨t, ht, hrows⟩ := Option.map_eq_some_iff.mp htokens
    obtain ⟨m, hm, hrows'⟩ := Option.map_eq_some_iff.mp hmarks
    rw [Table.rows_eq_nil_iff] at hrows hrows'
    refine ⟨fun f => ?_, ?_⟩
    · simp [token?, tokenTable, ht, Except.map, hrows (user, f) (by simp)]
    · simp [watermark?, watermarkTable, hm, hrows' user (by simp)]

theorem Forgotten.unknown_of_unknown {n : Nat} {u : User} (h : d.Forgotten u n d') (hd : d.Unknown user) :
    d'.Unknown user := by
  by_cases hu : user = u
  · rw [hu]
    exact h.unknown
  · rw [unknown_iff] at hd ⊢
    rw [h.others user hu, hd]

theorem Forgets.unknown {users : List User} {done : List (User × Nat)} (h : Forgets d users done d') {u : User}
    (hu : u ∈ users ∨ d.Unknown u) : d'.Unknown u := by
  induction h with
  | nil d => exact hu.resolve_left (List.not_mem_nil)
  | cons hf _ ih =>
    refine ih ?_
    rcases hu with hu | hu
    · rcases List.mem_cons.mp hu with rfl | hu
      · exact .inr hf.unknown
      · exact .inl hu
    · exact .inr (hf.unknown_of_unknown hu)

theorem Unknown.holding_eq (h : d.Unknown user) (m m' : Memory) :
    Backend.database.holding { memory := m, database := d } user =
      Backend.database.holding { memory := m', database := {} } user := by
  obtain ⟨htokens, hmarks⟩ := Prod.mk.inj (unknown_iff.mp h)
  obtain ⟨t, ht, hrows⟩ := Option.map_eq_some_iff.mp htokens
  obtain ⟨w, hw, hrows'⟩ := Option.map_eq_some_iff.mp hmarks
  rw [Table.rows_eq_nil_iff] at hrows hrows'
  have hnone : ∀ f, t.get? (user, f) = none := fun f => hrows (user, f) (by simp)
  have hnone' : w.get? user = none := hrows' user (by simp)
  simp only [Backend.holding, Backend.database, ht, hw, Option.map_some, hnone, hnone']
  rfl

/-! ## Runs of a forgotten user -/

/-- Two databases that keep the same of one user, and a service that is the same on both sides. -/
def likenessFor (τ : Type) (user : User) : Likeness τ τ Progress Progress where
  user := (· = user)
  remote := (· = ·)
  stores p p' := Backend.database.holding p' user = Backend.database.holding p user
  view_trimmed _ _ h := congrArg _ h

theorem likenessFor_transports {τ : Type} (t : Transport τ) : (likenessFor τ user).Transports t t where
  view h _ := by cases h; rfl
  tells _ _ := Likeness.tells_of_all (fun _ => trivial) (fun _ => trivial) _
  cancels h _ _ := by cases h; rfl
  remote h _ := by cases h; rfl

/-- **A run of a user of whom nothing is kept is a run over an empty database**: the same requests and replies, the same
writes and the same report, and the same is kept of the user afterwards. -/
theorem Unknown.run {τ : Type} {e : Env τ Progress} (h : d.Unknown user) (he : e.stores = Backend.database.stores)
    (m m' : Memory) (fuel : Nat) (roots : List FolderId) (now : Option Stamp) (s : τ) (cancel : Option Bool) :
    Option.Rel
      (fun (result, w) (result', w') => result' = result ∧ deeds w'.events = deeds w.events ∧
        w'.remote = w.remote ∧ Backend.database.holding w'.stores user = Backend.database.holding w.stores user)
      (syncUser e fuel roots now user { remote := s, stores := { memory := m', database := {} }, cancel })
      (syncUser e fuel roots now user { remote := s, stores := { memory := m, database := d }, cancel }) := by
  have hstores : e.stores = Backend.database.stores.refusing [] := by rw [Stores.refusing_nil, he]
  have henv : (likenessFor τ user).Envs e e := by
    refine ⟨likenessFor_transports _, ?_, rfl, rfl⟩
    rw [hstores]
    exact Likeness.accesses_of_holding (fun h => h) (fun _ => trivial) Iff.rfl []
  have hw : (likenessFor τ user).Worlds { remote := s, stores := { memory := m', database := {} }, cancel }
      { remote := s, stores := { memory := m, database := d }, cancel } := ⟨rfl, h.holding_eq m m', rfl, rfl⟩
  have hrun := Likeness.syncUser henv fuel (show (likenessFor τ user).user user from rfl)
    (fun root (_ : root ∈ roots) => trivial) now hw
  generalize syncUser e fuel roots now user { remote := s, stores := { memory := m', database := {} }, cancel } = r
    at hrun ⊢
  generalize syncUser e fuel roots now user { remote := s, stores := { memory := m, database := d }, cancel } = r'
    at hrun ⊢
  cases hrun with
  | none => exact .none
  | some hsame =>
    obtain ⟨result, w₁, w₁', rfl, rfl, -, hw₁⟩ := hsame.elim
    have hseen := hw₁.seen
    rw [Likeness.shown_of_view _ rfl, Likeness.shown_of_view _ rfl] at hseen
    exact .some ⟨rfl, by simpa [likenessFor] using hseen, hw₁.remote.symm, hw₁.stores⟩

end Database

/-! ## The command -/

namespace OneShot

/-- **Forgetting users is a fresh start for exactly those users.**  Over a database that edits have led to, the command
tells of each user named how many folders there were when its turn came, and forgets that user; nothing is left of those
named, and nothing changes about anybody else.  Before and after, all tokens are counted user by user.  A run of a user
named comes to what it comes to over an empty database: for every service, it makes the same requests and the same
report. -/
theorem reset_starts_afresh {τ : Type} (site : Site τ) (fuel : Nat) {settings : Settings} {a : Arguments}
    {w : World τ Progress} {threshold : Threshold} (hlevel : settings.threshold = .ok threshold)
    (hbackend : settings.backend = .sqlite) (hreset : a.reset = true) (husers : a.users ≠ [])
    (hd : w.stores.database.Edited) :
    ∃ done w',
      obey site fuel settings a w =
        some (.ok { exitCode := 0, lines := done.map fun (user, folders) => .forgot user folders }, w') ∧
      w.stores.database.Forgets a.users done w'.stores.database ∧
      (∀ u ∈ a.users, w'.stores.database.Unknown u) ∧
      (∀ u, u ∉ a.users → w'.stores.database.rowsOf u = w.stores.database.rowsOf u) ∧
      w.stores.database.AddsUp ∧ w'.stores.database.AddsUp ∧
      ∀ u ∈ a.users, ∀ {σ : Type} (e : Env σ Progress), e.stores = Backend.database.stores →
        ∀ (fuel : Nat) (roots : List FolderId) (now : Option Stamp) (s : σ) (cancel : Option Bool),
          Option.Rel
            (fun (result, v) (result', v') => result' = result ∧ deeds v'.events = deeds v.events ∧
              v'.remote = v.remote ∧
              Backend.database.holding v'.stores u = Backend.database.holding v.stores u)
            (syncUser e fuel roots now u { remote := s, stores := { database := {} }, cancel })
            (syncUser e fuel roots now u { remote := s, stores := w'.stores, cancel }) := by
  have hsound := hd.sound
  obtain ⟨done, d', hrun, hforgets, hsound'⟩ := hsound.deleteUsers a.users
  have hobey : obey site fuel settings a w =
      some (.ok { exitCode := 0, lines := done.map fun (user, folders) => .forgot user folders },
        { w with stores := { w.stores with database := d' } }) := by
    have hnamed : a.users.isEmpty = false := by simpa using husers
    simp [obey, hlevel, hnamed, hreset, forget, hbackend, hsound.ensure_eq, hrun]
  refine ⟨done, _, hobey, hforgets, fun u hu => hforgets.unknown (.inl hu), fun u hu => hforgets.others hu,
    hsound.addsUp, hsound'.addsUp, fun u hu σ e he fuel roots now s cancel => ?_⟩
  have hunknown : d'.Unknown u := hforgets.unknown (.inl hu)
  exact hunknown.run he w.stores.memory {} fuel roots now s cancel

/-- Two folders of `u`, one of them saved twice, a watermark of `u`, and a folder of `v`. -/
def threeFolders : Database where
  tokens := some ⟨[(("u", "a"), "a@2"), (("v", "a"), "a@7"), (("u", "b"), "b@1")]⟩
  watermarks := some ⟨[("u", Iso.ofInstant .epoch)]⟩

theorem threeFolders_edited : threeFolders.Edited := by
  have h₁ : Database.Edited { tokens := some ⟨[(("u", "a"), "a@1")]⟩ } :=
    .edit .empty (.putToken "u" "a" "a@1") rfl
  have h₂ : Database.Edited { tokens := some ⟨[(("u", "a"), "a@1"), (("v", "a"), "a@7")]⟩ } :=
    .edit h₁ (.putToken "v" "a" "a@7") rfl
  have h₃ : Database.Edited { tokens := some ⟨[(("u", "a"), "a@2"), (("v", "a"), "a@7")]⟩ } :=
    .edit h₂ (.putToken "u" "a" "a@2") rfl
  have h₄ := Database.Edited.edit h₃ (.putToken "u" "b" "b@1") rfl
  exact .edit h₄ (.putWatermark "u" (.ofInstant .epoch)) rfl

/-- Named twice, `u` has two folders when its turn comes first, and none when it comes again. -/
theorem threeFolders_reset : ∃ w',
    obey { connect := fun _ => .error .missingPath } 0 {} { users := ["u", "u"], reset := true }
        ({ remote := (), stores := { database := threeFolders } } : World Unit Progress) =
      some (.ok { exitCode := 0, lines := [.forgot "u" 2, .forgot "u" 0] }, w') ∧
      w'.stores.database.Unknown "u" ∧ w'.stores.database.rowsOf "v" = threeFolders.rowsOf "v" := by
  let site : Site Unit := { connect := fun _ => .error .missingPath }
  let a : Arguments := { users := ["u", "u"], reset := true }
  let w : World Unit Progress := { remote := (), stores := { database := threeFolders } }
  have hlevel : Settings.threshold {} = .ok .info := rfl
  obtain ⟨done, w', hobey, hforgets, hunknown, hothers, -⟩ :=
    reset_starts_afresh site 0 (a := a) (w := w) hlevel rfl rfl (by simp [a]) threeFolders_edited
  refine ⟨w', ?_, hunknown "u" (by simp [a]), hothers "v" (by simp [a])⟩
  have hdone : done = [("u", 2), ("u", 0)] := by
    have hcount : threeFolders.count (some "u") = .ok 2 := rfl
    generalize w'.stores.database = d' at hforgets
    obtain _ | ⟨hf, hrest⟩ := hforgets
    obtain _ | ⟨hf', hrest⟩ := hrest
    cases hrest
    obtain ⟨folders, -, hlength, hmem⟩ := hf'.folders
    have hnil : folders = [] := by
      refine List.eq_nil_iff_forall_not_mem.mpr fun f hf'' => ?_
      obtain ⟨token, htoken⟩ := (hmem f).mp hf''
      rw [hf.unknown.token f] at htoken
      cases htoken
    have htwo := hf.counted.symm.trans hcount
    cases htwo
    rw [← hlength, hnil]
    rfl
  rw [hdone] at hobey
  exact hobey

end OneShot

end MailboxSync
