import MailboxSync.Proofs.Batch
import MailboxSync.Proofs.Likeness

/-!
# Whose deeds, and whose progress

* `Owned` — deeds that all concern one user; the deeds of a run are its user's own (`RunsLate.owned`);
* `Backend.holding` — all that a backend keeps of one user;
* `World.Leads.holding_eq` — what is kept of a user stays as it is while others are busy;
* `Likeness.accesses_of_holding` — accesses for a user depend on what is kept of that user only.
-/

namespace MailboxSync

open Journal

/-! ## Whose deeds -/

/-- The user an event concerns; a note concerns nobody. -/
def Event.user? : Event → Option User
  | asked user _ _ => some user
  | savedToken user _ _ => some user
  | savedWatermark user _ => some user
  | noted _ => none

/-- Events that all concern one user. -/
def Owned (user : User) (ds : List Event) : Prop := ∀ ev ∈ ds, ev.user? = some user

section Owned

variable {τ ς : Type} {e : Env τ ς} {user : User} {w w' : World τ ς} {ds ds' : List Event}

theorem Owned.nil : Owned user [] := by simp [Owned]

theorem Owned.append (h : Owned user ds) (h' : Owned user ds') : Owned user (ds ++ ds') := by
  intro ev hev
  rcases List.mem_append.mp hev with hev | hev
  · exact h ev hev
  · exact h' ev hev

theorem Task.Moves.owned {task : Task} {move : Move} (h : Task.Moves e user task w ds move) : Owned user ds := by
  cases h <;> simp [Owned, Event.user?]

theorem Backlog.steps_forall_deeds {P : Event → Prop}
    (hP : ∀ {task v ds move}, Task.Moves e user task v ds move → ∀ ev ∈ ds, P ev) {b b' : Backlog}
    (hs : Relation.ReflTransGen (Steps e user) (b, w) (b', w')) : ∃ ds, w.Leads e ds w' ∧ ∀ ev ∈ ds, P ev := by
  generalize hlast : (b', w') = s at hs
  induction hs generalizing b' w' with
  | refl =>
    cases hlast
    exact ⟨[], .refl, by simp⟩
  | tail _ hstep ih =>
    subst hlast
    obtain ⟨ds, hl, hds⟩ := ih rfl
    obtain ⟨ds', hl', rfl | ⟨task, move, hm⟩⟩ := hstep.deeds
    · exact ⟨_, hl.trans hl', by simpa using hds⟩
    · exact ⟨_, hl.trans hl', List.forall_mem_append.mpr ⟨hds, hP hm⟩⟩

theorem Closes.forall_deeds {P : Event → Prop} (hP : ∀ i, P (.savedWatermark user i)) {roots : List FolderId}
    {now : Option Stamp} {rs : List (Except Fault FolderResult)} {result : Except Fault Report}
    (h : Closes e roots now user w rs ds result) : ∀ ev ∈ ds, P ev := by
  have hadvances : ∀ {r}, Advances e user now w ds r → ∀ ev ∈ ds, P ev := by
    intro r ha
    cases ha <;> simp [hP]
  cases h with
  | fault _ => simp
  | failed _ _ => simp
  | stuck _ _ ha => exact hadvances ha
  | completed _ _ ha => exact hadvances ha

/-- What holds of every deed of a task, and of writing the user's watermark, holds of every deed after discovery. -/
theorem RunsLate.forall_deeds {P : Event → Prop}
    (hP : ∀ {task v ds move}, Task.Moves e user task v ds move → ∀ ev ∈ ds, P ev)
    (hmark : ∀ i, P (.savedWatermark user i)) {roots : List FolderId} {now : Option Stamp}
    {out : Except Fault Report × World τ ς} (h : RunsLate e roots now user w out) :
    ∃ ds, (discoverAll e.transport user roots [] w).2.Leads e ds out.2 ∧ ∀ ev ∈ ds, P ev := by
  cases h with
  | undiscovered hd =>
    rw [hd]
    exact ⟨[], .refl, by simp⟩
  | broken hd =>
    rw [hd]
    exact ⟨[], .refl, by simp⟩
  | @ran folders w₁ w₂ b hd hs hi hlate =>
    rw [hd]
    obtain ⟨ds₂, hl₂, h₂⟩ := Backlog.steps_forall_deeds hP hs
    have hnodup := FolderSet.nodup_of_sorted (discoverAll_sorted List.Pairwise.nil hd)
    have hbegun : w₁.Leads e [] w₁ := .refl
    obtain ⟨_, taken, hinv⟩ := (Backlog.Inv.ofFolders user e.config.maxFolderWorkers hbegun hnodup .nil).steps hs
    obtain ⟨ds₃, hc, ha₃⟩ := concludeRun_closes e roots now user (hinv.took_all hlate) folders.length w₂
    exact ⟨_, hl₂.trans ha₃.leads, List.forall_mem_append.mpr ⟨h₂, hc.forall_deeds hmark⟩⟩

theorem discoverAll_owned (e : Env τ ς) (user : User) (roots : List FolderId) (found : FolderSet) (w : World τ ς) :
    ∃ ds, w.Acts e ds (discoverAll e.transport user roots found w).2 ∧ Owned user ds := by
  induction roots generalizing found w with
  | nil => exact ⟨[], .refl, .nil⟩
  | cons root roots ih =>
    unfold discoverAll
    split
    · exact ⟨[], .refl, .nil⟩
    · have hl := discover_acts e user root w
      have ho :
        Owned user [.asked user (.find (.forRoot root)) (w.ask e.transport user (.find (.forRoot root))).1] := by
        simp [Owned, Event.user?]
      generalize discover e.transport root user w = r at hl
      obtain ⟨result, v⟩ := r
      rcases result with (failure | fault) | folders
      · exact ⟨_, hl.note _, ho⟩
      · exact ⟨_, hl, ho⟩
      · obtain ⟨ds', hl', ho'⟩ := ih (found.insertAll folders) v
        exact ⟨_, hl.trans hl', ho.append ho'⟩

/-- **A run does nothing but for its user.** -/
theorem RunsLate.owned {roots : List FolderId} {now : Option Stamp} {out : Except Fault Report × World τ ς}
    (h : RunsLate e roots now user w out) : ∃ ds, w.Leads e ds out.2 ∧ Owned user ds := by
  obtain ⟨ds₁, ha₁, ho₁⟩ := discoverAll_owned e user roots [] w
  obtain ⟨ds₂, hl₂, ho₂⟩ := h.forall_deeds (fun hm => hm.owned) fun _ => rfl
  exact ⟨_, ha₁.leads.trans hl₂, ho₁.append ho₂⟩

theorem Call.owned (c : Call τ ς) : Owned c.user (deeds c.events) := by
  obtain ⟨ds, hl, ho⟩ := c.runs.owned
  have hds : deeds c.events = ds := hl.deeds_eventsSince
  rw [hds]
  exact ho

end Owned

/-! ## Whose progress -/

/-- All that is kept of one user: tokens by folder and the watermark as text, either of them nothing where there is no
place for it. -/
@[ext] structure Holding where
  tokens : Option (FolderId → Option Token)
  watermark : Option (Option String)

theorem Iso.ofInstant_injective : Function.Injective Iso.ofInstant := by
  intro i j h
  have hread := congrArg Iso.instant? h
  rw [Iso.instant?_ofInstant, Iso.instant?_ofInstant] at hread
  exact Option.some.inj hread

namespace Backend

/-- All that is kept of a user. -/
def holding (b : Backend) (p : Progress) (user : User) : Holding where
  tokens :=
    match b.tokens with
    | .memory => some fun folder => p.memory.tokens.get? (user, folder)
    | .database => p.database.tokens.map fun t folder => t.get? (user, folder)
  watermark :=
    match b.watermarks with
    | .memory => some ((p.memory.watermarks.get? user).map Iso.ofInstant)
    | .database => p.database.watermarks.map (·.get? user)
    | .nowhere => none

variable {b : Backend} {p p' : Progress} {user : User} {folder : FolderId} {token : Token} {stamp : Stamp}
  {notes : List Note}

/-! ### Reading -/

theorem token_map (b : Backend) (p : Progress) (user : User) (folder : FolderId) :
    (b.stores.token p user folder).map (·.1) =
      match (b.holding p user).tokens with
      | none => .error (.missingTable Database.tokensName)
      | some tokens => .ok ((tokens folder).getD .initial) := by
  unfold stores holding
  cases hb : b.tokens with
  | memory => rfl
  | database =>
    simp only [Database.stores, Database.token?, Database.tokenTable]
    cases p.database.tokens with
    | none => rfl
    | some t => cases h : t.get? (user, folder) <;> simp [Except.map, h]

/-- The watermark that is read depends on what is kept. -/
theorem watermark_congr (h : b.holding p' user = b.holding p user) :
    (b.stores.watermark p' user).map (·.1) = (b.stores.watermark p user).map (·.1) := by
  have hmark := congrArg Holding.watermark h
  unfold stores
  unfold holding at hmark
  cases hb : b.watermarks with
  | memory =>
    simp only [hb, Option.some.injEq] at hmark
    have hinstant := Option.map_injective Iso.ofInstant_injective hmark
    simp only [Memory.stores, WatermarkTable.watermark, hinstant]
  | database =>
    simp only [hb] at hmark
    simp only [Database.stores, Database.watermark?, Database.watermarkTable]
    cases ht : p.database.watermarks with
    | none =>
      cases ht' : p'.database.watermarks with
      | none => rfl
      | some t' => simp [ht, ht'] at hmark
    | some t =>
      cases ht' : p'.database.watermarks with
      | none => simp [ht, ht'] at hmark
      | some t' =>
        simp only [ht, ht', Option.map_some, Option.some.injEq] at hmark
        simp only [hmark]
  | nowhere => rfl

/-! ### Writing -/

/-- A token that is written changes what is kept of its user. -/
theorem holding_saveToken (h : b.stores.saveToken p user folder token = .ok (p', notes)) (u : User) :
    b.holding p' u =
      if u = user then
        { b.holding p u with
          tokens := (b.holding p u).tokens.map fun tokens f => if f = folder then some token else tokens f }
      else b.holding p u := by
  unfold stores at h
  cases hb : b.tokens with
  | memory =>
    simp only [hb, Memory.stores, Except.map, Except.ok.injEq, Prod.mk.injEq] at h
    obtain ⟨rfl, -⟩ := h
    split
    · rename_i hu
      subst hu
      simp [holding, hb, Table.get?_put]
    · rename_i hu
      simp [holding, hb, Table.get?_put, hu]
  | database =>
    simp only [hb, Database.stores, Database.putToken, Database.tokenTable] at h
    cases ht : p.database.tokens with
    | none => simp [ht, Except.map] at h
    | some t =>
      simp only [ht, Except.map, Except.ok.injEq, Prod.mk.injEq] at h
      obtain ⟨rfl, -⟩ := h
      split
      · rename_i hu
        subst hu
        simp [holding, hb, ht, Table.get?_put]
      · rename_i hu
        simp [holding, hb, ht, Table.get?_put, hu]

theorem saveToken_congr (h : b.holding p' user = b.holding p user) (folder : FolderId) (token : Token) :
    (b.stores.saveToken p' user folder token).map (fun _ => ()) =
      (b.stores.saveToken p user folder token).map fun _ => () := by
  have htokens := congrArg Holding.tokens h
  unfold stores
  unfold holding at htokens
  cases hb : b.tokens with
  | memory => rfl
  | database =>
    simp only [hb] at htokens
    simp only [Database.stores, Database.putToken, Database.tokenTable]
    cases ht : p.database.tokens <;> cases ht' : p'.database.tokens <;> simp [ht, ht'] at htokens <;> rfl

/-- A watermark that is written changes what is kept of its user. -/
theorem holding_saveWatermark (h : b.stores.saveWatermark p user stamp = .ok (p', notes)) (u : User) :
    b.holding p' u =
      if u = user then
        { b.holding p u with
          watermark := (b.holding p u).watermark.map fun _ => stamp.toInstant.toOption.map Iso.ofInstant }
      else b.holding p u := by
  unfold stores at h
  cases hb : b.watermarks with
  | memory =>
    simp only [hb, Memory.stores, WatermarkTable.save] at h
    cases hs : stamp.toInstant with
    | error fault => simp [hs, Except.map] at h
    | ok i =>
      simp only [hs, Except.map, Except.ok.injEq, Prod.mk.injEq] at h
      obtain ⟨rfl, -⟩ := h
      split
      · rename_i hu
        subst hu
        simp [holding, hb, Table.get?_put, Except.toOption]
      · rename_i hu
        simp [holding, hb, Table.get?_put, hu]
  | database =>
    simp only [hb, Database.stores] at h
    cases hs : stamp.toInstant with
    | error fault => simp [hs, Except.map] at h
    | ok i =>
      simp only [hs, Database.putWatermarkText, Database.watermarkTable] at h
      cases ht : p.database.watermarks with
      | none => simp [ht, Except.map] at h
      | some t =>
        simp only [ht, Except.map, Except.ok.injEq, Prod.mk.injEq] at h
        obtain ⟨rfl, -⟩ := h
        split
        · rename_i hu
          subst hu
          simp [holding, hb, ht, Table.get?_put, Except.toOption]
        · rename_i hu
          simp [holding, hb, ht, Table.get?_put, hu]
  | nowhere =>
    simp only [hb, Except.ok.injEq, Prod.mk.injEq] at h
    obtain ⟨rfl, -⟩ := h
    simp [holding, hb]

/-- Whether a watermark can be written depends on what is kept. -/
theorem saveWatermark_congr (h : b.holding p' user = b.holding p user) (stamp : Stamp) :
    (b.stores.saveWatermark p' user stamp).map (fun _ => ()) =
      (b.stores.saveWatermark p user stamp).map fun _ => () := by
  have hmark := congrArg Holding.watermark h
  unfold stores
  unfold holding at hmark
  cases hb : b.watermarks with
  | memory =>
    simp only [Memory.stores, WatermarkTable.save]
    cases stamp.toInstant <;> rfl
  | database =>
    simp only [hb] at hmark
    simp only [Database.stores]
    cases stamp.toInstant with
    | error fault => rfl
    | ok i =>
      simp only [Database.putWatermarkText, Database.watermarkTable]
      cases ht : p.database.watermarks <;> cases ht' : p'.database.watermarks <;> simp [ht, ht'] at hmark <;> rfl
  | nowhere => rfl

end Backend

/-! ## Others leave it alone -/

/-- **What is kept of a user stays as it is while others are busy.** -/
theorem World.Leads.holding_eq {τ : Type} {b : Backend} {rules : List AccessRule} {e : Env τ Progress}
    {w w' : World τ Progress} {ds : List Event} (h : w.Leads e ds w') (he : e.stores = b.stores.refusing rules)
    {u : User} (hds : ∀ ev ∈ ds, ev.user? ≠ some u) : b.holding w'.stores u = b.holding w.stores u := by
  induction h with
  | refl => rfl
  | note _ _ ih => exact ih hds
  | trip _ ih => exact ih hds
  | ask _ _ _ ih =>
    rw [ask_stores]
    exact ih fun ev hev => hds ev (List.mem_append_left _ hev)
  | @writeToken ds _ _ user _ _ _ hw ih =>
    obtain ⟨notes, hs, -⟩ := writeToken_ok hw
    rw [he] at hs
    have hne : u ≠ user := fun heq => hds _ (List.mem_append_right _ List.mem_cons_self) (congrArg some heq.symm)
    rw [Backend.holding_saveToken (Stores.refusing_saveToken_ok hs), if_neg hne]
    exact ih fun ev hev => hds ev (List.mem_append_left _ hev)
  | @writeWatermark ds _ _ user _ _ hw ih =>
    obtain ⟨notes, hs, -⟩ := writeWatermark_ok hw
    rw [he] at hs
    have hne : u ≠ user := fun heq => hds _ (List.mem_append_right _ List.mem_cons_self) (congrArg some heq.symm)
    rw [Backend.holding_saveWatermark (Stores.refusing_saveWatermark_ok hs), if_neg hne]
    exact ih fun ev hev => hds ev (List.mem_append_left _ hev)

/-! ## Accesses for one user -/

theorem Agree.of_map_eq {α : Type} {x x' : Except Fault (α × List Note)} (h : x'.map (·.1) = x.map (·.1)) :
    Agree (· = ·) x x' := by
  rcases x with fault | ⟨a, notes⟩ <;> rcases x' with fault' | ⟨a', notes'⟩ <;> cases h
  · exact .refused fault
  · exact .done rfl notes notes'

theorem Agree.of_results {α β : Type} {P : α → β → Prop} {x : Except Fault (α × List Note)}
    {x' : Except Fault (β × List Note)} (h : x'.map (fun _ => ()) = x.map fun _ => ())
    (hP : ∀ {a notes a' notes'}, x = .ok (a, notes) → x' = .ok (a', notes') → P a a') : Agree P x x' := by
  rcases x with fault | ⟨a, notes⟩ <;> rcases x' with fault' | ⟨a', notes'⟩ <;> cases h
  · exact .refused fault
  · exact .done (hP rfl rfl) notes notes'

theorem Agree.mono {α β : Type} {P Q : α → β → Prop} {x : Except Fault (α × List Note)}
    {x' : Except Fault (β × List Note)} (h : Agree P x x') (hPQ : ∀ {a a'}, P a a' → Q a a') : Agree Q x x' := by
  cases h with
  | refused fault => exact .refused fault
  | done h notes notes' => exact .done (hPQ h) notes notes'

theorem Agree.guarded {α β : Type} {P : α → β → Prop} {x : Except Fault (α × List Note)}
    {x' : Except Fault (β × List Note)} (h : Agree P x x') (refuses : Bool) (fault : Fault) :
    Agree P (if refuses then .error fault else x) (if refuses then .error fault else x') := by
  cases refuses
  · exact h
  · exact .refused fault

/-- **Accesses for a user depend on what is kept of that user only.** -/
theorem Likeness.accesses_of_holding {τ τ' : Type} {R : Likeness τ τ' Progress Progress} {b : Backend} {u : User}
    (huser : ∀ {user}, R.user user → user = u) (htoken : ∀ token, R.token token)
    (hstores : ∀ {p p'}, R.stores p p' ↔ b.holding p' u = b.holding p u) (rules : List AccessRule) :
    R.Accesses (b.stores.refusing rules) (b.stores.refusing rules) where
  token {p p' user folder} hp hu _ := by
    obtain rfl := huser hu
    have hread : Agree (· = ·) (b.stores.token p user folder) (b.stores.token p' user folder) := by
      refine .of_map_eq ?_
      rw [Backend.token_map, Backend.token_map, hstores.mp hp]
    exact (hread.mono fun heq => ⟨heq, htoken _⟩).guarded _ _
  saveToken {p p' user folder token} hp hu _ _ := by
    obtain rfl := huser hu
    have heq := hstores.mp hp
    refine (Agree.of_results (Backend.saveToken_congr heq folder token) fun hsave hsave' => ?_).guarded _ _
    rw [hstores, Backend.holding_saveToken hsave, Backend.holding_saveToken hsave', heq]
  watermark {p p' user} hp hu := by
    obtain rfl := huser hu
    exact (Agree.of_map_eq (Backend.watermark_congr (hstores.mp hp))).guarded _ _
  saveWatermark {p p' user} stamp hp hu := by
    obtain rfl := huser hu
    have heq := hstores.mp hp
    refine (Agree.of_results (Backend.saveWatermark_congr heq stamp) fun hsave hsave' => ?_).guarded _ _
    rw [hstores, Backend.holding_saveWatermark hsave, Backend.holding_saveWatermark hsave', heq]

end MailboxSync
