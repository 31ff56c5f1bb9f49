import MailboxSync.Proofs.Pool
import MailboxSync.Proofs.Timestamp
import MailboxSync.Store.Progress

/-!
# What stores keep

* `Backend.kept`, `Backend.mark` — the token a backend keeps for a folder, and the watermark it keeps for a user;
* `Backend.KeepsTokens`, `Backend.KeepsMarks` — nothing that is kept is out of reach: the tables are there, and every
  text in the table of watermarks denotes an instant.  Then reading gives what is kept, writing succeeds, and both
  properties stay;
* `World.Leads.kept`, `World.Leads.mark` — after any deeds a folder has the token written last, a user the watermark
  written last, and without a write what was there before.
-/

namespace MailboxSync

open Journal

def Iso.instant? (text : String) : Option Instant := (Iso.toStamp text).toOption.bind (·.toInstant.toOption)

/-- **The text written for an instant denotes it.** -/
theorem Iso.instant?_ofInstant (i : Instant) : Iso.instant? (Iso.ofInstant i) = some i := by
  simp [Iso.instant?, Iso.toStamp_ofInstant, Stamp.toInstant_ofInstant, Except.toOption]

namespace Database

theorem watermark_eq {d : Database} {t : Table User String} {user : User} {text : String} {i : Instant}
    (ht : d.watermarks = some t) (hu : t.get? user = some text) (hi : Iso.instant? text = some i) :
    stores.watermark d user = .ok (i, []) := by
  unfold Iso.instant? at hi
  cases hs : Iso.toStamp text with
  | error problem => simp [hs, Except.toOption] at hi
  | ok stamp =>
    have hstamp : stamp.toInstant = .ok i := by
      cases hc : stamp.toInstant with
      | error fault => simp [hs, hc, Except.toOption] at hi
      | ok j =>
        simp only [hs, hc, Except.toOption, Option.bind_some, Option.some.injEq] at hi
        rw [hi]
    simp [stores, watermark?, watermarkTable, ht, hu, hs, hstamp, Except.map]

end Database

namespace Backend

variable {b : Backend} {p p' : Progress} {user : User} {folder : FolderId} {token : Token} {i : Instant}
  {notes : List Note}

/-- The token kept for a folder, if there is one. -/
def kept (b : Backend) (p : Progress) (user : User) (folder : FolderId) : Option Token :=
  match b.tokens with
  | .memory => p.memory.tokens.get? (user, folder)
  | .database => p.database.tokens.bind (·.get? (user, folder))

/-- The watermark kept for a user, if there is one. -/
def mark (b : Backend) (p : Progress) (user : User) : Option Instant :=
  match b.watermarks with
  | .memory => p.memory.watermarks.get? user
  | .database => (p.database.watermarks.bind (·.get? user)).bind Iso.instant?
  | .nowhere => none

/-- There is a place for tokens. -/
def KeepsTokens (b : Backend) (p : Progress) : Prop :=
  match b.tokens with
  | .memory => True
  | .database => p.database.tokens.isSome

/-- There is a place for watermarks, and every one that is there can be read. -/
def KeepsMarks (b : Backend) (p : Progress) : Prop :=
  match b.watermarks with
  | .memory => True
  | .database => ∃ t, p.database.watermarks = some t ∧
      ∀ user text, t.get? user = some text → ∃ i, Iso.instant? text = some i
  | .nowhere => False

/-! ## Tokens -/

theorem token_ok {stored : Token} (h : b.stores.token p user folder = .ok (stored, notes)) :
    stored = (b.kept p user folder).getD .initial := by
  unfold stores at h
  unfold kept
  cases ht : b.tokens with
  | memory =>
    simp only [ht, Memory.stores, TokenTable.token, Except.ok.injEq, Prod.mk.injEq] at h
    exact h.1.symm
  | database =>
    simp only [ht, Database.stores, Database.token?, Database.tokenTable] at h
    cases htab : p.database.tokens with
    | none => simp [htab, Except.map] at h
    | some t =>
      simp only [htab, Except.map, Except.ok.injEq] at h
      cases hg : t.get? (user, folder) with
      | none => simp_all
      | some stored' => simp_all

theorem keeps_of_token (h : b.stores.token p user folder = .ok (token, notes)) : b.KeepsTokens p := by
  unfold stores at h
  unfold KeepsTokens
  cases ht : b.tokens with
  | memory => trivial
  | database =>
    cases htab : p.database.tokens with
    | none => simp [ht, Database.stores, Database.token?, Database.tokenTable, htab, Except.map] at h
    | some t => rfl

theorem token_of_keeps (h : b.KeepsTokens p) (user : User) (folder : FolderId) :
    ∃ notes, b.stores.token p user folder = .ok ((b.kept p user folder).getD .initial, notes) := by
  unfold KeepsTokens at h
  cases hr : b.stores.token p user folder with
  | ok r =>
    obtain ⟨stored, notes⟩ := r
    exact ⟨notes, by rw [← token_ok hr]⟩
  | error fault =>
    unfold stores at hr
    cases ht : b.tokens with
    | memory => simp [ht, Memory.stores] at hr
    | database =>
      rw [ht] at h
      obtain ⟨t, htab⟩ := Option.isSome_iff_exists.mp h
      simp [ht, Database.stores, Database.token?, Database.tokenTable, htab, Except.map] at hr

/-- A write of a token changes the token kept for its folder, and nothing else. -/
theorem saveToken_ok (h : b.stores.saveToken p user folder token = .ok (p', notes)) :
    (∀ u f, b.kept p' u f = if user = u ∧ folder = f then some token else b.kept p u f) ∧
      (∀ u, b.mark p' u = b.mark p u) ∧ (b.KeepsTokens p' ↔ b.KeepsTokens p) ∧
      (b.KeepsMarks p → b.KeepsMarks p') := by
  unfold stores at h
  unfold kept mark KeepsTokens KeepsMarks
  cases ht : b.tokens with
  | memory =>
    simp only [ht, Memory.stores, Except.map, Except.ok.injEq, Prod.mk.injEq] at h
    obtain ⟨rfl, -⟩ := h
    refine ⟨fun u f => ?_, fun u => rfl, .rfl, id⟩
    simp [Table.get?_put, Prod.ext_iff, eq_comm]
  | database =>
    simp only [ht, Database.stores, Database.putToken, Database.tokenTable] at h
    cases htab : p.database.tokens with
    | none => simp [htab, Except.map] at h
    | some t =>
      simp only [htab, Except.map, Except.ok.injEq, Prod.mk.injEq] at h
      obtain ⟨rfl, -⟩ := h
      refine ⟨fun u f => ?_, fun u => rfl, by simp, id⟩
      simp [Table.get?_put, Prod.ext_iff, eq_comm]

theorem saveToken_of_keeps (h : b.KeepsTokens p) (user : User) (folder : FolderId) (token : Token) :
    ∃ p' notes, b.stores.saveToken p user folder token = .ok (p', notes) := by
  unfold KeepsTokens at h
  unfold stores
  cases ht : b.tokens with
  | memory => simp [Memory.stores, Except.map]
  | database =>
    rw [ht] at h
    obtain ⟨t, htab⟩ := Option.isSome_iff_exists.mp h
    simp [Database.stores, Database.putToken, Database.tokenTable, htab, Except.map]

/-! ## Watermarks -/

theorem watermark_of_keeps (h : b.KeepsMarks p) (user : User) :
    ∃ notes, b.stores.watermark p user = .ok ((b.mark p user).getD .epoch, notes) := by
  unfold KeepsMarks at h
  unfold stores mark
  cases hw : b.watermarks with
  | memory => exact ⟨[], rfl⟩
  | database =>
    simp only [hw] at h
    obtain ⟨t, htab, hread⟩ := h
    cases hg : t.get? user with
    | none =>
      exact ⟨[], by simp [htab, hg, Database.stores, Database.watermark?, Database.watermarkTable]⟩
    | some text =>
      obtain ⟨i, hi⟩ := hread user text hg
      exact ⟨[], by simp [htab, hg, hi, Database.watermark_eq htab hg hi]⟩
  | nowhere => simp [hw] at h

/-- A write of a watermark succeeds, changes the watermark of its user, and nothing else. -/
theorem saveWatermark_of_keeps (h : b.KeepsMarks p) (user : User) (i : Instant) :
    ∃ p' notes, b.stores.saveWatermark p user (.ofInstant i) = .ok (p', notes) ∧ b.KeepsMarks p' ∧
      (∀ u, b.mark p' u = if user = u then some i else b.mark p u) := by
  unfold KeepsMarks at h ⊢
  unfold stores mark
  cases hw : b.watermarks with
  | memory =>
    refine ⟨{ p with memory := { p.memory with watermarks := p.memory.watermarks.put user i } }, [], ?_,
      trivial, ?_⟩
    · simp [Memory.stores, WatermarkTable.save, Stamp.toInstant_ofInstant, Except.map]
    · intro u
      simp [Table.get?_put, eq_comm]
  | database =>
    simp only [hw] at h
    obtain ⟨t, htab, hread⟩ := h
    refine ⟨{ p with database := { p.database with watermarks := some (t.put user (Iso.ofInstant i)) } },
      [⟨.info, s!"Saved watermark for {user}: {Iso.ofInstant i}"⟩], ?_, ⟨_, rfl, fun u text hg => ?_⟩,
        fun u => ?_⟩
    · simp [Database.stores, Stamp.toInstant_ofInstant, Database.putWatermarkText, Database.watermarkTable, htab,
        Except.map]
    · rw [Table.get?_put] at hg
      split at hg
      · rw [← Option.some.inj hg]
        exact ⟨i, Iso.instant?_ofInstant i⟩
      · exact hread u text hg
    · simp only [htab, Option.bind_some, Table.get?_put, eq_comm (a := user)]
      split
      · exact Iso.instant?_ofInstant i
      · rfl
  | nowhere => simp [hw] at h

theorem KeepsMarks.place (h : b.KeepsMarks p) : b.watermarks ≠ .nowhere := by
  intro hw
  simp [KeepsMarks, hw] at h

/-- Where there is a place for watermarks, one that was written is the one of its user, and nothing else changes. -/
theorem saveWatermark_mark (hb : b.watermarks ≠ .nowhere)
    (h : b.stores.saveWatermark p user (.ofInstant i) = .ok (p', notes)) (u : User) :
    b.mark p' u = if user = u then some i else b.mark p u := by
  unfold stores at h
  unfold mark
  cases hw : b.watermarks with
  | memory =>
    simp only [hw, Memory.stores, WatermarkTable.save, Stamp.toInstant_ofInstant, Except.map, Except.ok.injEq,
      Prod.mk.injEq] at h
    obtain ⟨rfl, -⟩ := h
    simp [Table.get?_put, eq_comm]
  | database =>
    simp only [hw, Database.stores, Stamp.toInstant_ofInstant, Database.putWatermarkText, Database.watermarkTable] at h
    cases ht : p.database.watermarks with
    | none => simp [ht, Except.map] at h
    | some t =>
      simp only [ht, Except.map, Except.ok.injEq, Prod.mk.injEq] at h
      obtain ⟨rfl, -⟩ := h
      simp only [Option.bind_some, Table.get?_put, eq_comm (a := user)]
      split
      · exact Iso.instant?_ofInstant i
      · rfl
  | nowhere => exact absurd hw hb

/-- A write of a watermark leaves the tokens as they are. -/
theorem saveWatermark_kept {stamp : Stamp} (h : b.stores.saveWatermark p user stamp = .ok (p', notes)) :
    (∀ u f, b.kept p' u f = b.kept p u f) ∧ (b.KeepsTokens p' ↔ b.KeepsTokens p) := by
  unfold stores at h
  unfold kept KeepsTokens
  cases hw : b.watermarks with
  | memory =>
    simp only [hw, Memory.stores, WatermarkTable.save] at h
    cases hs : stamp.toInstant with
    | error fault => simp [hs, Except.map] at h
    | ok i =>
      simp only [hs, Except.map, Except.ok.injEq, Prod.mk.injEq] at h
      obtain ⟨rfl, -⟩ := h
      exact ⟨fun u f => rfl, .rfl⟩
  | database =>
    simp only [hw, Database.stores] at h
    cases hs : stamp.toInstant with
    | error fault => simp [hs, Except.map] at h
    | ok i =>
      simp only [hs, Database.putWatermarkText, Database.watermarkTable] at h
      cases htab : p.database.watermarks with
      | none => simp [htab, Except.map] at h
      | some t =>
        simp only [htab, Except.map, Except.ok.injEq, Prod.mk.injEq] at h
        obtain ⟨rfl, -⟩ := h
        exact ⟨fun u f => rfl, .rfl⟩
  | nowhere =>
    simp only [hw, Except.ok.injEq, Prod.mk.injEq] at h
    obtain ⟨rfl, -⟩ := h
    exact ⟨fun u f => rfl, .rfl⟩

end Backend

/-! ## Refusals -/

section Refusing

variable {ς : Type} {s : Stores ς} {rules : List AccessRule} {p p' : ς} {user : User} {folder : FolderId}
  {notes : List Note}

theorem Stores.refusing_token_ok {token : Token}
    (h : (s.refusing rules).token p user folder = .ok (token, notes)) : s.token p user folder = .ok (token, notes) := by
  unfold refusing at h
  dsimp only at h
  split at h
  · cases h
  · exact h

theorem Stores.refusing_saveToken_ok {token : Token}
    (h : (s.refusing rules).saveToken p user folder token = .ok (p', notes)) :
    s.saveToken p user folder token = .ok (p', notes) := by
  unfold refusing at h
  dsimp only at h
  split at h
  · cases h
  · exact h

theorem Stores.refusing_saveWatermark_ok {stamp : Stamp}
    (h : (s.refusing rules).saveWatermark p user stamp = .ok (p', notes)) :
    s.saveWatermark p user stamp = .ok (p', notes) := by
  unfold refusing at h
  dsimp only at h
  split at h
  · cases h
  · exact h

theorem Stores.refusing_saveToken (h : rules.any (·.covers .states .put user (some folder)) = false) (token : Token) :
    (s.refusing rules).saveToken p user folder token = s.saveToken p user folder token := by
  unfold refusing
  dsimp only
  rw [h]
  rfl

theorem Stores.refusing_saveToken_of_covers (h : rules.any (·.covers .states .put user (some folder)) = true)
    (token : Token) : (s.refusing rules).saveToken p user folder token = .error (.storeRefused .states .put user) := by
  unfold refusing
  dsimp only
  rw [if_pos h]

theorem covers_watermarks (h : ∀ r ∈ rules, r.store = .states) (access : StoreAccess) (user : User) :
    rules.any (·.covers .watermarks access user none) = false := by
  rw [List.any_eq_false]
  intro r hr
  simp [AccessRule.covers, h r hr]

theorem Stores.refusing_watermark (h : ∀ r ∈ rules, r.store = .states) :
    (s.refusing rules).watermark p user = s.watermark p user := by
  unfold refusing
  dsimp only
  rw [covers_watermarks h]
  rfl

theorem Stores.refusing_saveWatermark (h : ∀ r ∈ rules, r.store = .states) (stamp : Stamp) :
    (s.refusing rules).saveWatermark p user stamp = s.saveWatermark p user stamp := by
  unfold refusing
  dsimp only
  rw [covers_watermarks h]
  rfl

theorem Stores.refusing_nil (s : Stores ς) : s.refusing [] = s := rfl

end Refusing

/-! ## Along deeds -/

namespace World.Leads

variable {τ : Type} {b : Backend} {rules : List AccessRule} {e : Env τ Progress} {w w' : World τ Progress}
  {ds : List Event}

theorem keepsTokens_iff (h : w.Leads e ds w') (he : e.stores = b.stores.refusing rules) :
    b.KeepsTokens w'.stores ↔ b.KeepsTokens w.stores := by
  induction h with
  | refl => exact .rfl
  | note _ _ ih => exact ih
  | trip _ ih => exact ih
  | ask _ _ _ ih => rwa [ask_stores]
  | writeToken _ hw ih =>
    obtain ⟨notes, hs, -⟩ := writeToken_ok hw
    rw [he] at hs
    exact (Backend.saveToken_ok (Stores.refusing_saveToken_ok hs)).2.2.1.trans ih
  | writeWatermark _ hw ih =>
    obtain ⟨notes, hs, -⟩ := writeWatermark_ok hw
    rw [he] at hs
    exact (Backend.saveWatermark_kept (Stores.refusing_saveWatermark_ok hs)).2.trans ih

/-- **A folder has the token written last, and without a write the one it had.** -/
theorem kept (h : w.Leads e ds w') (he : e.stores = b.stores.refusing rules) (user : User) (folder : FolderId) :
    b.kept w'.stores user folder = (savedTokens user folder ds).getLast?.or (b.kept w.stores user folder) := by
  induction h with
  | refl => rfl
  | note _ _ ih => exact ih
  | trip _ ih => exact ih
  | ask _ u r ih => rw [ask_stores, savedTokens_append, savedTokens_asked, List.append_nil, ih]
  | @writeToken _ _ _ u f token _ hw ih =>
    obtain ⟨notes, hs, -⟩ := writeToken_ok hw
    rw [he] at hs
    rw [(Backend.saveToken_ok (Stores.refusing_saveToken_ok hs)).1, savedTokens_append, savedTokens_saved]
    split
    · simp
    · rw [ih, List.append_nil]
  | writeWatermark _ hw ih =>
    obtain ⟨notes, hs, -⟩ := writeWatermark_ok hw
    rw [he] at hs
    rw [(Backend.saveWatermark_kept (Stores.refusing_saveWatermark_ok hs)).1, ih, savedTokens_append]
    exact congrArg (fun ts => (List.getLast? ts).or _) (List.append_nil _).symm

/-- No token is written where a rule refuses it. -/
theorem savedTokens_of_covers (h : w.Leads e ds w') (he : e.stores = b.stores.refusing rules) {user : User}
    {folder : FolderId} (hc : rules.any (·.covers .states .put user (some folder)) = true) :
    savedTokens user folder ds = [] := by
  induction h with
  | refl => rfl
  | note _ _ ih => exact ih
  | trip _ ih => exact ih
  | ask _ _ _ ih => rw [savedTokens_append, ih, savedTokens_asked, List.append_nil]
  | writeToken _ hw ih =>
    rw [savedTokens_append, ih, savedTokens_saved]
    split
    · rename_i huf
      obtain ⟨rfl, rfl⟩ := huf
      obtain ⟨notes, hs, -⟩ := writeToken_ok hw
      rw [he, Stores.refusing_saveToken_of_covers hc] at hs
      cases hs
    · rfl
  | writeWatermark _ _ ih =>
    rw [savedTokens_append, ih]
    rfl

theorem keepsMarks (h : w.Leads e ds w') (he : e.stores = b.stores.refusing rules) (hk : b.KeepsMarks w.stores) :
    b.KeepsMarks w'.stores := by
  induction h with
  | refl => exact hk
  | note _ _ ih => exact ih
  | trip _ ih => exact ih
  | ask _ _ _ ih => rwa [ask_stores]
  | writeToken _ hw ih =>
    obtain ⟨notes, hs, -⟩ := writeToken_ok hw
    rw [he] at hs
    exact (Backend.saveToken_ok (Stores.refusing_saveToken_ok hs)).2.2.2 ih
  | @writeWatermark _ _ _ u i _ hw ih =>
    obtain ⟨notes, hs, -⟩ := writeWatermark_ok hw
    rw [he] at hs
    obtain ⟨p', notes', hs', hk', -⟩ := Backend.saveWatermark_of_keeps ih u i
    rw [Stores.refusing_saveWatermark_ok hs] at hs'
    cases hs'
    exact hk'

/-- Where there is a place for watermarks a user has the one written last, and without a write the one there was. -/
theorem mark_of_place (h : w.Leads e ds w') (he : e.stores = b.stores.refusing rules) (hb : b.watermarks ≠ .nowhere)
    (user : User) : b.mark w'.stores user = (marks user ds).getLast?.or (b.mark w.stores user) := by
  induction h with
  | refl => rfl
  | note _ _ ih => exact ih
  | trip _ ih => exact ih
  | ask _ _ _ ih => rw [ask_stores, ih, marks_append, marks_asked, List.append_nil]
  | writeToken _ hw ih =>
    obtain ⟨notes, hs, -⟩ := writeToken_ok hw
    rw [he] at hs
    rw [(Backend.saveToken_ok (Stores.refusing_saveToken_ok hs)).2.1, ih, marks_append, marks_savedToken,
      List.append_nil]
  | writeWatermark _ hw ih =>
    obtain ⟨notes, hs, -⟩ := writeWatermark_ok hw
    rw [he] at hs
    rw [Backend.saveWatermark_mark hb (Stores.refusing_saveWatermark_ok hs), marks_append, marks_saved]
    split
    · simp
    · rw [ih, List.append_nil]

/-- **A user has the watermark written last, and without a write the one there was.** -/
theorem mark (h : w.Leads e ds w') (he : e.stores = b.stores.refusing rules) (hk : b.KeepsMarks w.stores)
    (user : User) :
    b.mark w'.stores user = (marks user ds).getLast?.or (b.mark w.stores user) :=
  h.mark_of_place he hk.place user

end World.Leads

end MailboxSync
