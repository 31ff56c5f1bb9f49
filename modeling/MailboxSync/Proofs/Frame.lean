import MailboxSync.Proofs.Backlog
import MailboxSync.Proofs.Stores
import MailboxSync.Session

/-!
# What a run leaves in the store of tokens

* `Completes` — a folder the run discovers, whose paging comes to its final page;
* `TokenFrame` — a run writes the token of every such folder once, with the token of the final page, and touches no
  other; a folder that does not get there keeps its token, and its result carries it;
* `RunsLate.tokenFrame` — every run does.

The ends a folder can come to are gone through once, in `Stands.complete_or_kept`.
-/

namespace MailboxSync

open Journal

variable {τ : Type} {b : Backend} {rules : List AccessRule} {e : Env τ Progress} {roots : List FolderId}
  {now : Option Stamp} {user : User} {folder : FolderId} {w w' : World τ Progress}

/-- The token a folder goes on from: the one kept for it, or the initial one. -/
def Backend.startToken (b : Backend) (p : Progress) (user : User) (folder : FolderId) : Token :=
  (b.kept p user folder).getD .initial

theorem ReadFrom.eq_startToken {token : Token} (h : ReadFrom e user w folder token)
    (he : e.stores = b.stores.refusing rules) : token = b.startToken w.stores user folder := by
  obtain ⟨ds, w₁, notes, hl, hn, ht⟩ := h
  rw [he] at ht
  rw [Backend.token_ok (Stores.refusing_token_ok ht), hl.kept he, hn]
  rfl

theorem ReadFrom.keepsTokens {token : Token} (h : ReadFrom e user w folder token)
    (he : e.stores = b.stores.refusing rules) : b.KeepsTokens w.stores := by
  obtain ⟨ds, w₁, notes, hl, -, ht⟩ := h
  rw [he] at ht
  exact (hl.keepsTokens_iff he).mp (Backend.keeps_of_token (Stores.refusing_token_ok ht))

theorem Paging.Reaches.not_last {size : Int} {p₀ p q : Paging} {xs : List SyncExchange} {o : Reply.Outcome}
    {trouble : Trouble} (h : p₀.Reaches size xs p false) (ho : Page.read p.token o = .error trouble) :
    ¬ p₀.Reaches size (xs ++ [(.forPage p₀.folder p.token size, o)]) q true := by
  intro h'
  rw [← h.folder_eq] at h'
  generalize hys : xs ++ [(SyncRequest.forPage p.folder p.token size, o)] = ys at h'
  generalize hb : true = last at h'
  cases h' with
  | start => simp at hys
  | page h' ho' =>
    obtain ⟨rfl, hx⟩ := List.append_inj' hys rfl
    obtain ⟨rfl, -⟩ := h.unique h'
    simp only [List.cons.injEq, Prod.mk.injEq, and_true, true_and] at hx
    rw [hx, ho'] at ho
    cases ho

theorem Paging.Reaches.nil_not_last {size : Int} {p₀ q : Paging} : ¬ p₀.Reaches size [] q true := by
  intro h
  generalize hys : [] = ys at h
  generalize hb : true = last at h
  cases h with
  | start => cases hb
  | page _ _ => simp at hys

/-- **A folder that has ended** has come to its final page, and then its token has been written or could not be; or it
has not, and then nothing has been written and its result carries the token it was started with. -/
theorem Stands.complete_or_kept {xs : List SyncExchange} {ts : List Token} {r : Except Fault FolderResult}
    (h : Stands e user w folder xs ts (.ended r)) (he : e.stores = b.stores.refusing rules) :
    (∃ p, (Paging.start folder (b.startToken w.stores user folder)).Reaches e.config.idPageSize xs p true ∧
        ((ts = [p.token] ∧ r = .ok (.finished p)) ∨
          (ts = [] ∧ rules.any (·.covers .states .put user (some folder)) = true ∧
            ∃ fault, r = .error fault))) ∨
      ((∀ p, ¬ (Paging.start folder (b.startToken w.stores user folder)).Reaches e.config.idPageSize xs p true) ∧
        ts = [] ∧ ∀ result, r = .ok result →
          result.folder = folder ∧ result.ok = false ∧ result.token = b.startToken w.stores user folder) := by
  cases h with
  | finished hr hp =>
    rw [hr.eq_startToken he] at hp
    exact .inl ⟨_, hp, .inl ⟨rfl, rfl⟩⟩
  | failed hr hp ho =>
    rw [hr.eq_startToken he] at hp ⊢
    refine .inr ⟨fun q hq => hp.not_last ho hq, rfl, fun result h => ?_⟩
    cases h
    exact ⟨rfl, rfl, rfl⟩
  | cancelled hr hp =>
    rw [hr.eq_startToken he] at hp ⊢
    refine .inr ⟨fun q hq => by simpa using (hp.unique hq).2, rfl, fun result h => ?_⟩
    cases h
    exact ⟨rfl, rfl, rfl⟩
  | skipped hr =>
    rw [hr.eq_startToken he]
    refine .inr ⟨fun q hq => hq.nil_not_last, rfl, fun result h => ?_⟩
    cases h
    exact ⟨rfl, rfl, rfl⟩
  | unread hl hs => exact .inr ⟨fun q hq => hq.nil_not_last, rfl, fun result h => by cases h⟩
  | broken hr hp ho =>
    rw [hr.eq_startToken he] at hp
    exact .inr ⟨fun q hq => hp.not_last ho hq, rfl, fun result h => by cases h⟩
  | @unsaved stored p _ fault _ w₁ hr hp hl hs =>
    have hk : b.KeepsTokens w₁.stores := (hl.keepsTokens_iff he).mpr (hr.keepsTokens he)
    rw [hr.eq_startToken he] at hp
    refine .inl ⟨p, hp, .inr ⟨rfl, ?_, fault, rfl⟩⟩
    -- a write that no rule covers succeeds where there is a place for tokens
    by_contra hc
    obtain ⟨p', notes, hok⟩ := Backend.saveToken_of_keeps hk user folder p.token
    rw [he, Stores.refusing_saveToken (by simpa using hc), hok] at hs
    cases hs

theorem Stands.ne_fault {xs : List SyncExchange} {ts : List Token} {fault : Fault}
    (h : Stands e user w folder xs ts (.ended (.error fault))) (he : e.stores = b.stores.refusing [])
    (hk : b.KeepsTokens w.stores) (hx : ∀ x ∈ xs, ∀ fault, x.2 ≠ .error (.fault fault)) : False := by
  cases h with
  | @unread _ _ w₁ hl hs =>
    obtain ⟨notes, hok⟩ := Backend.token_of_keeps ((hl.keepsTokens_iff he).mpr hk) user folder
    rw [he, Stores.refusing_nil, hok] at hs
    cases hs
  | broken hr hp ho =>
    exact Page.read_ne_fault (hx _ (List.mem_append_right _ List.mem_cons_self)) fault ho
  | @unsaved _ p _ _ _ w₁ hr hp hl hs =>
    obtain ⟨p', notes, hok⟩ := Backend.saveToken_of_keeps ((hl.keepsTokens_iff he).mpr hk) user folder p.token
    rw [he, Stores.refusing_nil, hok] at hs
    cases hs

/-! ## The frame of a run -/

/-- A folder that a run from `w` discovers, and whose paging among the events `es` comes to its final page at `p`. -/
def Completes (b : Backend) (e : Env τ Progress) (roots : List FolderId) (user : User) (w : World τ Progress)
    (es : List Event) (folder : FolderId) (p : Paging) : Prop :=
  (∃ folders, (discoverAll e.transport user roots [] w).1 = .ok folders ∧ folder ∈ folders) ∧
    (Paging.start folder (b.startToken w.stores user folder)).Reaches e.config.idPageSize
      (exchanges user folder es) p true

/-- What a run from `w` to `w'` leaves in the store of tokens and says about it. -/
structure TokenFrame (b : Backend) (rules : List AccessRule) (e : Env τ Progress) (roots : List FolderId) (user : User)
    (w : World τ Progress) (result : Except Fault Report) (w' : World τ Progress) : Prop where
  /-- The token of a final page is written, once. -/
  written : ∀ folder p, Completes b e roots user w (w.eventsSince w') folder p →
    rules.any (·.covers .states .put user (some folder)) = false →
    savedTokens user folder (w.eventsSince w') = [p.token] ∧ b.kept w'.stores user folder = some p.token
  /-- A refused write leaves the token, and there is no report. -/
  refused : ∀ folder p, Completes b e roots user w (w.eventsSince w') folder p →
    rules.any (·.covers .states .put user (some folder)) = true →
    savedTokens user folder (w.eventsSince w') = [] ∧ b.kept w'.stores user folder = b.kept w.stores user folder ∧
      ∃ fault, result = .error fault
  /-- No other token is written. -/
  untouched : ∀ u folder, ¬ (u = user ∧ ∃ p, Completes b e roots user w (w.eventsSince w') folder p) →
    savedTokens u folder (w.eventsSince w') = [] ∧ b.kept w'.stores u folder = b.kept w.stores u folder
  /-- A report says of every folder that did not get to its final page that it failed, with the token it keeps. -/
  reported : ∀ report folders, result = .ok report → (discoverAll e.transport user roots [] w).1 = .ok folders →
    ∀ folder ∈ folders, (∀ p, ¬ Completes b e roots user w (w.eventsSince w') folder p) →
      (∃ r ∈ report.folders, r.folder = folder) ∧ ∀ r ∈ report.folders, r.folder = folder →
        r.ok = false ∧ r.token = b.startToken w'.stores user folder
  /-- Trouble in discovery ends the run before anything is asked or written. -/
  undiscovered : ∀ trouble, (discoverAll e.transport user roots [] w).1 = .error trouble →
    (∀ u folder, exchanges u folder (w.eventsSince w') = [] ∧ savedTokens u folder (w.eventsSince w') = []) ∧
      savedWatermarks (w.eventsSince w') = [] ∧ w'.stores = w.stores ∧
      ∀ report, result = .ok report → report.folders = []

section Frames

variable {ds : List Event} {result : Except Fault Report}

theorem kept_of_savedTokens_nil (hl : w.Leads e ds w') (he : e.stores = b.stores.refusing rules) {u : User}
    {f : FolderId} (hn : savedTokens u f ds = []) : b.kept w'.stores u f = b.kept w.stores u f := by
  rw [hl.kept he, hn]
  rfl

theorem TokenFrame.ofTrouble {trouble : Trouble} (hl : w.Leads e ds w') (he : e.stores = b.stores.refusing rules)
    (hd : (discoverAll e.transport user roots [] w).1 = .error trouble) (hq : Quiet ds)
    (hresult : result = resultOfTrouble user roots trouble) : TokenFrame b rules e roots user w result w' := by
  have hno : ∀ folder p, ¬ Completes b e roots user w (w.eventsSince w') folder p := by
    rintro folder p ⟨⟨folders, hf, -⟩, -⟩
    rw [hd] at hf
    cases hf
  refine ⟨fun f p hc => absurd hc (hno f p), fun f p hc => absurd hc (hno f p), fun u f _ => ?_, ?_, ?_⟩
  · rw [hl.savedTokens_eventsSince]
    exact ⟨hq.savedTokens u f, kept_of_savedTokens_nil hl he (hq.savedTokens u f)⟩
  · intro report folders _ hf
    rw [hd] at hf
    cases hf
  · intro trouble' _
    refine ⟨fun u f => ?_, ?_, hl.stores_eq hq.savedTokens hq.savedWatermarks, fun report hr => ?_⟩
    · rw [hl.exchanges_eventsSince, hl.savedTokens_eventsSince]
      exact ⟨hq.exchanges u f, hq.savedTokens u f⟩
    · rw [hl.savedWatermarks_eventsSince]
      exact hq.savedWatermarks
    · rw [hresult] at hr
      cases trouble with
      | failure failure => cases hr; rfl
      | fault fault => cases hr

theorem TokenFrame.ofRan {folders : FolderSet} {ends : Ends} (hl : w.Leads e ds w')
    (he : e.stores = b.stores.refusing rules) (hd : (discoverAll e.transport user roots [] w).1 = .ok folders)
    (hran : Ran e roots now user w folders ends ds result) : TokenFrame b rules e roots user w result w' := by
  have hcompletes : ∀ {f p}, Completes b e roots user w (w.eventsSince w') f p ↔ f ∈ folders ∧
      (Paging.start f (b.startToken w.stores user f)).Reaches e.config.idPageSize (exchanges user f ds) p true := by
    intro f p
    unfold Completes
    rw [hd, hl.exchanges_eventsSince]
    simp
  refine ⟨fun f p hc hrules => ?_, fun f p hc hrules => ?_, fun u f hn => ?_, ?_, ?_⟩
  · obtain ⟨hf, hp⟩ := hcompletes.mp hc
    obtain ⟨r, hr⟩ := hran.exists_end hf
    obtain ⟨q, hq, ⟨ht, -⟩ | ⟨-, hrefused, -⟩⟩ | ⟨hno, -⟩ := (hran.stands _ hr).complete_or_kept he
    · obtain ⟨rfl, -⟩ := hp.unique hq
      rw [hl.savedTokens_eventsSince, hl.kept he, ht]
      exact ⟨rfl, rfl⟩
    · rw [hrules] at hrefused
      cases hrefused
    · exact absurd hp (hno p)
  · obtain ⟨hf, hp⟩ := hcompletes.mp hc
    have hn : savedTokens user f ds = [] := hl.savedTokens_of_covers he hrules
    refine ⟨by rw [hl.savedTokens_eventsSince, hn], kept_of_savedTokens_nil hl he hn, ?_⟩
    obtain ⟨r, hr⟩ := hran.exists_end hf
    obtain ⟨q, hq, ⟨ht, -⟩ | ⟨-, -, fault, rfl⟩⟩ | ⟨hno, -⟩ := (hran.stands _ hr).complete_or_kept he
    · rw [hn] at ht
      cases ht
    · exact hran.error_of_end hr
    · exact absurd hp (hno p)
  · have hnil : savedTokens u f ds = [] := by
      by_cases huf : u = user ∧ f ∈ folders
      · obtain ⟨rfl, hf⟩ := huf
        obtain ⟨r, hr⟩ := hran.exists_end hf
        obtain ⟨q, hq, -⟩ | ⟨-, hts, -⟩ := (hran.stands _ hr).complete_or_kept he
        · exact absurd ⟨rfl, q, hcompletes.mpr ⟨hf, hq⟩⟩ hn
        · exact hts
      · exact (hran.elsewhere u f huf).2
    rw [hl.savedTokens_eventsSince]
    exact ⟨hnil, kept_of_savedTokens_nil hl he hnil⟩
  · intro report folders' hreport hd' f hf hno
    subst hreport
    rw [hd] at hd'
    cases hd'
    obtain ⟨r, hr⟩ := hran.exists_end hf
    obtain ⟨q, hq, -⟩ | ⟨-, hts, hr'⟩ := (hran.stands _ hr).complete_or_kept he
    · exact absurd (hcompletes.mpr ⟨hf, hq⟩) (hno q)
    · have hends := hran.ends_eq
      obtain ⟨r₀, hr₀, heq⟩ := List.mem_map.mp (hends ▸ hr)
      cases heq
      refine ⟨⟨r₀, hr₀, rfl⟩, fun r₁ hr₁ hfolder => ?_⟩
      have hmem : (r₀.folder, Except.ok r₁) ∈ ends := by
        rw [hends]
        exact List.mem_map.mpr ⟨r₁, hr₁, by rw [hfolder]⟩
      obtain ⟨-, hok, htoken⟩ := hr' r₁ (hran.end_unique hr hmem)
      rw [Backend.startToken, kept_of_savedTokens_nil hl he hts]
      exact ⟨hok, htoken⟩
  · intro trouble ht
    rw [hd] at ht
    cases ht

end Frames

/-- **A run writes the tokens of the folders that came to their final page, each once, and no others.** -/
theorem RunsLate.tokenFrame {result : Except Fault Report} (h : RunsLate e roots now user w (result, w'))
    (he : e.stores = b.stores.refusing rules) : TokenFrame b rules e roots user w result w' := by
  obtain ⟨ds, hl, ⟨trouble, hd, hq, hresult⟩ | ⟨folders, ends, hd, hran⟩⟩ := h.cases
  · exact .ofTrouble hl he hd hq hresult
  · exact .ofRan hl he hd hran

/-- A mailbox with a new item in one folder, and a folder whose requests do not get through. -/
def halfReachable : Session where
  desk :=
    { mailbox := (({} : Mailbox).append "a" [.created "x"]).append "b" [.created "y"]
      failures := [({ operation := some .sync, target := some "b" },
        { script := .raises (.failure (.transport .badStatus (some 503))) })] }
  config := default

/-- There the token of the first folder is written and the second folder keeps none. -/
theorem halfReachable_tokenFrame : ∃ result w',
    RunsLate halfReachable.env ["root"] none "u" (halfReachable.world .never) (result, w') ∧
      Backend.memory.kept w'.stores "u" "a" = some "a@1" ∧ Backend.memory.kept w'.stores "u" "b" = none ∧
      TokenFrame .memory [] halfReachable.env ["root"] "u" (halfReachable.world .never) result w' := by
  have hout : ((syncUser halfReachable.env 9 ["root"] none "u" (halfReachable.world .never)).map fun out =>
      (Backend.memory.kept out.2.stores "u" "a", Backend.memory.kept out.2.stores "u" "b")) =
        some (some "a@1", none) := by decide +kernel
  obtain ⟨⟨result, w'⟩, hrun, hout⟩ := Option.map_eq_some_iff.mp hout
  obtain ⟨ha, hb⟩ := Prod.mk.inj hout
  have h := runsLate_of_syncUser hrun
  exact ⟨result, w', h, ha, hb, h.tokenFrame rfl⟩

end MailboxSync
