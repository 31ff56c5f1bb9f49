import MailboxSync.Mailbox.Desk
import MailboxSync.Proofs.Stores

/-!
# A mailbox that serves, and failures between its answers

* `TokenAt folder token k` — the token says that the first `k` changes of the folder have been served;
* `Mailbox.Answers` — a reply of the mailbox itself, or a failure put in its place;
* `Paging.Reaches.served` — paging along such replies from a token at `k` comes to a token at some `k + n`, and its
  items are those created by the `n` changes between;
* `Transport.Serves` — from a state on, whatever is asked, every reply is such a reply of the same mailbox; then so is
  every reply in a run, and no fault comes of one.
-/

namespace MailboxSync

open Journal

/-- The items that changes create, empty ids left out. -/
def createdItems (changes : List Change) : List ItemId := (changes.filterMap Change.created?).filter (· ≠ "")

theorem createdItems_append (xs ys : List Change) : createdItems (xs ++ ys) = createdItems xs ++ createdItems ys := by
  simp [createdItems]

/-- The token after the first `k` changes of a folder; before the first sync it is the initial one. -/
def TokenAt (folder : FolderId) (token : Token) (k : Nat) : Prop :=
  (token = .initial ∧ k = 0) ∨ token = OffsetToken.write folder k

theorem TokenAt.offset? {folder : FolderId} {token : Token} {k : Nat} (h : TokenAt folder token k) :
    OffsetToken.offset? folder token = some k := by
  rcases h with ⟨rfl, rfl⟩ | rfl
  · simp [OffsetToken.offset?]
  · exact OffsetToken.offset?_write folder k

/-! ## One reply -/

namespace Mailbox

variable {m : Mailbox} {r : SyncRequest} {o : Reply.Outcome}

/-- The replies to a request: to a sync request the mailbox's own, to a find request any response, and to every request
a failure, no response, or a response that reports an error. -/
inductive Answers (m : Mailbox) : Request → Reply.Outcome → Prop
  | own (r : SyncRequest) : Answers m (.sync r) (.ok (m.answer (.sync r)))
  | found (r : FindRequest) (response : Option Response) : Answers m (.find r) (.ok response)
  | failed (request : Request) (failure : Failure) : Answers m request (.error (.failure failure))
  | null (request : Request) : Answers m request (.ok none)
  | coded (r : SyncRequest) {ms : List SyncMessage} (h : (SyncMessage.firstError ms).isSome) :
    Answers m (.sync r) (.ok (some (.synced ms)))

theorem Answers.ne_fault {request : Request} (h : m.Answers request o) (fault : Fault) :
    o ≠ .error (.fault fault) := by
  cases h <;> simp

theorem Answers.eq_own (h : m.Answers (.sync r) o) {page : Page} (hread : Page.read r.token o = .ok page) :
    o = .ok (some (.synced [m.serve r.folder r.token r.limit])) := by
  cases h with
  | own => rfl
  | failed => cases hread
  | null => cases hread
  | coded _ hcode =>
    obtain ⟨⟨code, text⟩, hcode⟩ := Option.isSome_iff_exists.mp hcode
    simp [Page.read, hcode] at hread

theorem read_serve {folder : FolderId} {token : Token} {k : Nat} (h : TokenAt folder token k) (limit : Int) :
    Page.read token (.ok (some (.synced [m.serve folder token limit]))) = .ok
      { items := createdItems (((m.changes folder).drop k).take limit.toNat)
        token := OffsetToken.write folder (k + (((m.changes folder).drop k).take limit.toNat).length)
        last := decide ((m.changes folder).length ≤ k + (((m.changes folder).drop k).take limit.toNat).length) } := by
  simp [Page.read, serve, h.offset?, SyncMessage.firstError, noError, Page.ofMessages, SyncMessage.newItems,
    SyncMessage.lastToken, SyncMessage.lastFlag, page, createdItems]

end Mailbox

/-! ## Along a folder's pages -/

/-- **Paging along the replies of a mailbox** goes through its changes one after another. -/
theorem Paging.Reaches.served {m : Mailbox} {size : Int} {folder : FolderId} {token : Token} {xs : List SyncExchange}
    {p : Paging} {last : Bool} {k : Nat} (h : (Paging.start folder token).Reaches size xs p last)
    (hx : ∀ x ∈ xs, m.Answers (.sync x.1) x.2) (ht : TokenAt folder token k)
    (hk : k ≤ (m.changes folder).length) :
    ∃ n, k + n ≤ (m.changes folder).length ∧ TokenAt folder p.token (k + n) ∧
      p.items = createdItems (((m.changes folder).drop k).take n) := by
  induction h with
  | start => exact ⟨0, hk, ht, rfl⟩
  | @page xs p o page h ho ih =>
    obtain ⟨n, hn, htoken, hitems⟩ := ih fun x hmem => hx x (List.mem_append_left _ hmem)
    have hfolder : p.folder = folder := h.folder_eq
    have hown := (hx _ (List.mem_append_right _ List.mem_cons_self)).eq_own ho
    simp only [SyncRequest.forPage, hfolder] at hown
    rw [hown, Mailbox.read_serve htoken] at ho
    cases ho
    generalize hserved : ((m.changes folder).drop (k + n)).take (clampPageSize size).toNat = served
    have hlen : served.length ≤ (m.changes folder).length - (k + n) := by
      rw [← hserved, List.length_take, List.length_drop]
      exact Nat.min_le_right _ _
    refine ⟨n + served.length, by omega, .inr (by rw [add_token, Nat.add_assoc]), ?_⟩
    have htake : ((m.changes folder).drop (k + n)).take served.length = served := by
      have hpre : served <+: (m.changes folder).drop (k + n) := hserved ▸ List.take_prefix _ _
      exact (List.prefix_iff_eq_take.mp hpre).symm
    rw [add_items, hitems, ← createdItems_append, List.take_add, List.drop_drop, htake]

/-! ## Transports -/

variable {τ : Type} {t : Transport τ} {box : τ → Mailbox}

/-- The state of a service after some requests. -/
def Transport.after (t : Transport τ) (s : τ) : List (User × Request) → τ
  | [] => s
  | (user, request) :: rest => t.after (t.send s user request).2 rest

/-- From the state `s` on, whatever is asked, the mailbox stays as it is and every reply is one of it. -/
def Transport.Serves (t : Transport τ) (box : τ → Mailbox) (s : τ) : Prop :=
  ∀ asked, box (t.after s asked) = box s ∧
    ∀ user request, (box s).Answers request (t.send (t.after s asked) user request).1.outcome

namespace Transport.Serves

variable {s : τ}

theorem answers (h : t.Serves box s) (user : User) (request : Request) :
    (box s).Answers request (t.send s user request).1.outcome := (h []).2 user request

theorem box_eq (h : t.Serves box s) (user : User) (request : Request) : box (t.send s user request).2 = box s :=
  (h [(user, request)]).1

theorem send (h : t.Serves box s) (user : User) (request : Request) : t.Serves box (t.send s user request).2 := by
  intro asked
  rw [h.box_eq]
  exact h ((user, request) :: asked)

theorem ofInvariant (good : τ → Prop)
    (hbox : ∀ s, good s → ∀ user request, box (t.send s user request).2 = box s)
    (hgood : ∀ s, good s → ∀ user request, good (t.send s user request).2)
    (hanswers : ∀ s, good s → ∀ user request, (box s).Answers request (t.send s user request).1.outcome)
    (hs : good s) : t.Serves box s := by
  intro asked
  induction asked generalizing s with
  | nil => exact ⟨rfl, hanswers s hs⟩
  | cons x asked ih =>
    rw [← hbox s hs x.1 x.2]
    exact ih (hgood s hs x.1 x.2)

end Transport.Serves

/-! ## Along deeds -/

namespace World.Leads

variable {ς : Type} {e : Env τ ς} {w w' : World τ ς} {ds : List Event}

/-- Every reply among the deeds is one of the mailbox, which is the same afterwards and still served. -/
theorem served (h : w.Leads e ds w') (hs : e.transport.Serves box w.remote) :
    e.transport.Serves box w'.remote ∧ box w'.remote = box w.remote ∧
      ∀ user request o, .asked user request o ∈ ds → (box w.remote).Answers request o := by
  induction h with
  | refl => exact ⟨hs, rfl, by simp⟩
  | note _ _ ih => exact ih
  | trip _ ih => exact ih
  | @ask ds w₁ _ user request ih =>
    obtain ⟨hs₁, hbox, hds⟩ := ih
    rw [ask_remote, ask_fst]
    refine ⟨hs₁.send user request, (hs₁.box_eq user request).trans hbox, fun u r o hmem => ?_⟩
    rcases List.mem_append.mp hmem with hmem | hmem
    · exact hds u r o hmem
    · obtain ⟨rfl, rfl, rfl⟩ : u = user ∧ r = request ∧ o = _ := by simpa using hmem
      exact hbox ▸ hs₁.answers u r
  | writeToken _ hw ih =>
    obtain ⟨_, -, hremote, -⟩ := writeToken_ok hw
    obtain ⟨hs₁, hbox, hds⟩ := ih
    rw [hremote]
    exact ⟨hs₁, hbox, fun u r o hmem => hds u r o (by simpa using hmem)⟩
  | writeWatermark _ hw ih =>
    obtain ⟨_, -, hremote, -⟩ := writeWatermark_ok hw
    obtain ⟨hs₁, hbox, hds⟩ := ih
    rw [hremote]
    exact ⟨hs₁, hbox, fun u r o hmem => hds u r o (by simpa using hmem)⟩

theorem served_exchanges (h : w.Leads e ds w') (hs : e.transport.Serves box w.remote) (user : User)
    (folder : FolderId) : ∀ x ∈ exchanges user folder ds, (box w.remote).Answers (.sync x.1) x.2 := by
  intro x hx
  obtain ⟨ev, hev, heq⟩ := List.mem_filterMap.mp hx
  cases ev with
  | asked u request o =>
    cases request with
    | sync r =>
      simp only [Event.exchange?, Option.ite_none_right_eq_some, Option.some.injEq] at heq
      obtain ⟨-, rfl⟩ := heq
      exact (h.served hs).2.2 u (.sync r) o hev
    | find r => simp [Event.exchange?] at heq
    | other name => simp [Event.exchange?] at heq
  | _ => simp [Event.exchange?] at heq

end World.Leads

/-! ## A desk serves -/

/-- The answer is the mailbox's own, or a failure in its place. -/
def Canned.Injects (c : Canned) : Prop :=
  match c.script with
  | .own | .null | .raises (.failure _) => True
  | .code (some code) => code ≠ noError
  | _ => False

namespace Desk

variable {d : Desk} {user : User} {request : Request}

/-- Every answer that is in store for a request is such an answer. -/
def Injects (d : Desk) : Prop :=
  (∀ q ∈ d.queues, ∀ c ∈ q.2, c.Injects) ∧ ∀ f ∈ d.failures, f.2.Injects

/-- The answer taken from the queues was in one of them, and what is left was in them too. -/
theorem dequeue_injects {queues queues' : List (Rule × List Canned)} {c : Canned}
    (h : dequeue user request queues = some (c, queues')) (hq : ∀ q ∈ queues, ∀ c ∈ q.2, c.Injects) :
    c.Injects ∧ ∀ q ∈ queues', ∀ c ∈ q.2, c.Injects := by
  induction queues generalizing queues' with
  | nil => cases h
  | cons q queues ih =>
    obtain ⟨rule, canned⟩ := q
    unfold dequeue at h
    split at h
    · cases h
      have hfirst := hq _ List.mem_cons_self
      refine ⟨hfirst _ List.mem_cons_self, fun q hmem => ?_⟩
      rcases List.mem_cons.mp hmem with rfl | hmem
      · exact fun c hc => hfirst c (List.mem_cons_of_mem _ hc)
      · exact hq q (List.mem_cons_of_mem _ hmem)
    · obtain ⟨⟨c', rest⟩, hrest, heq⟩ := Option.map_eq_some_iff.mp h
      cases heq
      obtain ⟨hc, hrest⟩ := ih hrest fun q hmem => hq q (List.mem_cons_of_mem _ hmem)
      refine ⟨hc, fun q hmem => ?_⟩
      rcases List.mem_cons.mp hmem with rfl | hmem
      · exact hq _ List.mem_cons_self
      · exact hrest q hmem

theorem choose_injects (h : d.Injects) (user : User) (request : Request) :
    (d.choose user request).1.Injects ∧ (d.choose user request).2.Injects ∧
      (d.choose user request).2.mailbox = d.mailbox := by
  unfold choose
  dsimp only
  cases hq : dequeue user request d.queues with
  | some r =>
    obtain ⟨c, queues⟩ := r
    obtain ⟨hc, hqueues⟩ := dequeue_injects hq h.1
    exact ⟨hc, ⟨hqueues, h.2⟩, rfl⟩
  | none =>
    refine ⟨?_, h, rfl⟩
    dsimp only
    cases hf : d.failures.find? fun f => f.1.fits user request with
    | none => trivial
    | some f => exact h.2 f (List.mem_of_find?_eq_some hf)

/-- What a script of this kind gives is a reply of the mailbox. -/
theorem response_answers {c : Canned} (hc : c.Injects) (m : Mailbox) (request : Request) :
    (∀ exchange, c.script ≠ .http exchange) ∧ m.Answers request (c.script.response m request) := by
  unfold Canned.Injects at hc
  cases hs : c.script with
  | own =>
    refine ⟨by simp, ?_⟩
    cases request with
    | find r => exact .found r _
    | sync r => exact .own r
    | other name => exact .null _
  | null => exact ⟨by simp, .null request⟩
  | raises trouble =>
    rw [hs] at hc
    cases trouble with
    | failure failure => exact ⟨by simp, .failed request failure⟩
    | fault fault => cases hc
  | code code =>
    rw [hs] at hc
    cases code with
    | none => cases hc
    | some code =>
      refine ⟨by simp, ?_⟩
      cases request with
      | find r => exact .found r _
      | sync r =>
        have hcode : code ≠ noError := hc
        exact .coded r (by simp [ScriptMessage.toSync, SyncMessage.firstError, hcode])
      | other name => exact .null _
  | _ =>
    rw [hs] at hc
    cases hc

theorem direct_send (listener : Option Level) (h : d.Injects) (user : User) (request : Request) :
    ((direct listener).send d user request).2 = (d.choose user request).2 ∧
      d.mailbox.Answers request ((direct listener).send d user request).1.outcome := by
  obtain ⟨hc, -, hm⟩ := choose_injects h user request
  obtain ⟨hhttp, ha⟩ := response_answers hc d.mailbox request
  rw [← hm] at ha ⊢
  unfold direct
  dsimp only
  generalize d.choose user request = r at hhttp ha ⊢
  obtain ⟨canned, d'⟩ := r
  cases hs : canned.script with
  | http exchange => exact absurd hs (hhttp exchange)
  | _ =>
    simp only [hs] at ha ⊢
    exact ⟨trivial, ha⟩

/-- **A desk with such answers serves its mailbox.** -/
theorem direct_serves (listener : Option Level) (h : d.Injects) : (direct listener).Serves Desk.mailbox d := by
  refine .ofInvariant Injects ?_ ?_ ?_ h
  · intro d hd user request
    rw [(direct_send listener hd user request).1]
    exact (choose_injects hd user request).2.2
  · intro d hd user request
    rw [(direct_send listener hd user request).1]
    exact (choose_injects hd user request).2.1
  · exact fun d hd user request => (direct_send listener hd user request).2

end Desk

end MailboxSync
