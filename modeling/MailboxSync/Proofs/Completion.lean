import Mathlib.Algebra.Order.Floor.Div
import MailboxSync.Proofs.Requests
import MailboxSync.Session

/-!
# A folder is paged to its end

* `Transport.Offers` — from a state on, whatever is asked, a sync request gets the mailbox's own reply;
* `Mailbox.Completes` — paging by itself, from a token at `k`, comes to the folder's end: what it brings are the items
  that the changes from `k` on created, by as many requests as these changes make pages, one at least, and every request
  asks for a full page at the token after the pages before it;
* `Transport.Offers.completes` — it does so for every page size, and paging again from the token it ended with brings
  nothing by one request.

Each request takes the offset forward by a full page or to the end, so the induction is on the changes that are left.
-/

namespace MailboxSync

open Journal

variable {τ ς : Type}

/-! ## A mailbox that answers by itself -/

/-- From the state `s` on, whatever is asked, a sync request gets the mailbox's own reply. -/
def Transport.Offers (t : Transport τ) (m : Mailbox) (s : τ) : Prop :=
  ∀ asked user r, (t.send (t.after s asked) user (.sync r)).1.outcome = .ok (m.answer (.sync r))

namespace Transport.Offers

variable {e : Env τ ς} {m : Mailbox} {w w' : World τ ς} {ds : List Event}

theorem leads (ho : e.transport.Offers m w.remote) (h : w.Leads e ds w') : e.transport.Offers m w'.remote := by
  intro asked user r
  rw [h.remote_eq, ← Transport.after_append]
  exact ho _ user r

theorem outcome_eq (ho : e.transport.Offers m w.remote) (user : User) (r : SyncRequest) :
    (e.transport.send w.remote user (.sync r)).1.outcome = .ok (some (.synced [m.serve r.folder r.token r.limit])) :=
  ho [] user r

end Transport.Offers

theorem Desk.direct_offers (listener : Option Level) {d : Desk} (hq : d.queues = []) (hf : d.failures = []) :
    (direct listener).Offers d.mailbox d := by
  have hchoose : ∀ (d : Desk) (user : User) (request : Request), d.queues = [] → d.failures = [] →
      d.choose user request = ({}, { d with seen := (user, request) :: d.seen }) := by
    intro d user request hq hf
    simp [choose, hq, hf, dequeue]
  intro asked user r
  induction asked generalizing d with
  | nil => simp [Transport.after, direct, hchoose d user _ hq hf, Script.response]
  | cons x asked ih =>
    have hsend : ((direct listener).send d x.1 x.2).2 = { d with seen := x :: d.seen } := by
      simp [direct, hchoose d _ _ hq hf]
    rw [Transport.after, hsend]
    exact ih hq hf

/-! ## The tokens and the pages on the way -/

/-- The token that the request after `i` full pages carries, when paging began with `token` at offset `k`. -/
def OffsetToken.after (folder : FolderId) (token : Token) (k limit : Nat) : Nat → Token
  | 0 => token
  | i + 1 => write folder (k + (i + 1) * limit)

theorem OffsetToken.after_succ (folder : FolderId) (token : Token) (k limit i : Nat) :
    after folder token k limit (i + 1) = after folder (write folder (k + limit)) (k + limit) limit i := by
  cases i with
  | zero => simp [after]
  | succ i =>
    have hoffset : k + (i + 1 + 1) * limit = k + limit + (i + 1) * limit := by
      rw [Nat.succ_mul (i + 1) limit]
      omega
    simp only [after, hoffset]

/-- The page of at most `limit` changes after the first `k` ones. -/
def Mailbox.pageAt (m : Mailbox) (folder : FolderId) (k limit : Nat) : Page where
  items := createdItems (((m.changes folder).drop k).take limit)
  token := OffsetToken.write folder (min (k + limit) (m.changes folder).length)
  last := decide ((m.changes folder).length ≤ k + limit)

theorem Mailbox.read_pageAt {m : Mailbox} {folder : FolderId} {token : Token} {k : Nat} (ht : TokenAt folder token k)
    (hk : k ≤ (m.changes folder).length) (limit : Int) :
    Page.read token (.ok (some (.synced [m.serve folder token limit]))) = .ok (m.pageAt folder k limit.toNat) := by
  have hserved : k + (((m.changes folder).drop k).take limit.toNat).length =
      min (k + limit.toNat) (m.changes folder).length := by
    rw [List.length_take, List.length_drop]
    omega
  have hlast : (m.changes folder).length ≤ min (k + limit.toNat) (m.changes folder).length ↔
      (m.changes folder).length ≤ k + limit.toNat := by omega
  rw [read_serve ht, hserved, pageAt]
  simp only [hlast]

/-- The number of requests that list so many changes, at most `limit` at a time. -/
def pageCount (changes limit : Nat) : Nat := max 1 (changes ⌈/⌉ limit)

theorem pageCount_of_le {changes limit : Nat} (h : changes ≤ limit) : pageCount changes limit = 1 := by
  rcases Nat.eq_zero_or_pos limit with rfl | hpos
  · simp [pageCount]
  · exact Nat.max_eq_left ((ceilDiv_le_iff_le_mul hpos).mpr (by omega))

theorem pageCount_of_lt {changes limit : Nat} (hpos : 0 < limit) (h : limit < changes) :
    pageCount changes limit = pageCount (changes - limit) limit + 1 := by
  have hrest : 1 ≤ (changes - limit) ⌈/⌉ limit := by
    by_contra hlt
    have := (ceilDiv_le_iff_le_mul (b := changes - limit) (c := 0) hpos).mp (by omega)
    omega
  have hsplit : changes ⌈/⌉ limit = (changes - limit) ⌈/⌉ limit + 1 := by
    rw [Nat.ceilDiv_eq_add_pred_div, Nat.ceilDiv_eq_add_pred_div, ← Nat.add_div_right _ hpos]
    congr 1
    omega
  unfold pageCount
  omega

/-! ## Paging to the end -/

/-- What paging a folder by itself comes to, from a token at offset `k`, on a mailbox that answers by itself. -/
structure Mailbox.Completes (m : Mailbox) (e : Env τ ς) (user : User) (folder : FolderId) (token : Token) (k : Nat)
    (size : Int) (w : World τ ς) (p : Paging) (w' : World τ ς) : Prop where
  /-- It ends there, with as many turns as requests. -/
  ends : ∀ fuel, p.requests ≤ fuel → syncFolder e.transport fuel folder user token size w = some (.ok p, w')
  folder_eq : p.folder = folder
  items_eq : p.items = createdItems ((m.changes folder).drop k)
  token_eq : p.token = OffsetToken.write folder (m.changes folder).length
  requests_eq : p.requests = max 1 (((m.changes folder).length - k) ⌈/⌉ (min (max size 1) 512).toNat)
  /-- Every request asks for a full page. -/
  asked : requests (w.eventsSince w') = (List.range p.requests).map fun i => (user, .sync
    { folder, token := OffsetToken.after folder token k (min (max size 1) 512).toNat i, limit := min (max size 1) 512 })

section Ending

variable {e : Env τ ς} {m : Mailbox} {folder : FolderId} {token : Token} {k : Nat} {w : World τ ς}

/-- Paging that stands at offset `k` goes on to the end of the folder. -/
theorem Transport.Offers.run_ends (ho : e.transport.Offers m w.remote) (hu : w.Unthreatened e.transport) {p : Paging}
    (hp : p.folder = folder) (ht : TokenAt folder p.token k) (hk : k ≤ (m.changes folder).length) (user : User)
    (size : Int) : ∃ q v ds, w.Acts e ds v ∧
      (∀ fuel, pageCount ((m.changes folder).length - k) (clampPageSize size).toNat ≤ fuel →
        p.run e.transport user size fuel w = some (.ok q, v)) ∧
      q.folder = folder ∧ q.items = p.items ++ createdItems ((m.changes folder).drop k) ∧
      q.token = OffsetToken.write folder (m.changes folder).length ∧
      q.requests = p.requests + pageCount ((m.changes folder).length - k) (clampPageSize size).toNat ∧
      requests ds = (List.range (pageCount ((m.changes folder).length - k) (clampPageSize size).toNat)).map fun i =>
        (user, .sync (.forPage folder (OffsetToken.after folder p.token k (clampPageSize size).toNat i) size)) := by
  have hlimit : 0 < (clampPageSize size).toNat := by
    have := (clampPageSize_bounds size).1
    omega
  induction hleft : (m.changes folder).length - k using Nat.strong_induction_on generalizing k p w with
  | _ left ih =>
    subst hp
    obtain ⟨v, hv⟩ := p.run_steps e user size w
    rw [ho.outcome_eq] at hv
    have hread := Mailbox.read_pageAt ht hk (clampPageSize size)
    cases hv with
    | cut hc _ _ =>
      rw [hu.uncancelled .refl] at hc
      cases hc
    | refused _ _ hpage _ => cases hpage.symm.trans hread
    | ended _ ha hpage hlast hrun =>
      cases hpage.symm.trans hread
      have hle : left ≤ (clampPageSize size).toNat := by
        have := of_decide_eq_true hlast
        omega
      have hall : ((m.changes p.folder).drop k).take (clampPageSize size).toNat = (m.changes p.folder).drop k :=
        List.take_of_length_le (by rw [List.length_drop]; omega)
      have hend : min (k + (clampPageSize size).toNat) (m.changes p.folder).length = (m.changes p.folder).length := by
        omega
      rw [pageCount_of_le hle]
      refine ⟨p.add (m.pageAt p.folder k (clampPageSize size).toNat), v, _, ha,
        fun fuel hfuel => ?_, rfl, ?_, ?_, rfl, rfl⟩
      · obtain ⟨n, rfl⟩ := Nat.exists_eq_add_of_le' hfuel
        exact hrun n
      · rw [Paging.add_items, Mailbox.pageAt, hall]
      · rw [Paging.add_token, Mailbox.pageAt, hend]
    | paged _ ha hpage hlast hrun =>
      cases hpage.symm.trans hread
      have hlt : (clampPageSize size).toNat < left := by
        have := of_decide_eq_false hlast
        omega
      have hoffset : min (k + (clampPageSize size).toNat) (m.changes p.folder).length =
          k + (clampPageSize size).toNat := by omega
      have htoken : (p.add (m.pageAt p.folder k (clampPageSize size).toNat)).token =
          OffsetToken.write p.folder (k + (clampPageSize size).toNat) := by
        rw [Paging.add_token, Mailbox.pageAt, hoffset]
      obtain ⟨q, u, ds, ha', hrun', hfolder, hitems, hend, hcount, hasked⟩ := ih _ (by omega) (ho.leads ha.leads)
        (hu.acts ha) (Paging.add_folder ..) (.inr htoken) (by omega) (Nat.sub_add_eq _ k (clampPageSize size).toNat)
      rw [hleft] at hrun' hcount hasked
      rw [pageCount_of_lt hlimit hlt]
      refine ⟨q, u, _, ha.trans ha', fun fuel hfuel => ?_, hfolder, ?_, hend, ?_, ?_⟩
      · obtain ⟨n, rfl⟩ := Nat.exists_eq_add_of_le' (Nat.le_trans (Nat.le_add_left 1 _) hfuel)
        rw [hrun]
        exact hrun' n (by omega)
      · rw [hitems, Paging.add_items, Mailbox.pageAt, List.append_assoc, ← createdItems_append, ← List.drop_drop,
          List.take_append_drop]
      · rw [hcount, Paging.add_requests]
        omega
      · rw [requests_append, requests_asked, hasked, htoken, List.range_succ_eq_map, List.map_cons, List.map_map]
        refine congrArg _ (List.map_congr_left fun i _ => ?_)
        simp only [Function.comp, OffsetToken.after_succ]

theorem Transport.Offers.exists_completes (ho : e.transport.Offers m w.remote) (hu : w.Unthreatened e.transport)
    (ht : TokenAt folder token k) (hk : k ≤ (m.changes folder).length) (user : User) (size : Int) :
    ∃ p w', m.Completes e user folder token k size w p w' ∧ e.transport.Offers m w'.remote ∧
      w'.Unthreatened e.transport := by
  obtain ⟨p, w', ds, ha, hrun, hfolder, hitems, htoken, hcount, hasked⟩ :=
    ho.run_ends (p := .start folder token) hu rfl ht hk user size
  replace hcount : p.requests = pageCount ((m.changes folder).length - k) (clampPageSize size).toNat :=
    hcount.trans (Nat.zero_add _)
  refine ⟨p, w', ⟨fun fuel hfuel => hrun fuel (hcount ▸ hfuel), hfolder, hitems, htoken, hcount, ?_⟩,
    ho.leads ha.leads, hu.acts ha⟩
  rw [← requests_deeds, ha.leads.deeds_eventsSince, hasked, hcount]
  rfl

/-- **A folder is paged to its end**, whatever the page size: on a mailbox that answers by itself paging returns, with
the items created since the token, the token at the end, and one request for each page.  Paging again from there, with
any page size, brings nothing new, keeps the token and takes one request. -/
theorem Transport.Offers.completes (ho : e.transport.Offers m w.remote) (hu : w.Unthreatened e.transport)
    (ht : TokenAt folder token k) (hk : k ≤ (m.changes folder).length) (user : User) (size : Int) :
    ∃ p w', m.Completes e user folder token k size w p w' ∧
      ∀ size', ∃ p' w'', m.Completes e user folder p.token (m.changes folder).length size' w' p' w'' ∧
        p'.items = [] ∧ p'.token = p.token ∧ p'.requests = 1 := by
  obtain ⟨p, w', hp, ho', hu'⟩ := ho.exists_completes hu ht hk user size
  refine ⟨p, w', hp, fun size' => ?_⟩
  obtain ⟨p', w'', hp', -, -⟩ := ho'.exists_completes hu' (.inr hp.token_eq) (Nat.le_refl _) user size'
  refine ⟨p', w'', hp', ?_, hp'.token_eq.trans hp.token_eq.symm, ?_⟩
  · rw [hp'.items_eq, List.drop_length]
    rfl
  · rw [hp'.requests_eq, Nat.sub_self, zero_ceilDiv]
    rfl

end Ending

/-- A folder of five changes, of which the second is no creation and the third has no id. -/
def fiveChanges : Session where
  desk :=
    { mailbox := ({} : Mailbox).append "a" [.created "x", .updated "x", .created "", .deleted "x", .created "y"] }
  config := default

/-- From the first of them on the rest is paged by two at a time, and once more by none. -/
theorem fiveChanges_completes : ∃ p w', fiveChanges.desk.mailbox.Completes fiveChanges.env "u" "a" "a@1" 1 2
    (fiveChanges.world .never) p w' ∧ p.items = ["y"] ∧ p.token = "a@5" ∧ p.requests = 2 := by
  have ht : TokenAt "a" "a@1" 1 := .inr (by decide +kernel)
  obtain ⟨p, w', hp, -⟩ := (Desk.direct_offers none rfl rfl).completes (e := fiveChanges.env)
    (w := fiveChanges.world .never) (.inl rfl) ht (by decide +kernel) "u" 2
  have hitems : createdItems ((fiveChanges.desk.mailbox.changes "a").drop 1) = ["y"] := by decide +kernel
  exact ⟨p, w', hp, hp.items_eq.trans hitems, hp.token_eq.trans (by decide +kernel),
    hp.requests_eq.trans (by decide +kernel)⟩

end MailboxSync
