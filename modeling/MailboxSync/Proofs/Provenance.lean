import MailboxSync.Proofs.Batch
import MailboxSync.Proofs.Frame
import MailboxSync.Proofs.Watermark
import Mathlib.Data.List.Chain

/-!
# Where the tokens of requests come from

* `carriedTokens`, `Returned` — the tokens a reply carries; a token that is the first one or came back in an exchange;
* `GoesOn` — one exchange goes on from another: it asks with the last token that came back there;
* `Call.Threads` — how the sync requests of a run are made: the first for a folder carries the token kept for it,
  every later one goes on from the one before, and all are the user's own, for folders found, with the clamped page
  size;
* `Series` — runs of single users and of several, one after another;
* `Series.token_provenance` — every run of a series from empty stores makes its requests so, hence a token that is
  sent for a user's folder is the initial one or came back in an earlier exchange of the same user and the same folder.

The invariant along the runs is that the token kept for a folder has come back in an exchange of that folder
(`Call.returned_kept`); a page that carries no token keeps the one it was asked for with, so the first token may stand
for a while.
-/

namespace MailboxSync

open Journal

/-! ## Tokens that came back -/

/-- The tokens a reply carries. -/
def carriedTokens : Reply.Outcome → List Token
  | .ok (some (.synced ms)) => ms.filterMap (·.token)
  | _ => []

/-- The token is the first one, or came back in one of the exchanges. -/
def Returned (first : Token) (xs : List SyncExchange) (token : Token) : Prop :=
  token = first ∨ ∃ x ∈ xs, token ∈ carriedTokens x.2

/-- The exchange `y` goes on from `x`: messages came back there, and `y` asks with the last token among them, or again
with that of `x` if there was none. -/
def GoesOn (x y : SyncExchange) : Prop :=
  ∃ ms, x.2 = .ok (some (.synced ms)) ∧ y.1.token = (ms.filterMap (·.token)).getLast?.getD x.1.token

/-- Every request among the exchanges carries a token that came back before it. -/
def Sourced (first : Token) (xs : List SyncExchange) : Prop :=
  ∀ before x after, xs = before ++ x :: after → Returned first before x.1.token

theorem SyncMessage.lastToken_eq (asked : Token) (ms : List SyncMessage) :
    lastToken asked ms = (ms.filterMap (·.token)).getLast?.getD asked := by
  induction ms generalizing asked with
  | nil => rfl
  | cons m ms ih =>
    have hcons : lastToken asked (m :: ms) = lastToken (m.token.getD asked) ms := rfl
    rw [hcons, ih]
    cases hm : m.token with
    | none => simp [hm]
    | some token => simp [hm, List.getLast?_cons]

section Returned

variable {first mid token : Token} {xs ys : List SyncExchange}

theorem Returned.append (h : Returned first xs token) (ys : List SyncExchange) : Returned first (xs ++ ys) token := by
  rcases h with h | ⟨x, hx, ht⟩
  · exact .inl h
  · exact .inr ⟨x, List.mem_append_left _ hx, ht⟩

theorem Returned.trans (h : Returned mid ys token) (hm : Returned first xs mid) : Returned first (xs ++ ys) token := by
  rcases h with rfl | ⟨x, hx, ht⟩
  · exact hm.append ys
  · exact .inr ⟨x, List.mem_append_right _ hx, ht⟩

theorem Sourced.nil : Sourced first [] := by
  intro before x after h
  simp at h

theorem Sourced.snoc (h : Sourced first xs) {x : SyncExchange} (hx : Returned first xs x.1.token) :
    Sourced first (xs ++ [x]) := by
  intro before y after heq
  rcases List.eq_nil_or_concat after with rfl | ⟨after, z, rfl⟩
  · obtain ⟨rfl, hy⟩ := List.append_inj' heq rfl
    cases hy
    exact hx
  · have heq' : xs ++ [x] = (before ++ y :: after) ++ [z] := by simpa using heq
    obtain ⟨hxs, -⟩ := List.append_inj' heq' rfl
    exact h before y after hxs

theorem Sourced.append (h : Sourced first xs) (hm : Returned first xs mid) (hy : Sourced mid ys) :
    Sourced first (xs ++ ys) := by
  intro before x after heq
  rcases List.append_eq_append_iff.mp heq with ⟨rest, rfl, hrest⟩ | ⟨rest, rfl, hrest⟩
  · exact (hy rest x after hrest).trans hm
  · cases rest with
    | nil =>
      have hfirst : Returned mid [] x.1.token := hy [] x after (by simpa using hrest.symm)
      simpa using hfirst.trans hm
    | cons y rest =>
      obtain ⟨rfl, -⟩ := List.cons.inj hrest
      exact h before x rest rfl

end Returned

/-! ## Along a folder's pages -/

/-- How a folder's requests follow one another, the first of them with a given token. -/
structure Threaded (size : Int) (folder : FolderId) (first : Token) (xs : List SyncExchange) : Prop where
  head : ∀ x ∈ xs.head?, x.1.token = first
  chain : xs.IsChain GoesOn
  request : ∀ x ∈ xs, x.1 = .forPage folder x.1.token size
  sourced : Sourced first xs

theorem Threaded.nil (size : Int) (folder : FolderId) (first : Token) : Threaded size folder first [] :=
  ⟨by simp, .nil, by simp, .nil⟩

theorem Page.token_of_read {asked : Token} {o : Reply.Outcome} {page : Page} (h : Page.read asked o = .ok page) :
    ∃ ms, o = .ok (some (.synced ms)) ∧ page.token = (ms.filterMap (·.token)).getLast?.getD asked := by
  unfold Page.read at h
  split at h <;> try cases h
  rename_i ms
  split at h <;> cases h
  exact ⟨ms, rfl, SyncMessage.lastToken_eq asked ms⟩

namespace Paging.Reaches

variable {size : Int} {p₀ p : Paging} {xs : List SyncExchange} {last : Bool}

/-- Where paging stands: it asks next with the first token if it has asked for nothing, else it goes on from its latest
exchange. -/
theorem asks_next (h : p₀.Reaches size xs p last) :
    (xs = [] ∧ p.token = p₀.token) ∨
      ∃ ys x ms, xs = ys ++ [x] ∧ x.2 = .ok (some (.synced ms)) ∧
        p.token = (ms.filterMap (·.token)).getLast?.getD x.1.token := by
  cases h with
  | start => exact .inl ⟨rfl, rfl⟩
  | page _ ho =>
    obtain ⟨ms, rfl, htoken⟩ := Page.token_of_read ho
    exact .inr ⟨_, _, ms, rfl, rfl, htoken⟩

theorem returned (h : p₀.Reaches size xs p last) : Returned p₀.token xs p.token := by
  induction h with
  | start => exact .inl rfl
  | @page xs p o page _ ho ih =>
    obtain ⟨ms, rfl, htoken⟩ := Page.token_of_read ho
    rw [add_token, htoken]
    cases hlast : (ms.filterMap (·.token)).getLast? with
    | none => exact ih.append _
    | some token =>
      refine .inr ⟨_, List.mem_append_right _ List.mem_cons_self, ?_⟩
      exact List.mem_of_getLast? hlast

/-- One more request, with the token paging asks next with. -/
theorem threaded_snoc (h : p₀.Reaches size xs p last) (ht : Threaded size p₀.folder p₀.token xs)
    (o : Reply.Outcome) :
    Threaded size p₀.folder p₀.token (xs ++ [(.forPage p₀.folder p.token size, o)]) where
  head := by
    intro x hx
    rcases h.asks_next with ⟨rfl, htoken⟩ | ⟨ys, y, ms, rfl, -, -⟩
    · obtain rfl : _ = x := by simpa using hx
      exact htoken
    · refine ht.head x ?_
      simpa [List.head?_append] using hx
  chain := by
    refine ht.chain.append (.singleton _) fun x hx y hy => ?_
    obtain rfl : _ = y := by simpa using hy
    rcases h.asks_next with ⟨rfl, -⟩ | ⟨ys, z, ms, rfl, hms, htoken⟩
    · simp at hx
    · obtain rfl : z = x := by simpa using hx
      exact ⟨ms, hms, htoken⟩
  request := by
    intro x hx
    rcases List.mem_append.mp hx with hx | hx
    · exact ht.request x hx
    · obtain rfl := List.mem_singleton.mp hx
      rfl
  sourced := ht.sourced.snoc h.returned

theorem threaded (h : p₀.Reaches size xs p last) : Threaded size p₀.folder p₀.token xs := by
  induction h with
  | start => exact .nil ..
  | page h _ ih =>
    rw [h.folder_eq]
    exact h.threaded_snoc ih _

end Paging.Reaches

/-! ## Along a run -/

section Runs

variable {τ : Type} {b : Backend} {rules : List AccessRule}

/-- A folder that has ended asked from the token kept for it, and what was written for it had come back to it. -/
theorem Stands.threaded {e : Env τ Progress} {user : User} {w : World τ Progress} {folder : FolderId}
    {xs : List SyncExchange} {ts : List Token} {r : Except Fault FolderResult}
    (h : Stands e user w folder xs ts (.ended r)) (he : e.stores = b.stores.refusing rules) :
    Threaded e.config.idPageSize folder (b.startToken w.stores user folder) xs ∧
      ∀ token ∈ ts, Returned (b.startToken w.stores user folder) xs token := by
  have hnone : ∀ token ∈ ([] : List Token), Returned (b.startToken w.stores user folder) xs token := by simp
  cases h with
  | finished hr hp =>
    rw [hr.eq_startToken he] at hp
    refine ⟨hp.threaded, fun token ht => ?_⟩
    obtain rfl := List.mem_singleton.mp ht
    exact hp.returned
  | failed hr hp _ =>
    rw [hr.eq_startToken he] at hp
    exact ⟨hp.threaded_snoc hp.threaded _, hnone⟩
  | cancelled hr hp =>
    rw [hr.eq_startToken he] at hp
    exact ⟨hp.threaded, hnone⟩
  | skipped _ => exact ⟨.nil .., hnone⟩
  | unread _ _ => exact ⟨.nil .., hnone⟩
  | broken hr hp _ =>
    rw [hr.eq_startToken he] at hp
    exact ⟨hp.threaded_snoc hp.threaded _, hnone⟩
  | unsaved hr hp _ _ =>
    rw [hr.eq_startToken he] at hp
    exact ⟨hp.threaded, hnone⟩

namespace Call

variable {c : Call τ Progress}

/-- How the sync requests of a run are made. -/
structure Threads (b : Backend) (c : Call τ Progress) : Prop where
  /-- The first request for a folder carries the token kept for it. -/
  first : ∀ folder x xs, exchanges c.user folder c.events = x :: xs →
    x.1.token = b.startToken c.before.stores c.user folder
  /-- Every later one carries the last token that came back on the page before. -/
  next : ∀ folder, (exchanges c.user folder c.events).IsChain GoesOn
  /-- All are made for the user of the run and a folder it found, with the clamped page size. -/
  request : ∀ u r o, .asked u (.sync r) o ∈ c.events →
    u = c.user ∧ (∃ folders, c.found = .ok folders ∧ r.folder ∈ folders) ∧
      r.limit = min (max (c.env.config.idPageSize : Int) 1) 512

/-- What a run asks and writes for a user's folder, from the token kept for it before: nothing at all, unless the folder
is one the run found for that user. -/
theorem threaded (c : Call τ Progress) (he : c.env.stores = b.stores.refusing rules) (user : User)
    (folder : FolderId) :
    (Threaded c.env.config.idPageSize folder (b.startToken c.before.stores user folder)
      (exchanges user folder c.events) ∧ ∀ token ∈ savedTokens user folder c.events,
          Returned (b.startToken c.before.stores user folder) (exchanges user folder c.events) token) ∧
      (exchanges user folder c.events ≠ [] → user = c.user ∧
        ∃ folders, c.found = .ok folders ∧ folder ∈ folders) := by
  obtain ⟨ds, hl, hcases⟩ := c.runs.cases
  have hx : exchanges user folder c.events = exchanges user folder ds := hl.exchanges_eventsSince user folder
  have ht : savedTokens user folder c.events = savedTokens user folder ds := hl.savedTokens_eventsSince user folder
  rw [hx, ht]
  rcases hcases with ⟨trouble, -, hq, -⟩ | ⟨folders, ends, hd, hran⟩
  · rw [hq.exchanges, hq.savedTokens]
    exact ⟨⟨.nil .., by simp⟩, fun h => absurd rfl h⟩
  · by_cases hmine : user = c.user ∧ folder ∈ folders
    · obtain ⟨rfl, hf⟩ := hmine
      obtain ⟨r, hr⟩ := hran.exists_end hf
      exact ⟨(hran.stands _ hr).threaded he, fun _ => ⟨rfl, folders, hd, hf⟩⟩
    · obtain ⟨hnx, hnt⟩ := hran.elsewhere user folder hmine
      rw [hnx, hnt]
      exact ⟨⟨.nil .., by simp⟩, fun h => absurd rfl h⟩

theorem threads (c : Call τ Progress) (he : c.env.stores = b.stores.refusing rules) : c.Threads b where
  first := by
    intro folder x xs hxs
    obtain ⟨⟨ht, -⟩, -⟩ := c.threaded he c.user folder
    exact ht.head x (by simp [hxs])
  next := fun folder => (c.threaded he c.user folder).1.1.chain
  request := by
    intro u r o hmem
    have hexchange : (r, o) ∈ exchanges u r.folder c.events := mem_exchanges.mpr ⟨hmem, rfl⟩
    obtain ⟨⟨ht, -⟩, hmine⟩ := c.threaded he u r.folder
    obtain ⟨hu, hfound⟩ := hmine (List.ne_nil_of_mem hexchange)
    refine ⟨hu, hfound, ?_⟩
    have hr := ht.request _ hexchange
    exact congrArg SyncRequest.limit hr

theorem startToken_after (c : Call τ Progress) (he : c.env.stores = b.stores.refusing rules) (user : User)
    (folder : FolderId) : b.startToken c.after.stores user folder =
      (savedTokens user folder c.events).getLast?.getD (b.startToken c.before.stores user folder) := by
  unfold Backend.startToken
  rw [c.leads.kept he, savedTokens_deeds]
  cases (savedTokens user folder c.events).getLast? <;> rfl

theorem returned_kept (c : Call τ Progress) (he : c.env.stores = b.stores.refusing rules) (user : User)
    (folder : FolderId) :
    Returned (b.startToken c.before.stores user folder) (exchanges user folder c.events)
      (b.startToken c.after.stores user folder) := by
  obtain ⟨⟨-, hsaved⟩, -⟩ := c.threaded he user folder
  rw [c.startToken_after he]
  cases hlast : (savedTokens user folder c.events).getLast? with
  | none => exact .inl rfl
  | some token => exact hsaved token (List.mem_of_getLast? hlast)

end Call

end Runs

/-! ## Along a series -/

section Along

variable {τ ς : Type}

/-- Runs of single users and of several, one after another, with nothing happening to the stores between them. -/
inductive Series (w₀ : World τ ς) : List (Call τ ς) → World τ ς → Prop
  | nil : Series w₀ [] w₀
  | run {cs : List (Call τ ς)} {w : World τ ς} (h : Series w₀ cs w) (c : Call τ ς)
      (hn : SameStores w c.before) :
    Series w₀ (cs ++ [c]) c.after
  | batch {cs cs' : List (Call τ ς)} {w w₁ w₂ : World τ ς} {e : Env τ ς} {roots : List FolderId}
      {now : Option Stamp}
    {users : List User} (h : Series w₀ cs w) (hn : SameStores w w₁) (hb : Batch e roots now users w₁ cs' w₂) :
    Series w₀ (cs ++ cs') w₂

theorem Call.noted_stores (c : Call τ ς) : c.noted.stores = c.after.stores := by
  unfold noted
  split <;> rfl

theorem Batch.history {e : Env τ ς} {roots : List FolderId} {now : Option Stamp} {users : List User}
    {w₀ w w₁ w₂ : World τ ς} {cs cs' : List (Call τ ς)} (hb : Batch e roots now users w₁ cs' w₂)
    (h : History SameStores w₀ cs w) (hn : SameStores w w₁) :
    ∃ w', History SameStores w₀ (cs ++ cs') w' ∧ SameStores w' w₂ := by
  induction hb generalizing cs w with
  | done _ => exact ⟨w, by simpa using h, hn⟩
  | cancelled _ => exact ⟨w, by simpa using h, hn⟩
  | ran c _ _ _ _ _ ih =>
    obtain ⟨w', h', hw'⟩ := ih (h.snoc c hn) c.noted_stores
    exact ⟨w', by simpa using h', hw'⟩

theorem Series.history {w₀ w : World τ ς} {cs : List (Call τ ς)} (h : Series w₀ cs w) :
    ∃ w', History SameStores w₀ cs w' ∧ SameStores w' w := by
  induction h with
  | nil => exact ⟨w₀, .nil, rfl⟩
  | run _ c hn ih =>
    obtain ⟨w', h', hw'⟩ := ih
    exact ⟨c.after, h'.snoc c (hn.trans hw'), rfl⟩
  | batch _ hn hb ih =>
    obtain ⟨w', h', hw'⟩ := ih
    exact hb.history h' (hn.trans hw')

end Along

section Provenance

variable {τ : Type} {b : Backend}

/-- Along runs from empty stores every token sent for a folder came back before, and so has the one kept for it. -/
theorem History.all_sourced {w₀ w : World τ Progress} {cs : List (Call τ Progress)}
    (h : History SameStores w₀ cs w)
    (hempty : w₀.stores = {}) (he : ∀ c ∈ cs, ∃ rules, c.env.stores = b.stores.refusing rules) (user : User)
    (folder : FolderId) :
    Sourced .initial (exchanges user folder (cs.flatMap Call.events)) ∧
      Returned .initial (exchanges user folder (cs.flatMap Call.events)) (b.startToken w.stores user folder) := by
  induction h with
  | nil =>
    refine ⟨.nil, .inl ?_⟩
    rw [hempty]
    unfold Backend.startToken Backend.kept
    cases b.tokens <;> rfl
  | @snoc cs w _ c hn ih =>
    obtain ⟨hsourced, hkept⟩ := ih fun c' hc' => he c' (List.mem_append_left _ hc')
    obtain ⟨rules, hstores⟩ := he c (List.mem_append_right _ List.mem_cons_self)
    obtain ⟨⟨ht, -⟩, -⟩ := c.threaded hstores user folder
    have hbefore : c.before.stores = w.stores := hn
    rw [← hbefore] at hkept
    rw [List.flatMap_append, List.flatMap_singleton, exchanges_append]
    exact ⟨hsourced.append hkept ht.sourced, (c.returned_kept hstores user folder).trans hkept⟩

/-- **Every token sent for a folder came back for it.**  In a series of runs from empty stores, whatever comes back and
however the folders' turns interleave, each run makes its requests in threads, and each request carries the initial
token or one that came back in an earlier exchange of the same user and the same folder. -/
theorem Series.token_provenance {w₀ w : World τ Progress} {cs : List (Call τ Progress)} (h : Series w₀ cs w)
    (hempty : w₀.stores = {}) (he : ∀ c ∈ cs, ∃ rules, c.env.stores = b.stores.refusing rules) :
    (∀ c ∈ cs, c.Threads b) ∧
      ∀ user folder before x after, exchanges user folder (cs.flatMap Call.events) = before ++ x :: after →
        x.1.token = .initial ∨ ∃ y ∈ before, x.1.token ∈ carriedTokens y.2 := by
  obtain ⟨w', hhistory, -⟩ := h.history
  refine ⟨fun c hc => ?_, fun user folder => (hhistory.all_sourced hempty he user folder).1⟩
  obtain ⟨rules, hstores⟩ := he c hc
  exact c.threads hstores

end Provenance

/-- A folder of two pages. -/
def twoPages : Session where
  desk := { mailbox := ({} : Mailbox).append "a" [.created "x", .created "y"] }
  config := .ofSizes 1 100 1

/-- Its first run, one of a batch. -/
def firstVisit : Call Desk Progress :=
  .ofSyncUser twoPages.env 9 ["root"] none "u" (twoPages.world .never) (by decide +kernel)

def secondVisit : Call Desk Progress :=
  .ofSyncUser twoPages.env 9 ["root"] none "u" firstVisit.after (by decide +kernel)

/-- There the tokens go from page to page, and from the first run to the second. -/
theorem secondVisit_token_provenance :
    (exchanges "u" "a" ([firstVisit, secondVisit].flatMap Call.events)).map (·.1.token) = ["", "a@1", "a@2"] ∧
      (firstVisit.Threads .memory ∧ secondVisit.Threads .memory) ∧
      ∀ before x after, exchanges "u" "a" ([firstVisit, secondVisit].flatMap Call.events) = before ++ x :: after →
        x.1.token = .initial ∨ ∃ y ∈ before, x.1.token ∈ carriedTokens y.2 := by
  have hbatch : Batch twoPages.env ["root"] none ["u"] (twoPages.world .never) [firstVisit] firstVisit.noted :=
    .ran firstVisit rfl rfl rfl rfl (.done _)
  have hseries : Series (twoPages.world .never) ([] ++ [firstVisit] ++ [secondVisit]) secondVisit.after :=
    .run (.batch .nil rfl hbatch) secondVisit firstVisit.noted_stores.symm
  have hstores : ∀ c ∈ [firstVisit, secondVisit], ∃ rules, c.env.stores = Backend.memory.stores.refusing rules :=
    List.forall_mem_cons.mpr ⟨⟨[], rfl⟩, List.forall_mem_singleton.mpr ⟨[], rfl⟩⟩
  obtain ⟨hthreads, htokens⟩ := hseries.token_provenance rfl hstores
  exact ⟨by decide +kernel,
    ⟨hthreads _ List.mem_cons_self, hthreads _ (List.mem_cons_of_mem _ List.mem_cons_self)⟩, htokens "u" "a"⟩

end MailboxSync
