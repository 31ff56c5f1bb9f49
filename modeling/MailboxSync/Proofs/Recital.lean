import MailboxSync.Proofs.Requests
import MailboxSync.Session

/-!
# What a folder comes to by the replies it gets

* `Recital` — replies given one after another; `Recital.stop` is the number of the first that fails or ends the
  folder, `Recital.cut` how many requests go out before the cancel event is seen;
* `Recital.comesTo`, `Recital.asks` — what paging comes to by such replies and which requests it makes, read off the
  replies as a whole: up to the page that stops it, or up to the cancel event, whichever comes first;
* `Transport.Recites.syncFolder_eq` — paging by itself comes to that.

The pages are taken one by one and each goes on from the one before, so the induction is on the replies that are left,
for paging that stands anywhere.
-/

namespace MailboxSync

open Journal

/-- Replies to a folder's requests, one after another. -/
abbrev Recital := List Reply

/-! ## One reply -/

/-- The messages of a reply. -/
def Reply.messages (reply : Reply) : List SyncMessage :=
  match reply.outcome with
  | .ok (some (.synced ms)) => ms
  | _ => []

/-- Why the page of a reply fails, if it does: there is no response, it is of the wrong kind, or one of its messages has
a code other than that of success. -/
def Reply.refusal? (reply : Reply) : Option Trouble :=
  match reply.outcome with
  | .error trouble => some trouble
  | .ok none => some (.failure (.protocol .noSyncResponse none))
  | .ok (some (.found ms)) => some (.failure (.protocol (.wrongKind .sync (Response.found ms).typeName) none))
  | .ok (some (.synced ms)) =>
    ((ms.filterMap (·.code)).find? (· ≠ noError)).map fun code => .failure (.protocol .errorCode (some code))

/-- Whether the page of a reply is the last: it has no messages, or the last flag among them says so. -/
def Reply.isLast (reply : Reply) : Bool :=
  reply.messages.isEmpty || (reply.messages.filterMap (·.last)).getLast? = some true

/-- Whether paging stops at a reply. -/
def Reply.stops (reply : Reply) : Bool := reply.refusal?.isSome || reply.isLast

/-! ## All replies -/

namespace Recital

/-- The number of replies that come before the one paging stops at. -/
def stop (rs : Recital) : Nat := rs.findIdx Reply.stops

/-- The number of requests before the cancel event is seen to be set, if it ever is. -/
def cut (event : Option Bool) (rs : Recital) : Option Nat :=
  match event with
  | none => none
  | some true => some 0
  | some false => (rs.findIdx? (·.cancels)).map (· + 1)

/-- The same, if paging has not stopped by then. -/
def cutInTime (event : Option Bool) (rs : Recital) : Option Nat := (rs.cut event).filter (· ≤ rs.stop)

/-- The messages of the first `n` replies. -/
def heard (rs : Recital) (n : Nat) : List SyncMessage := (rs.take n).flatMap Reply.messages

/-- The token after the first `n` replies: the last one among their messages, or else the one asked with first. -/
def tokenAfter (rs : Recital) (token : Token) (n : Nat) : Token :=
  ((rs.heard n).filterMap (·.token)).getLast?.getD token

def itemsIn (rs : Recital) (n : Nat) : List ItemId :=
  (((rs.heard n).filterMap (·.changes)).flatMap (·.created)).filter (· ≠ "")

/-- What paging that stands at `p` comes to, by replies after which there is `exhausted`: it is cut off by the cancel
event if that is seen in time, else it fails with the page it stops at or finishes with it. -/
def comesTo (rs : Recital) (exhausted : Trouble) (event : Option Bool) (p : Paging) : Except Trouble FolderResult :=
  match rs.cutInTime event with
  | some n => .error (.failure (.cancelled (.afterRequests p.folder (p.requests + n))))
  | none =>
    match (rs[rs.stop]?).elim (some exhausted) Reply.refusal? with
    | some trouble => .error trouble
    | none => .ok
      { folder := p.folder, items := p.items ++ rs.itemsIn (rs.stop + 1), token := rs.tokenAfter p.token (rs.stop + 1)
        requests := p.requests + (rs.stop + 1) }

def count (rs : Recital) (event : Option Bool) : Nat := (rs.cutInTime event).getD (rs.stop + 1)

/-- The requests it makes for that, each with the token after the replies before it. -/
def asks (rs : Recital) (event : Option Bool) (p : Paging) (size : Int) : List SyncRequest :=
  (List.range (rs.count event)).map fun i => .forPage p.folder (rs.tokenAfter p.token i) size

/-! ## From one reply to the rest -/

section Cons

variable {reply : Reply} {rs : Recital} {event : Option Bool} {p : Paging}

theorem stop_of_stops (h : reply.stops = true) : stop (reply :: rs) = 0 := by simp [stop, List.findIdx_cons, h]

theorem stop_of_not_stops (h : reply.stops = false) : stop (reply :: rs) = rs.stop + 1 := by
  simp [stop, List.findIdx_cons, h]

theorem cut_cons (he : event ≠ some true) :
    cut event (reply :: rs) = (rs.cut (event.map (· || reply.cancels))).map (· + 1) := by
  rcases event with _ | _ | _
  · rfl
  · rcases hc : reply.cancels <;> simp [cut, List.findIdx?_cons, hc, Function.comp_def]
  · exact absurd rfl he

theorem cutInTime_of_set : cutInTime (some true) rs = some 0 := by simp [cutInTime, cut, Option.filter]

theorem cutInTime_nil (he : event ≠ some true) : cutInTime event [] = none := by
  rcases event with _ | _ | _
  · rfl
  · rfl
  · exact absurd rfl he

theorem cutInTime_of_stops (he : event ≠ some true) (h : reply.stops = true) :
    cutInTime event (reply :: rs) = none := by
  rw [cutInTime, cut_cons he, stop_of_stops h]
  cases rs.cut (event.map (· || reply.cancels)) <;> simp

theorem cutInTime_of_not_stops (he : event ≠ some true) (h : reply.stops = false) :
    cutInTime event (reply :: rs) = (rs.cutInTime (event.map (· || reply.cancels))).map (· + 1) := by
  rw [cutInTime, cutInTime, cut_cons he, stop_of_not_stops h]
  cases rs.cut (event.map (· || reply.cancels)) with
  | none => rfl
  | some n => by_cases hn : n ≤ rs.stop <;> simp [Option.filter, hn]

theorem tokenAfter_zero (rs : Recital) (token : Token) : rs.tokenAfter token 0 = token := by simp [tokenAfter, heard]

theorem tokenAfter_cons (reply : Reply) (rs : Recital) (token : Token) (n : Nat) :
    tokenAfter (reply :: rs) token (n + 1) = rs.tokenAfter (tokenAfter [reply] token 1) n := by
  simp [tokenAfter, heard, List.getLast?_append, Option.getD_or]

theorem itemsIn_cons (reply : Reply) (rs : Recital) (n : Nat) :
    itemsIn (reply :: rs) (n + 1) = itemsIn [reply] 1 ++ rs.itemsIn n := by
  simp [itemsIn, heard]

end Cons

end Recital

/-! ## The page of a reply -/

namespace SyncMessage

theorem foldl_getD {α : Type} (f : SyncMessage → Option α) (a : α) (ms : List SyncMessage) :
    ms.foldl (fun a m => (f m).getD a) a = (ms.filterMap f).getLast?.getD a := by
  induction ms generalizing a with
  | nil => rfl
  | cons m ms ih => cases hm : f m <;> simp [ih, hm, List.getLast?_cons]

theorem newItems_eq (ms : List SyncMessage) :
    newItems ms = ((ms.filterMap (·.changes)).flatMap (·.created)).filter (· ≠ "") := by
  have hcreated :
      (ms.flatMap fun m => (m.changes.getD {}).created) = (ms.filterMap (·.changes)).flatMap (·.created) := by
    induction ms with
    | nil => rfl
    | cons m ms ih => cases hm : m.changes <;> simp [ih, hm]
  rw [newItems, hcreated]

theorem firstError_map_fst (ms : List SyncMessage) :
    (firstError ms).map (·.1) = (ms.filterMap (·.code)).find? (· ≠ noError) := by
  induction ms with
  | nil => rfl
  | cons m ms ih =>
    cases hm : m.code with
    | none => simpa [firstError, hm] using ih
    | some code =>
      by_cases hcode : code = noError
      · simpa [firstError, hm, hcode] using ih
      · simp [firstError, hm, hcode]

end SyncMessage

namespace Reply

variable {reply : Reply}

theorem read_of_refused {trouble : Trouble} (h : reply.refusal? = some trouble) (token : Token) :
    Page.read token reply.outcome = .error trouble := by
  unfold refusal? at h
  split at h <;> rename_i ho <;> rw [ho]
  · cases h; rfl
  · cases h; rfl
  · cases h; rfl
  · rw [← SyncMessage.firstError_map_fst] at h
    obtain ⟨code, hcode, rfl⟩ := Option.map_eq_some_iff.mp h
    obtain ⟨⟨_, text⟩, herror, rfl⟩ := Option.map_eq_some_iff.mp hcode
    simp [Page.read, herror]

/-- The page of any other reply holds what its messages say. -/
theorem read_of_accepted (h : reply.refusal? = none) (token : Token) :
    Page.read token reply.outcome = .ok
      { items := Recital.itemsIn [reply] 1, token := Recital.tokenAfter [reply] token 1, last := reply.isLast } := by
  unfold refusal? at h
  split at h
  · cases h
  · cases h
  · cases h
  · rename_i ms ho
    rw [← SyncMessage.firstError_map_fst, Option.map_eq_none_iff, Option.map_eq_none_iff] at h
    have hmessages : reply.messages = ms := by simp [messages, ho]
    have hitems : Recital.itemsIn [reply] 1 = SyncMessage.newItems ms := by
      simp [Recital.itemsIn, Recital.heard, hmessages, SyncMessage.newItems_eq]
    have htoken : Recital.tokenAfter [reply] token 1 = SyncMessage.lastToken token ms := by
      simp [Recital.tokenAfter, Recital.heard, hmessages, SyncMessage.lastToken, SyncMessage.foldl_getD]
    have hlast : reply.isLast = (ms.isEmpty || SyncMessage.lastFlag ms) := by
      unfold isLast SyncMessage.lastFlag
      rw [hmessages, SyncMessage.foldl_getD]
      cases (ms.filterMap (·.last)).getLast? <;> simp
    rw [ho, hitems, htoken, hlast]
    simp [Page.read, h, Page.ofMessages]

theorem refusal_of_read_error {token : Token} {trouble : Trouble} (h : Page.read token reply.outcome = .error trouble) :
    reply.refusal? = some trouble := by
  cases hr : reply.refusal? with
  | some trouble' => exact congrArg some (Except.error.inj ((read_of_refused hr token).symm.trans h))
  | none => cases h.symm.trans (read_of_accepted hr token)

end Reply

/-! ## Paging along the replies -/

namespace Recital

variable {rs : Recital} {reply : Reply} {exhausted : Trouble} {event : Option Bool} {p : Paging} {size : Int}

/-- The page that the reply to paging at `p` amounts to, if it is accepted. -/
def pageOf (reply : Reply) (p : Paging) : Page where
  items := itemsIn [reply] 1
  token := tokenAfter [reply] p.token 1
  last := reply.isLast

theorem eq_pageOf_of_read {page : Page} (h : Page.read p.token reply.outcome = .ok page) :
    reply.refusal? = none ∧ page = pageOf reply p := by
  cases hr : reply.refusal? with
  | some trouble => cases h.symm.trans (Reply.read_of_refused hr p.token)
  | none => exact ⟨rfl, Except.ok.inj (h.symm.trans (Reply.read_of_accepted hr p.token))⟩

theorem comesTo_of_set : rs.comesTo exhausted (some true) p =
    .error (.failure (.cancelled (.afterRequests p.folder p.requests))) := by
  simp [comesTo, cutInTime_of_set]

theorem asks_of_set : rs.asks (some true) p size = [] := by simp [asks, count, cutInTime_of_set]

theorem comesTo_nil (he : event ≠ some true) : comesTo [] exhausted event p = .error exhausted := by
  simp [comesTo, cutInTime_nil he]

theorem asks_nil (he : event ≠ some true) : asks [] event p size = [.forPage p.folder p.token size] := by
  simp [asks, count, cutInTime_nil he, stop, tokenAfter_zero]

theorem asks_of_stops (he : event ≠ some true) (h : reply.stops = true) :
    asks (reply :: rs) event p size = [.forPage p.folder p.token size] := by
  simp [asks, count, cutInTime_of_stops he h, stop_of_stops h, tokenAfter_zero]

theorem comesTo_of_refused {trouble : Trouble} (he : event ≠ some true) (h : reply.refusal? = some trouble) :
    comesTo (reply :: rs) exhausted event p = .error trouble := by
  have hstops : reply.stops = true := by simp [Reply.stops, h]
  simp [comesTo, cutInTime_of_stops he hstops, stop_of_stops hstops, h]

theorem comesTo_of_last (he : event ≠ some true) (h : reply.refusal? = none) (hlast : reply.isLast = true) :
    comesTo (reply :: rs) exhausted event p = .ok (.finished (p.add (pageOf reply p))) := by
  have hstops : reply.stops = true := by simp [Reply.stops, hlast]
  have hitems : itemsIn (reply :: rs) 1 = itemsIn [reply] 1 := by simp [itemsIn, heard]
  have htoken : tokenAfter (reply :: rs) p.token 1 = tokenAfter [reply] p.token 1 := by simp [tokenAfter, heard]
  simp [comesTo, cutInTime_of_stops he hstops, stop_of_stops hstops, h, hitems, htoken, FolderResult.finished, pageOf]

theorem comesTo_of_more (he : event ≠ some true) (h : reply.stops = false) :
    comesTo (reply :: rs) exhausted event p =
      rs.comesTo exhausted (event.map (· || reply.cancels)) (p.add (pageOf reply p)) := by
  unfold comesTo
  rw [cutInTime_of_not_stops he h, stop_of_not_stops h, List.getElem?_cons_succ]
  cases rs.cutInTime (event.map (· || reply.cancels)) with
  | some n => simp [Nat.add_assoc, Nat.add_comm 1]
  | none =>
    simp only [Option.map_none, Paging.add_folder, Paging.add_items, Paging.add_token, Paging.add_requests, pageOf]
    rw [itemsIn_cons, tokenAfter_cons, List.append_assoc, Nat.add_assoc p.requests 1, Nat.add_comm 1]

theorem asks_of_more (he : event ≠ some true) (h : reply.stops = false) :
    asks (reply :: rs) event p size = .forPage p.folder p.token size ::
      rs.asks (event.map (· || reply.cancels)) (p.add (pageOf reply p)) size := by
  have hcount : count (reply :: rs) event = count rs (event.map (· || reply.cancels)) + 1 := by
    unfold count
    rw [cutInTime_of_not_stops he h, stop_of_not_stops h]
    cases rs.cutInTime (event.map (· || reply.cancels)) <;> rfl
  unfold asks
  rw [hcount, List.range_succ_eq_map, List.map_cons, List.map_map, tokenAfter_zero]
  refine congrArg _ (List.map_congr_left fun i _ => ?_)
  exact congrArg (SyncRequest.forPage p.folder · size) (tokenAfter_cons reply rs p.token i)

end Recital

/-- From the state `s` on, sync requests get these replies one after another, and then an error. -/
def Transport.Recites {τ : Type} (t : Transport τ) (exhausted : Trouble) : Recital → τ → Prop
  | [], s => ∀ user r, (t.send s user (.sync r)).1.outcome = .error exhausted
  | reply :: rs, s => ∀ user r, (t.send s user (.sync r)).1.outcome = reply.outcome ∧
    (t.send s user (.sync r)).1.cancels = reply.cancels ∧ t.Recites exhausted rs (t.send s user (.sync r)).2

namespace Transport.Recites

variable {τ ς : Type} {e : Env τ ς} {exhausted : Trouble} {rs : Recital} {w : World τ ς} {fuel : Nat}

/-- Paging that stands at `p` comes to what the replies that are left say. -/
theorem run_eq (hr : e.transport.Recites exhausted rs w.remote) (hfuel : rs.length < fuel) (user : User) (size : Int)
    (p : Paging) : ∃ out v ds, p.run e.transport user size fuel w = some (out, v) ∧ w.Acts e ds v ∧
      out.map .finished = rs.comesTo exhausted w.cancel p ∧
      requests ds = (rs.asks w.cancel p size).map fun r => (user, .sync r) := by
  have hevent : ∀ {w : World τ ς}, w.cancelled = false → w.cancel ≠ some true := by simp [World.cancelled]
  induction rs generalizing fuel p w with
  | nil =>
    obtain ⟨n, rfl⟩ := Nat.exists_eq_add_of_le' (Nat.one_le_of_lt hfuel)
    obtain ⟨v, hv⟩ := p.run_steps e user size w
    rw [hr] at hv
    cases hv with
    | cut hc ha hrun =>
      rw [World.cancelled_iff.mp hc, Recital.comesTo_of_set, Recital.asks_of_set]
      exact ⟨_, v, _, hrun n, ha, rfl, rfl⟩
    | refused hc ha ho hrun =>
      cases ho
      rw [Recital.comesTo_nil (hevent hc), Recital.asks_nil (hevent hc)]
      exact ⟨_, v, _, hrun n, ha, rfl, rfl⟩
    | ended _ _ ho _ _ => cases ho
    | paged _ _ ho _ _ => cases ho
  | cons reply rs ih =>
    obtain ⟨n, rfl⟩ := Nat.exists_eq_add_of_le' (Nat.one_le_of_lt hfuel)
    obtain ⟨houtcome, hcancels, hrest⟩ := hr user (.forPage p.folder p.token size)
    obtain ⟨v, hv⟩ := p.run_steps e user size w
    rw [houtcome] at hv
    cases hv with
    | cut hc ha hrun =>
      rw [World.cancelled_iff.mp hc, Recital.comesTo_of_set, Recital.asks_of_set]
      exact ⟨_, v, _, hrun n, ha, rfl, rfl⟩
    | refused hc ha ho hrun =>
      have hrefused := Reply.refusal_of_read_error ho
      rw [Recital.comesTo_of_refused (hevent hc) hrefused,
        Recital.asks_of_stops (hevent hc) (by simp [Reply.stops, hrefused])]
      exact ⟨_, v, _, hrun n, ha, rfl, rfl⟩
    | ended hc ha ho hlast hrun =>
      obtain ⟨haccepted, rfl⟩ := Recital.eq_pageOf_of_read ho
      have hlast : reply.isLast = true := hlast
      rw [Recital.comesTo_of_last (hevent hc) haccepted hlast,
        Recital.asks_of_stops (hevent hc) (by simp [Reply.stops, hlast])]
      exact ⟨_, v, _, hrun n, ha, rfl, rfl⟩
    | paged hc ha ho hlast hrun =>
      obtain ⟨haccepted, rfl⟩ := Recital.eq_pageOf_of_read ho
      have hlast : reply.isLast = false := hlast
      have hmore : reply.stops = false := by simp [Reply.stops, haccepted, hlast]
      have hremote : v.remote = (e.transport.send w.remote user (.sync (.forPage p.folder p.token size))).2 :=
        ha.leads.remote_eq
      have hcancel : v.cancel = w.cancel.map (· || reply.cancels) := by
        rw [ha.cancel_eq, requests_asked, Transport.trips, Transport.trips, Bool.or_false, hcancels]
      obtain ⟨out, u, ds, hrun', ha', hout, hasked⟩ := ih (hremote ▸ hrest) (Nat.lt_of_succ_lt_succ hfuel)
        (p.add (Recital.pageOf reply p))
      rw [Recital.comesTo_of_more (hevent hc) hmore, Recital.asks_of_more (hevent hc) hmore, ← hcancel]
      refine ⟨out, u, _, (hrun n).trans hrun', ha.trans ha', hout, ?_⟩
      rw [requests_append, requests_asked, hasked, List.map_cons]
      rfl

/-- **Paging comes to what its replies say**, for every page size and wherever the cancel event gets set, by exactly the
requests these make. -/
theorem syncFolder_eq (hr : e.transport.Recites exhausted rs w.remote) (hfuel : rs.length < fuel) (folder : FolderId)
    (user : User) (token : Token) (size : Int) :
    (syncFolder e.transport fuel folder user token size w).map (fun out =>
        (out.1.map FolderResult.finished, requests (w.eventsSince out.2))) =
      some (rs.comesTo exhausted w.cancel (.start folder token),
        (rs.asks w.cancel (.start folder token) size).map fun r => (user, .sync r)) := by
  obtain ⟨out, v, ds, hrun, hl, hout, hasked⟩ := hr.run_eq hfuel user size (.start folder token)
  have hsync : syncFolder e.transport fuel folder user token size w = some (out, v) := hrun
  rw [hsync, Option.map_some, ← requests_deeds, hl.leads.deeds_eventsSince, hout, hasked]

end Transport.Recites

/-! ## A desk that recites -/

/-- The answer to a sync request is the same whatever the request. -/
def Canned.Fixed (c : Canned) : Prop :=
  match c.script with
  | .own | .http _ => False
  | _ => True

/-- That answer, as a reply. -/
def Canned.toReply (c : Canned) : Reply := { outcome := c.script.response {} (.sync default), cancels := c.cancels }

theorem Canned.Fixed.response_eq {c : Canned} (h : c.Fixed) (m : Mailbox) (r : SyncRequest) :
    (∀ exchange, c.script ≠ .http exchange) ∧ c.script.response m (.sync r) = c.toReply.outcome := by
  unfold Fixed at h
  unfold toReply
  cases hs : c.script <;> simp_all [Script.response, Request.operation?]

namespace Desk

/-- What a desk that is given answers raises when none is left. -/
def exhausted : Trouble := .failure (.transport (.said "script exhausted") none)

theorem ofReplies_choose (seen : List (User × Request)) (user : User) (request : Request) :
    (∀ c cs, { ofReplies (c :: cs) with seen }.choose user request =
        (c, { ofReplies cs with seen := (user, request) :: seen })) ∧
      { ofReplies [] with seen }.choose user request =
        ({ script := .raises exhausted }, { ofReplies [] with seen := (user, request) :: seen }) := by
  simp [choose, ofReplies, dequeue, Rule.fits, exhausted]

/-- A desk recites the answers it is given. -/
theorem ofReplies_recites (listener : Option Level) {cs : List Canned} (h : ∀ c ∈ cs, c.Fixed)
    (seen : List (User × Request)) :
    (direct listener).Recites exhausted (cs.map Canned.toReply) { ofReplies cs with seen } := by
  induction cs generalizing seen with
  | nil =>
    intro user r
    simp [direct, (ofReplies_choose seen user _).2, Script.response]
  | cons c cs ih =>
    intro user r
    obtain ⟨hc, hcs⟩ := List.forall_mem_cons.mp h
    obtain ⟨hhttp, hresponse⟩ := hc.response_eq {} r
    have hsend : (direct listener).send { ofReplies (c :: cs) with seen } user (.sync r) =
        ({ outcome := c.toReply.outcome, cancels := c.cancels },
          { ofReplies cs with seen := (user, .sync r) :: seen }) := by
      unfold direct
      dsimp only
      rw [(ofReplies_choose seen user _).1, ← hresponse]
      dsimp only
      split
      · rename_i exchange hs
        exact absurd hs (hhttp exchange)
      · rfl
    rw [hsend]
    exact ⟨rfl, rfl, ih hcs _⟩

end Desk

/-- Three answers, of which the first takes its last flag back and the second sets the cancel event. -/
def dictation : List Canned :=
  [{ script := .messages [{ token := some "s", last := some true, changes := some { created := ["x", ""] } },
      { code := none, last := some false, changes := some { created := ["y"], deleted := ["x"] } }] },
    { script := .messages [{ last := some false }], cancels := true }, { script := .null }]

/-- A desk that is given them. -/
def dictated : Session where
  desk := .ofReplies dictation
  config := default

/-- Paging by them is cut off after two requests, the second of which carries the token of the first page. -/
theorem dictated_syncFolder_eq :
    (syncFolder dictated.env.transport 4 "a" "u" "" 0 (dictated.world .armed)).map (fun out =>
        (out.1.map FolderResult.finished, requests ((dictated.world .armed).eventsSince out.2))) =
      some (.error (.failure (.cancelled (.afterRequests "a" 2))),
        [("u", .sync { folder := "a", token := "", limit := 1 }),
          ("u", .sync { folder := "a", token := "s", limit := 1 })]) := by
  have hfixed : ∀ c ∈ dictation, c.Fixed := by simp [dictation, Canned.Fixed]
  have hrecites := Desk.ofReplies_recites none hfixed []
  rw [Transport.Recites.syncFolder_eq (e := dictated.env) (w := dictated.world .armed) hrecites (by decide)]
  rfl

end MailboxSync
