import MailboxSync.Proofs.Legality
import MailboxSync.Proofs.Provenance
import MailboxSync.Proofs.SentTokens

/-!
# Tokens handed back to the server

A server that is asked over HTTP finds in every request that goes on from one of its replies the token it sent with
that, its line ends normalized.  A carriage return, which the server can send as a character reference, is written as it
is and read as a line feed.

* `Transport.OverHttp` — a transport that posts documents; every text of its replies could be written into a request;
* `mailed`, `spoken` — a server of prepared answers, and what a client hears of it (`mailed_eq`);
* `Resumes` — one exchange goes on from another, as the next page of a run or as the first page of a later one;
* `Resumes.goesOn` — then it asks with the last token that came with the other;
* `Series.hands_tokens_back` — **that token is found in its envelope exactly if it has no carriage return** and the
  user's name can stand in a document.

The invariant along the runs is that every token asked with or kept could stand in a document (`History.legal_tokens`).
-/

namespace MailboxSync

open Journal Xml

/-! ## Over HTTP -/

section Http

variable {σ ς : Type} {t : Transport σ}

/-- A transport that posts documents to some server. -/
def Transport.OverHttp (t : Transport σ) : Prop := ∃ listener url post, t = Http.transport listener url post

/-- **The texts of every response are legal.** -/
theorem Transport.OverHttp.legal (ht : t.OverHttp) {s : σ} {user : User} {request : Request} {r : Response}
    (h : (t.send s user request).1.outcome = .ok (some r)) : r.Legal (isXmlChar · = true) := by
  obtain ⟨listener, url, post, rfl⟩ := ht
  unfold Http.transport at h
  dsimp only at h
  split at h
  · cases h
  · rename_i envelope _
    dsimp only at h
    rw [Http.receive_outcome] at h
    split at h
    · cases h
    · exact Http.Exchange.legal_of_outcome h

variable {e : Env σ ς} {w w' : World σ ς} {ds : List Event}

theorem World.Leads.legal (h : w.Leads e ds w') (ht : e.transport.OverHttp) {user : User} {request : Request}
    {r : Response} (hmem : .asked user request (.ok (some r)) ∈ ds) : r.Legal (isXmlChar · = true) := by
  induction h with
  | refl => cases hmem
  | note _ _ ih => exact ih hmem
  | trip _ ih => exact ih hmem
  | ask _ u q ih =>
    rcases List.mem_append.mp hmem with hmem | hmem
    · exact ih hmem
    · have heq : (.asked user request (.ok (some r)) : Event) = .asked u q _ := List.mem_singleton.mp hmem
      exact ht.legal (Event.asked.inj heq).2.2.symm
  | writeToken _ _ ih => exact ih (by simpa using hmem)
  | writeWatermark _ _ ih => exact ih (by simpa using hmem)

theorem legal_of_discover (ht : t.OverHttp) {root : FolderId} {user : User} {folders : FolderSet}
    (h : discover t root user w = (.ok folders, w')) : ∀ f ∈ folders, Xml.Legal (isXmlChar · = true) f := by
  obtain ⟨notes, heq⟩ := discover_eq t root user w
  have hread : FolderSet.read (t.send w.remote user (.find (.forRoot root))).1.outcome = .ok folders := by
    have hfst := congrArg Prod.fst (heq.symm.trans h)
    rwa [World.ask_fst] at hfst
  generalize ho : (t.send w.remote user (.find (.forRoot root))).1.outcome = o at hread
  unfold FolderSet.read at hread
  split at hread <;> try cases hread
  rename_i ms
  split at hread <;> cases hread
  intro f hf
  obtain ⟨m, hm, hmem⟩ := List.mem_flatMap.mp (List.mem_of_mem_filter (FolderSet.mem_ofList.mp hf))
  cases hids : m.folders with
  | none => simp [hids] at hmem
  | some ids => exact (ht.legal ho m hm).2.2 ids hids f (by simpa [hids] using hmem)

theorem legal_of_discoverAll (ht : t.OverHttp) {user : User} {roots : List FolderId} {found folders : FolderSet}
    (hfound : ∀ f ∈ found, Xml.Legal (isXmlChar · = true) f)
    (h : discoverAll t user roots found w = (.ok folders, w')) :
    ∀ f ∈ folders, Xml.Legal (isXmlChar · = true) f := by
  induction roots generalizing found w with
  | nil =>
    cases h
    exact hfound
  | cons root roots ih =>
    unfold discoverAll at h
    split at h
    · cases h
    · split at h
      · cases h
      · cases h
      · rename_i more w₁ hdiscover
        refine ih (fun f hf => ?_) h
        rcases FolderSet.mem_insertAll.mp hf with hf | hf
        · exact legal_of_discover ht hdiscover f hf
        · exact hfound f hf

end Http

/-! ## A server of prepared answers -/

/-- A server that sends one answer after another, whatever it is asked. -/
def mailed (answers : List Response) : Transport Nat :=
  Http.transport none "https://example.com/ews" fun n _ =>
    (.replied 200 none (Response.write answers[n]?), false, n + 1)

/-- What its answers come to: the response, if it is of the kind asked for. -/
def spoken (answers : List Response) : Transport Nat where
  send n _ request :=
    match request.operation? with
    | none =>
      ({ outcome := .error (.fault (.unsupportedRequest (match request with | .other name => name | _ => ""))) }, n)
    | some op =>
      if request.fits then
        ({ outcome := .ok ((answers[n]?.filter (·.operation = op)).map Response.trimmed)
           notes := [⟨.debug, "No Content-Type on response, falling back to utf-8"⟩] }, n + 1)
      else ({ outcome := .error (.fault .numberTooLong) }, n)

theorem mailed_eq {answers : List Response} (h : ∀ r ∈ answers, r.Legal (isXmlChar · = true)) :
    mailed answers = spoken answers := by
  have hsend (n : Nat) (user : User) (request : Request) :
      (mailed answers).send n user request = (spoken answers).send n user request := by
    cases hop : request.operation? with
    | none =>
      cases request with
      | other name => rfl
      | find r => cases hop
      | sync r => cases hop
    | some op =>
      cases hfits : request.fits with
      | false => simp [mailed, spoken, Http.transport, Request.write_of_not_fits hfits, hop, hfits]
      | true =>
        obtain ⟨text, hwrite⟩ := Http.write_of_operation hop hfits user
        have hbody := readBody_write (r := answers[n]?) fun x hx => h x (List.mem_of_getElem? hx)
        have hempty := isEmpty_of_readBody hbody
        have hread := Request.responseIn_body hop answers[n]?
        simp [mailed, spoken, Http.transport, hwrite, hop, hfits, Http.receive, responseCharset, Http.read, hempty,
          hbody, hread, Http.lazily, hears, Http.Outcome.after]
  exact congrArg Transport.mk (funext fun n => funext fun user => funext fun request => hsend n user request)

theorem overHttp_mailed (answers : List Response) : (mailed answers).OverHttp := ⟨_, _, _, rfl⟩

/-- A run of a user over a transport. -/
def visit (t : Transport Nat) (w : World Nat Progress)
    (h : (syncUser { transport := t, stores := Backend.memory.stores, config := default } 9 ["root"] none "u"
      w).isSome) : Call Nat Progress :=
  .ofSyncUser { transport := t, stores := Backend.memory.stores, config := default } 9 ["root"] none "u" w h

theorem visit_before (t : Transport Nat) (w : World Nat Progress) (h) : (visit t w h).before = w := rfl

theorem visit_congr {t t' : Transport Nat} {w w' : World Nat Progress} (ht : t = t') (hw : w = w') (h) (h') :
    visit t w h = visit t' w' h' := by
  subst ht hw
  rfl

def blankPage (token : Token) (last : Bool) : Response := .synced [{ token := some token, last := some last }]

/-- The answers for two runs: a folder of two pages, which has nothing new afterwards. -/
def markedUp : List Response :=
  [.found [{ folders := some ["a"] }], blankPage "<1>" false, blankPage "<2>" true, .found [{ folders := some ["a"] }],
    blankPage "<2>" true]

theorem mailed_markedUp : mailed markedUp = spoken markedUp := mailed_eq (by decide +kernel)

def markedUpFirst : Call Nat Progress :=
  visit (mailed markedUp) { remote := 0, stores := {} } (by rw [mailed_markedUp]; decide +kernel)

theorem markedUpFirst_eq : markedUpFirst = visit (spoken markedUp) { remote := 0, stores := {} } (by decide +kernel) :=
  visit_congr mailed_markedUp rfl _ _

def markedUpSecond : Call Nat Progress :=
  visit (mailed markedUp) markedUpFirst.after (by rw [mailed_markedUp, markedUpFirst_eq]; decide +kernel)

theorem markedUpSecond_eq : markedUpSecond =
    visit (spoken markedUp) (visit (spoken markedUp) { remote := 0, stores := {} } (by decide +kernel)).after
      (by decide +kernel) :=
  visit_congr mailed_markedUp (congrArg Call.after markedUpFirst_eq) _ _

/-- The exchange for a token that is answered with a blank page. -/
def blankExchange (asked token : Token) (last : Bool) : SyncExchange :=
  (⟨"a", asked, 512, "IdOnly"⟩, .ok (some (blankPage token last)))

theorem markedUp_exchanges :
    exchanges "u" "a" markedUpFirst.events = [blankExchange "" "<1>" false, blankExchange "<1>" "<2>" true] ∧
      savedTokens "u" "a" markedUpFirst.events = ["<2>"] ∧
      exchanges "u" "a" markedUpSecond.events = [blankExchange "<2>" "<2>" true] := by
  rw [markedUpSecond_eq, markedUpFirst_eq]
  decide +kernel

/-- Answers for one run over two pages, with a carriage return in the first token. -/
def brokenLine : List Response :=
  [.found [{ folders := some ["a"] }], blankPage "a\rb" false, blankPage "end" true]

theorem mailed_brokenLine : mailed brokenLine = spoken brokenLine := mailed_eq (by decide +kernel)

def brokenLineRun : Call Nat Progress :=
  visit (mailed brokenLine) { remote := 0, stores := {} } (by rw [mailed_brokenLine]; decide +kernel)

theorem brokenLine_exchanges : exchanges "u" "a" brokenLineRun.events =
    [blankExchange "" "a\rb" false, blankExchange "a\rb" "end" true] := by
  have heq : brokenLineRun = visit (spoken brokenLine) { remote := 0, stores := {} } (by decide +kernel) :=
    visit_congr mailed_brokenLine rfl _ _
  rw [heq]
  decide +kernel

/-! ## Along runs -/

section Runs

variable {σ : Type} {b : Backend} {user : User} {folder : FolderId} {x y : SyncExchange}

theorem Stands.saved_eq {e : Env σ Progress} {w : World σ Progress} {xs : List SyncExchange} {ts : List Token}
    {r : Except Fault FolderResult} (h : Stands e user w folder (xs ++ [x]) ts (.ended r)) (hts : ts ≠ []) :
    ∃ ms, x.2 = .ok (some (.synced ms)) ∧ ts = [(ms.filterMap (·.token)).getLast?.getD x.1.token] := by
  generalize hxs : xs ++ [x] = zs at h
  cases h with
  | finished _ hp =>
    rcases hp.asks_next with ⟨rfl, -⟩ | ⟨ys, z, ms, rfl, hms, htoken⟩
    · simp at hxs
    · obtain ⟨-, hz⟩ := List.append_inj' hxs rfl
      cases hz
      exact ⟨ms, hms, congrArg (· :: []) htoken⟩
  | _ => exact absurd rfl hts

namespace Call

variable {c : Call σ Progress}

theorem legal_folder (c : Call σ Progress) (ht : c.env.transport.OverHttp) {folders : FolderSet}
    (h : c.found = .ok folders) : ∀ f ∈ folders, Xml.Legal (isXmlChar · = true) f :=
  legal_of_discoverAll ht (List.forall_mem_nil _) (Prod.ext h rfl)

theorem legal_carried (c : Call σ Progress) (ht : c.env.transport.OverHttp) (hx : x ∈ exchanges user folder c.events)
    {token : Token} (h : token ∈ carriedTokens x.2) : Xml.Legal (isXmlChar · = true) token := by
  obtain ⟨r, o⟩ := x
  obtain ⟨hmem, -⟩ := mem_exchanges.mp hx
  have hdeed : .asked user (.sync r) o ∈ deeds c.events := by
    simpa [deeds, Event.isNote] using hmem
  rcases o with trouble | _ | ms | ms
  · cases h
  · cases h
  · cases h
  · obtain ⟨m, hm, htoken⟩ := List.mem_filterMap.mp h
    exact (c.leads.legal ht hdeed m hm).2.2.1 token htoken

/-- **What a run saves for a folder is the last token that came with the folder's last page.** -/
theorem saved_eq (c : Call σ Progress) {xs : List SyncExchange} (hx : exchanges user folder c.events = xs ++ [x])
    (hs : savedTokens user folder c.events ≠ []) :
    ∃ ms, x.2 = .ok (some (.synced ms)) ∧
      savedTokens user folder c.events = [(ms.filterMap (·.token)).getLast?.getD x.1.token] := by
  obtain ⟨ds, hl, hcases⟩ := c.runs.cases
  have hexchanges : exchanges user folder c.events = exchanges user folder ds := hl.exchanges_eventsSince user folder
  have hsaved : savedTokens user folder c.events = savedTokens user folder ds := hl.savedTokens_eventsSince user folder
  rw [hsaved] at hs ⊢
  rw [hexchanges] at hx
  rcases hcases with ⟨trouble, -, hq, -⟩ | ⟨folders, ends, hd, hran⟩
  · exact absurd (hq.savedTokens user folder) hs
  · by_cases hmine : user = c.user ∧ folder ∈ folders
    · obtain ⟨rfl, hf⟩ := hmine
      obtain ⟨r, hr⟩ := hran.exists_end hf
      have hstands := hran.stands _ hr
      rw [hx] at hstands
      exact hstands.saved_eq hs
    · exact absurd (hran.elsewhere user folder hmine).2 hs

end Call

/-! ## Along a series -/

/-- A legal token is kept for every folder. -/
def Backend.KeepsLegal (b : Backend) (p : Progress) : Prop :=
  ∀ user folder, Xml.Legal (isXmlChar · = true) (b.startToken p user folder)

theorem Returned.legal {first token : Token} {xs : List SyncExchange} (h : Returned first xs token)
    (hf : Xml.Legal (isXmlChar · = true) first)
    (hx : ∀ x ∈ xs, ∀ token ∈ carriedTokens x.2, Xml.Legal (isXmlChar · = true) token) :
    Xml.Legal (isXmlChar · = true) token := by
  rcases h with rfl | ⟨x, hmem, htoken⟩
  · exact hf
  · exact hx x hmem token htoken

/-- **Along runs over HTTP only legal tokens are asked with, and only such are kept.** -/
theorem History.legal_tokens {w₀ w : World σ Progress} {cs : List (Call σ Progress)}
    (h : History SameStores w₀ cs w) (hw : b.KeepsLegal w₀.stores)
    (he : ∀ c ∈ cs, ∃ rules, c.env.stores = b.stores.refusing rules)
    (ht : ∀ c ∈ cs, c.env.transport.OverHttp) :
    (∀ c ∈ cs, ∀ user folder, ∀ x ∈ exchanges user folder c.events,
      Xml.Legal (isXmlChar · = true) x.1.token) ∧ b.KeepsLegal w.stores := by
  induction h with
  | nil => exact ⟨List.forall_mem_nil _, hw⟩
  | @snoc cs w _ c hn ih =>
    obtain ⟨hasked, hkept⟩ := ih (fun c' hc' => he c' (List.mem_append_left _ hc'))
      fun c' hc' => ht c' (List.mem_append_left _ hc')
    obtain ⟨rules, hstores⟩ := he c (List.mem_append_right _ List.mem_cons_self)
    have hhttp := ht c (List.mem_append_right _ List.mem_cons_self)
    have hbefore : c.before.stores = w.stores := hn
    rw [← hbefore] at hkept
    have hlegal {user : User} {folder : FolderId} {token : Token}
        (h : Returned (b.startToken c.before.stores user folder) (exchanges user folder c.events) token) :
        Xml.Legal (isXmlChar · = true) token :=
      h.legal (hkept user folder) fun x hx token htoken => c.legal_carried hhttp hx htoken
    refine ⟨fun c' hc' => ?_, fun user folder => hlegal (c.returned_kept hstores user folder)⟩
    rcases List.mem_append.mp hc' with hc' | hc'
    · exact hasked c' hc'
    · obtain rfl := List.mem_singleton.mp hc'
      intro user folder x hx
      obtain ⟨before, after, heq⟩ := List.append_of_mem hx
      obtain ⟨⟨hthreaded, -⟩, -⟩ := c'.threaded hstores user folder
      have hreturned := hthreaded.sourced before x after heq
      exact hlegal (heq ▸ hreturned.append (x :: after))

/-- The exchange `y` goes on from `x` for a user's folder. -/
inductive Resumes (user : User) (folder : FolderId) (cs : List (Call σ Progress)) (x y : SyncExchange) : Prop
  /-- With the next page, in the same run. -/
  | page {c : Call σ Progress} {xs ys : List SyncExchange} (hc : c ∈ cs)
    (h : exchanges user folder c.events = xs ++ x :: y :: ys) : Resumes user folder cs x y
  /-- With the first page of a later run.  The run of `x` saved its token, and none between them saved another. -/
  | run {before between after : List (Call σ Progress)} {c c' : Call σ Progress} {xs ys : List SyncExchange}
    (hcs : cs = before ++ c :: (between ++ c' :: after)) (hx : exchanges user folder c.events = xs ++ [x])
    (hsaved : savedTokens user folder c.events ≠ [])
    (hsince : ∀ d ∈ between, savedTokens user folder d.events = [])
    (hy : exchanges user folder c'.events = y :: ys) : Resumes user folder cs x y

theorem History.startToken_eq {w₀ w : World σ Progress} {cs : List (Call σ Progress)}
    (h : History SameStores w₀ cs w) (he : ∀ c ∈ cs, ∃ rules, c.env.stores = b.stores.refusing rules)
    (hnone : ∀ c ∈ cs, savedTokens user folder c.events = []) :
    b.startToken w.stores user folder = b.startToken w₀.stores user folder := by
  induction h with
  | nil => rfl
  | @snoc cs w _ c hn ih =>
    have hlast := hnone c (List.mem_append_right _ List.mem_cons_self)
    obtain ⟨rules, hstores⟩ := he c (List.mem_append_right _ List.mem_cons_self)
    have hbefore : c.before.stores = w.stores := hn
    rw [c.startToken_after hstores, hlast, hbefore]
    exact ih (fun d hd => he d (List.mem_append_left _ hd)) fun d hd => hnone d (List.mem_append_left _ hd)

/-- **An exchange that goes on from another asks with the last token that came with it.** -/
theorem Resumes.goesOn {w₀ w : World σ Progress} {cs : List (Call σ Progress)} (hr : Resumes user folder cs x y)
    (h : History SameStores w₀ cs w) (he : ∀ c ∈ cs, ∃ rules, c.env.stores = b.stores.refusing rules) :
    GoesOn x y := by
  cases hr with
  | @page c xs ys hc heq =>
    obtain ⟨rules, hstores⟩ := he c hc
    have hchain := (c.threaded hstores user folder).1.1.chain
    rw [heq, List.isChain_append_cons_cons] at hchain
    exact hchain.2.1
  | @run before between after c c' xs ys hcs hx hsaved hsince hy =>
    subst hcs
    obtain ⟨rules, hc⟩ := he c (by simp)
    obtain ⟨rules', hstores⟩ := he c' (by simp)
    -- the worlds after the run of `x` and before the run of `y`
    have hcut : History SameStores w₀ (before ++ [c] ++ (between ++ [c'] ++ after)) w := by simpa using h
    obtain ⟨w₁, hfirst, hrest⟩ := hcut.split
    obtain ⟨rfl, -⟩ := hfirst.eq_after
    obtain ⟨w₂, hmiddle, -⟩ := hrest.split
    obtain ⟨-, w₃, hbetween, hn⟩ := hmiddle.eq_after
    have hbefore : c'.before.stores = w₃.stores := hn
    obtain ⟨ms, hms, heq⟩ := c.saved_eq hx hsaved
    refine ⟨ms, hms, ?_⟩
    have hfirst : y.1.token = b.startToken c'.before.stores user folder := by
      have hhead := (c'.threaded hstores user folder).1.1.head
      rw [hy] at hhead
      exact hhead y rfl
    rw [hfirst, hbefore, hbetween.startToken_eq (fun d hd => he d (by simp [hd])) hsince, c.startToken_after hc, heq]
    rfl

theorem Resumes.mem {cs : List (Call σ Progress)} (h : Resumes user folder cs x y) :
    ∃ c ∈ cs, y ∈ exchanges user folder c.events := by
  cases h with
  | @page c xs ys hc heq => exact ⟨c, hc, by simp [heq]⟩
  | @run before between after c c' xs ys hcs _ _ _ hy => exact ⟨c', by simp [hcs], by simp [hy]⟩

/-- **Tokens are handed back to the server as a reader of documents takes them.**  Wherever a series of runs over HTTP
goes on from a reply, with the next page or in a later run, the envelope it posts carries the last token of that reply
(or the one before, if the reply had none) with its line ends normalized: the very token exactly if it has no carriage
return and the user's name can stand in a document. -/
theorem Series.hands_tokens_back {w₀ w : World σ Progress} {cs : List (Call σ Progress)} (h : Series w₀ cs w)
    (hw : b.KeepsLegal w₀.stores) (he : ∀ c ∈ cs, ∃ rules, c.env.stores = b.stores.refusing rules)
    (ht : ∀ c ∈ cs, c.env.transport.OverHttp) (hr : Resumes user folder cs x y) :
    ∃ ms token text, x.2 = .ok (some (.synced ms)) ∧ token = (ms.filterMap (·.token)).getLast?.getD x.1.token ∧
      (Request.sync y.1).write user = .ok text ∧
      (Xml.Legal (isXmlChar · = true) user → sentToken? text = some (asRead token)) ∧
      (sentToken? text = some token ↔ Xml.Legal (isXmlChar · = true) user ∧ '\r' ∉ token.toList) := by
  obtain ⟨w', hhistory, -⟩ := h.history
  obtain ⟨ms, hms, htoken⟩ := hr.goesOn hhistory he
  obtain ⟨c, hc, hy⟩ := hr.mem
  obtain ⟨rules, hstores⟩ := he c hc
  have hlegal := (hhistory.legal_tokens hw he ht).1 c hc user folder y hy
  obtain ⟨⟨hthreaded, -⟩, hmine⟩ := c.threaded hstores user folder
  obtain ⟨-, folders, hfound, hmem⟩ := hmine (List.ne_nil_of_mem hy)
  have hrequest := hthreaded.request y hy
  have hfolder : y.1.folder = folder := congrArg SyncRequest.folder hrequest
  have hshape : y.1.shape = "IdOnly" := congrArg SyncRequest.shape hrequest
  have hf : Xml.Legal (isXmlChar · = true) y.1.folder := hfolder ▸ c.legal_folder (ht c hc) hfound folder hmem
  have hs : Xml.Legal (isXmlChar · = true) y.1.shape := by
    rw [hshape]
    decide +kernel
  have hfits : (Request.sync y.1).fits = true := hrequest ▸ SyncRequest.fits_forPage _ _ _
  obtain ⟨text, hwrite⟩ := Http.write_of_operation rfl hfits user
  refine ⟨ms, y.1.token, text, hms, htoken, hwrite, fun hu => sentToken?_write hu hf hlegal hs hwrite, ?_⟩
  exact sentToken?_eq_some_iff hf hlegal hs hwrite

/-- The tokens are handed back, with the next page and in the next run. -/
theorem markedUp_hands_tokens_back :
    (∃ text, (Request.sync ⟨"a", "<1>", 512, "IdOnly"⟩).write "u" = .ok text ∧ sentToken? text = some "<1>") ∧
      ∃ text, (Request.sync ⟨"a", "<2>", 512, "IdOnly"⟩).write "u" = .ok text ∧
        sentToken? text = some "<2>" := by
  obtain ⟨hfirst, hsaved, hsecond⟩ := markedUp_exchanges
  have hseries : Series { remote := 0, stores := {} } ([] ++ [markedUpFirst] ++ [markedUpSecond])
      markedUpSecond.after :=
        .run (.run .nil markedUpFirst rfl) markedUpSecond (congrArg World.stores (visit_before _ _ _))
  have hlegal : Backend.memory.KeepsLegal {} := fun _ _ _ hc => by cases hc
  have hstores :
    ∀ c ∈ [markedUpFirst, markedUpSecond], ∃ rules, c.env.stores = Backend.memory.stores.refusing rules :=
    List.forall_mem_cons.mpr ⟨⟨[], rfl⟩, List.forall_mem_singleton.mpr ⟨[], rfl⟩⟩
  have hhttp : ∀ c ∈ [markedUpFirst, markedUpSecond], c.env.transport.OverHttp :=
    List.forall_mem_cons.mpr ⟨overHttp_mailed _, List.forall_mem_singleton.mpr (overHttp_mailed _)⟩
  have hpage : Resumes "u" "a" [markedUpFirst, markedUpSecond] (blankExchange "" "<1>" false)
      (blankExchange "<1>" "<2>" true) := .page List.mem_cons_self (hfirst.trans (List.nil_append _).symm)
  have hcs : [markedUpFirst, markedUpSecond] = [] ++ markedUpFirst :: ([] ++ markedUpSecond :: []) := rfl
  have hrun : Resumes "u" "a" [markedUpFirst, markedUpSecond] (blankExchange "<1>" "<2>" true)
      (blankExchange "<2>" "<2>" true) :=
    .run hcs (hfirst.trans (List.singleton_append).symm) (by rw [hsaved]; decide) (List.forall_mem_nil _) hsecond
  constructor
  · obtain ⟨ms, token, text, hms, rfl, hwrite, -, hsent⟩ := hseries.hands_tokens_back hlegal hstores hhttp hpage
    cases hms
    exact ⟨text, hwrite, hsent.mpr (by decide +kernel)⟩
  · obtain ⟨ms, token, text, hms, rfl, hwrite, -, hsent⟩ := hseries.hands_tokens_back hlegal hstores hhttp hrun
    cases hms
    exact ⟨text, hwrite, hsent.mpr (by decide +kernel)⟩

/-- **A carriage return is not handed back**: where the server sent one, the next envelope is read with a line feed. -/
theorem brokenLine_altered :
    Series { remote := 0, stores := {} } [brokenLineRun] brokenLineRun.after ∧
      brokenLineRun.env.transport.OverHttp ∧
      Resumes "u" "a" [brokenLineRun] (blankExchange "" "a\rb" false) (blankExchange "a\rb" "end" true) ∧
      ∃ text, (Request.sync (blankExchange "a\rb" "end" true).1).write "u" = .ok text ∧
        sentToken? text = some "a\nb" ∧ sentToken? text ≠ some "a\rb" := by
  have hseries : Series { remote := 0, stores := {} } ([] ++ [brokenLineRun]) brokenLineRun.after :=
    .run .nil brokenLineRun (congrArg World.stores (visit_before _ _ _))
  have hresumes : Resumes "u" "a" [brokenLineRun] (blankExchange "" "a\rb" false) (blankExchange "a\rb" "end" true) :=
    .page List.mem_cons_self (brokenLine_exchanges.trans (List.nil_append _).symm)
  have hsent {text : String} (h : (Request.sync (blankExchange "a\rb" "end" true).1).write "u" = .ok text) :
      sentToken? text = some "a\nb" := by
    rw [sentToken?_write (by decide +kernel) (by decide +kernel) (by decide +kernel) (by decide +kernel) h]
    decide +kernel
  obtain ⟨text, hwrite⟩ : ∃ text, (Request.sync (blankExchange "a\rb" "end" true).1).write "u" = .ok text :=
    Http.write_of_operation rfl (by decide +kernel) "u"
  refine ⟨hseries, overHttp_mailed _, hresumes, text, hwrite, hsent hwrite, ?_⟩
  rw [hsent hwrite]
  decide

end Runs

end MailboxSync
