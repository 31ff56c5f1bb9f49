import MailboxSync.Proofs.Envelopes
import MailboxSync.Proofs.Likeness
import MailboxSync.Proofs.Receiving
import MailboxSync.Proofs.Stores

/-!
# Services over HTTP

A service takes requests as values.  `Service.direct` hands them over as they are; `Service.wired` puts documents in
between, which the service has to read, and whose answers the engine has to read.

* `Service.WellSpoken` — a service that answers in kind, with texts a document can hold;
* `Stores.WellKept` — stores that hold such tokens, as those of every backend do if they do at first;
* `Service.wired_send` — **one request comes to the same over HTTP**, the empty ids of its reply aside;
* `Service.wired_syncUsers` — **and so does a run.**
-/

namespace MailboxSync

open Xml Soap

/-! ## Services -/

/-- A service: what it answers, or what goes wrong, whether the caller's cancel event gets set meanwhile, and the state
it goes on to. -/
structure Service (σ : Type) where
  serve : σ → User → Request → Reply.Outcome × Bool × σ

/-- The state of a service and the requests it saw. -/
structure Watched (σ : Type) where
  state : σ
  seen : List (User × Request) := []
  deriving DecidableEq

/-- Texts that name a folder: a document can hold them, and distinguished folders are in lower case. -/
def Nameable (folder : FolderId) : Prop := Clean folder.toList ∧ Canonical folder

def Response.folders : Response → List FolderId
  | .found ms => ms.flatMap (·.folders.getD [])
  | .synced _ => []

namespace Service

variable {σ : Type}

def take (v : Service σ) (x : Watched σ) (user : User) (request : Request) : Reply.Outcome × Bool × Watched σ :=
  let (outcome, cancels, state) := v.serve x.state user request
  (outcome, cancels, { state, seen := x.seen ++ [(user, request)] })

def direct (v : Service σ) : Transport (Watched σ) where
  send x user request :=
    let (outcome, cancels, x) := v.take x user request
    ({ outcome, cancels }, x)

def answer : Reply.Outcome → Http.Exchange
  | .ok response => .replied 200 (some "text/xml") (Response.write response)
  | .error trouble => .raised trouble

def post (v : Service σ) (x : Watched σ) (envelope : String) : Http.Exchange × Bool × Watched σ :=
  match Request.read? envelope.toUTF8 with
  | none => (.raised (.fault .unreadableRequest), false, x)
  | some (user, request) =>
    let (outcome, cancels, x) := v.take x user request
    (answer outcome, cancels, x)

def wired (v : Service σ) (listener : Option Level) (url : String) : Transport (Watched σ) :=
  Http.transport listener url v.post

/-- From a state that is `fit`, requests of clean texts are answered in kind, by clean texts and folders that can be
asked about, and lead to states that are fit again. -/
structure WellSpoken (v : Service σ) (fit : σ → Prop) : Prop where
  reply : ∀ {s user request}, fit s → Clean user.toList → request.Sendable (isClean · = true) →
    ∀ r, (v.serve s user request).1 = .ok (some r) →
      request.operation? = some r.operation ∧ r.Legal (isClean · = true) ∧
        ∀ folder ∈ r.folders, Canonical folder
  fit : ∀ {s user request}, fit s → Clean user.toList → request.Sendable (isClean · = true) →
    fit (v.serve s user request).2.2

end Service

/-! ## One request -/

theorem Response.Legal.mono {legal legal' : Char → Prop} (h : ∀ c, legal c → legal' c) {r : Response}
    (hr : r.Legal legal) : r.Legal legal' := by
  have hlift {s : String} (hs : Xml.Legal legal s) : Xml.Legal legal' s := fun c hc => h c (hs c hc)
  cases r with
  | found ms =>
    intro m hm
    obtain ⟨hcode, htext, hids⟩ := hr m hm
    exact ⟨fun s hs => hlift (hcode s hs), fun s hs => hlift (htext s hs),
      fun ids hi id hid => hlift (hids ids hi id hid)⟩
  | synced ms =>
    intro m hm
    obtain ⟨hcode, htext, htoken, hids⟩ := hr m hm
    exact ⟨fun s hs => hlift (hcode s hs), fun s hs => hlift (htext s hs), fun s hs => hlift (htoken s hs),
      fun c hc id hid => hlift (hids c hc id hid)⟩

theorem responseCharset_answer : ∃ notes, responseCharset (some "text/xml") = .ok (defaultCharset, notes) := by
  have hnone : namedCharset? "text/xml" = none := by decide +kernel
  obtain ⟨notes, heq⟩ := responseCharset_some "text/xml"
  rw [hnone] at heq
  exact ⟨notes, heq⟩

namespace Service

theorem noteFault_answer (listener : Option Level) (o : Reply.Outcome) : (answer o).noteFault listener = none := by
  cases o with
  | error trouble => rfl
  | ok r =>
    obtain ⟨notes, hcharset⟩ := responseCharset_answer
    obtain ⟨text, htext⟩ := decodeIn_default (Response.write r).toList
    simp [answer, Http.Exchange.noteFault, hcharset, htext]

/-- **An answer comes to what was given**, empty ids aside. -/
theorem outcome_answer {request : Request} {op : Operation} (hop : request.operation? = some op) {o : Reply.Outcome}
    (ho : ∀ r, o = .ok (some r) → r.operation = op ∧ r.Legal (isXmlChar · = true)) :
    (answer o).outcome request = o.trimmed := by
  cases o with
  | error trouble => rfl
  | ok r =>
    obtain ⟨body, hbody, hread⟩ := Request.responseIn_write hop (r := r) fun x hx => ho x (by rw [hx])
    obtain ⟨notes, hcharset⟩ := responseCharset_answer
    have hwritten := isEmpty_of_readBody hbody
    simp [answer, Http.Exchange.outcome, hcharset, hwritten, hbody, Except.bind, hread,
      Reply.Outcome.trimmed, Except.map]

variable {σ : Type} {v : Service σ} {fit : σ → Prop} {x : Watched σ} {user : User} {request : Request}

/-- **One request comes to the same over HTTP**, the notes and the empty ids of its reply aside. -/
theorem wired_send (hv : v.WellSpoken fit) (hx : fit x.state) (hu : Clean user.toList)
    (hr : request.Sendable (isClean · = true)) (listener : Option Level) (url : String) :
    ∃ notes, (v.wired listener url).send x user request =
      ({ (v.direct.send x user request).1 with outcome := (v.direct.send x user request).1.outcome.trimmed, notes },
        (v.direct.send x user request).2) := by
  obtain ⟨text, hwrite, hread⟩ := Request.read?_write hu hr
  obtain ⟨op, hop⟩ : ∃ op, request.operation? = some op := by
    cases request with
    | find r => exact ⟨_, rfl⟩
    | sync r => exact ⟨_, rfl⟩
    | other typeName => exact hr.elim
  have hpost : v.post x text = (answer (v.take x user request).1, (v.take x user request).2) := by
    simp only [post, hread]
  have hanswer : (answer (v.take x user request).1).outcome request = (v.take x user request).1.trimmed :=
    outcome_answer hop fun r h => by
      obtain ⟨hkind, hlegal, -⟩ := hv.reply hx hu hr r h
      exact ⟨Option.some.inj (hkind.symm.trans hop), hlegal.mono fun _ => isXmlChar_of_isClean⟩
  have hreceive : (Http.receive listener url text request (answer (v.take x user request).1)).1 =
      (v.take x user request).1.trimmed := by
    rw [Http.receive_outcome, noteFault_answer]
    exact hanswer
  refine ⟨(Http.receive listener url text request (answer (v.take x user request).1)).2, ?_⟩
  simp only [wired, Http.transport, hwrite, hpost, hreceive, direct]

end Service

/-! ## Stores -/

/-- From contents that are `kept`, the tokens of clean users and folders are clean, and saving such tokens or any
watermark leads to contents that are kept again. -/
structure Stores.WellKept {ς : Type} (a : Stores ς) (kept : ς → Prop) : Prop where
  token : ∀ {s user folder token notes}, kept s → Clean user.toList → Nameable folder →
    a.token s user folder = .ok (token, notes) → Clean token.toList
  saveToken :
    ∀ {s s' user folder token notes}, kept s → Clean user.toList → Nameable folder → Clean token.toList →
    a.saveToken s user folder token = .ok (s', notes) → kept s'
  saveWatermark : ∀ {s s' user stamp notes}, kept s → Clean user.toList →
    a.saveWatermark s user stamp = .ok (s', notes) → kept s'

theorem Backend.wellKept (b : Backend) (rules : List AccessRule) :
    (b.stores.refusing rules).WellKept fun p =>
      ∀ user folder token, b.kept p user folder = some token → Clean token.toList where
  token {p user folder token notes} hkept _ _ h := by
    obtain rfl := token_ok (Stores.refusing_token_ok h)
    cases hfound : b.kept p user folder with
    | none => exact List.forall_mem_nil _
    | some token => exact hkept user folder token hfound
  saveToken {p p' user folder token notes} hkept _ _ htoken h u f t hfound := by
    rw [(saveToken_ok (Stores.refusing_saveToken_ok h)).1] at hfound
    split at hfound
    · exact Option.some.inj hfound ▸ htoken
    · exact hkept u f t hfound
  saveWatermark {p p' user stamp notes} hkept _ h u f t hfound := by
    rw [(saveWatermark_kept (Stores.refusing_saveWatermark_ok h)).1] at hfound
    exact hkept u f t hfound

/-! ## Runs -/

namespace Service

variable {σ ς : Type} {v : Service σ} {fit : σ → Prop} {kept : ς → Prop} {a : Stores ς}

/-- The same service and the same stores on both sides, as far as clean texts lead. -/
def likeness (fit : σ → Prop) (kept : ς → Prop) : Likeness (Watched σ) (Watched σ) ς ς where
  user user := Clean user.toList
  folder := Nameable
  token token := Clean token.toList
  view := Reply.Outcome.trimmed
  remote x x' := x = x' ∧ fit x.state
  stores s s' := s = s' ∧ kept s
  view_trimmed _ _ h := h

theorem sendable_of_asks {user : User} {request : Request} (h : (likeness fit kept).Asks user request) :
    Clean user.toList ∧ request.Sendable (isClean · = true) := by
  have hdeep : Clean "Deep".toList := by decide +kernel
  have hshape : Clean "IdOnly".toList := by decide +kernel
  cases h with
  | find hu hr => exact ⟨hu, hr.1, hr.2, hdeep, hshape⟩
  | sync hu hf ht size => exact ⟨hu, hf.1, hf.2, ht, hshape, SyncRequest.fits_forPage _ _ size⟩

theorem transports (hv : v.WellSpoken fit) (listener : Option Level) (url : String) :
    (likeness fit kept).Transports v.direct (v.wired listener url) where
  view {x x' user request} h hasks := by
    obtain ⟨rfl, hx⟩ := h
    obtain ⟨hu, hr⟩ := sendable_of_asks hasks
    obtain ⟨notes, hsend⟩ := wired_send hv hx hu hr listener url
    rw [hsend]
    exact (Reply.Outcome.trimmed_trimmed _).symm
  tells {x x' user request} h hasks := by
    obtain ⟨rfl, hx⟩ := h
    obtain ⟨hu, hr⟩ := sendable_of_asks hasks
    have hreply := hv.reply hx hu hr
    show (likeness fit kept).Tells (v.serve x.state user request).1
    rcases ho : (v.serve x.state user request).1 with _ | _ | ms | ms
    · trivial
    · trivial
    · obtain ⟨-, hlegal, hcanonical⟩ := hreply _ ho
      intro m hm folder hf
      refine ⟨?_, hcanonical folder (List.mem_flatMap.mpr ⟨m, hm, hf⟩)⟩
      cases hids : m.folders with
      | none => simp [hids] at hf
      | some ids => exact (hlegal m hm).2.2 ids hids folder (by simpa [hids] using hf)
    · obtain ⟨-, hlegal, -⟩ := hreply _ ho
      exact fun m hm token ht => (hlegal m hm).2.2.1 token ht
  cancels {x x' user request} h hasks _ := by
    obtain ⟨rfl, hx⟩ := h
    obtain ⟨hu, hr⟩ := sendable_of_asks hasks
    obtain ⟨notes, hsend⟩ := wired_send hv hx hu hr listener url
    rw [hsend]
  remote {x x' user request} h hasks := by
    obtain ⟨rfl, hx⟩ := h
    obtain ⟨hu, hr⟩ := sendable_of_asks hasks
    obtain ⟨notes, hsend⟩ := wired_send hv hx hu hr listener url
    rw [hsend]
    exact ⟨rfl, hv.fit hx hu hr⟩

theorem accesses (ha : a.WellKept kept) : (likeness fit kept : Likeness (Watched σ) _ ς ς).Accesses a a where
  token {s s' user folder} h hu hf := by
    obtain ⟨rfl, hs⟩ := h
    cases hr : a.token s user folder with
    | error fault => exact .refused fault
    | ok r => exact .done ⟨rfl, ha.token hs hu hf hr⟩ _ _
  saveToken {s s' user folder token} h hu hf ht := by
    obtain ⟨rfl, hs⟩ := h
    cases hr : a.saveToken s user folder token with
    | error fault => exact .refused fault
    | ok r => exact .done ⟨rfl, ha.saveToken hs hu hf ht hr⟩ _ _
  watermark {s s' user} h _ := by
    obtain ⟨rfl, hs⟩ := h
    cases a.watermark s user with
    | error fault => exact .refused fault
    | ok r => exact .done rfl _ _
  saveWatermark {s s' user} stamp h hu := by
    obtain ⟨rfl, hs⟩ := h
    cases hr : a.saveWatermark s user stamp with
    | error fault => exact .refused fault
    | ok r => exact .done ⟨rfl, ha.saveWatermark hs hu hr⟩ _ _

/-- **A run comes to the same over HTTP.**  A service that is handed requests as they are and one that has to read them
from documents see the same requests and go on to the same states; the reports and the stores are the same too. -/
theorem wired_syncUsers (hv : v.WellSpoken fit) (ha : a.WellKept kept) {users : List User}
    (hu : ∀ user ∈ users, Clean user.toList) {roots : List FolderId} (hr : ∀ root ∈ roots, Nameable root)
    {w : World (Watched σ) ς} (hfit : fit w.remote.state) (hkept : kept w.stores) (listener : Option Level)
    (url : String) (config : Config) (clock : Instant) (fuel : Nat) (now : Option Stamp) :
    Option.Rel
      (fun (reports, w₁) (reports', w₁') => reports' = reports ∧ w₁'.remote = w₁.remote ∧
        w₁'.stores = w₁.stores ∧
        w₁'.cancel = w₁.cancel ∧ Journal.requests w₁'.events = Journal.requests w₁.events)
      (syncUsers { transport := v.direct, stores := a, config, clock } fuel roots now users w)
      (syncUsers { transport := v.wired listener url, stores := a, config, clock } fuel roots now users w) := by
  have he : (likeness fit kept).Envs { transport := v.direct, stores := a, config, clock }
      { transport := v.wired listener url, stores := a, config, clock } :=
    ⟨transports hv listener url, accesses ha, rfl, rfl⟩
  have hw : (likeness fit kept).Worlds w w := ⟨⟨rfl, hfit⟩, ⟨rfl, hkept⟩, rfl, rfl⟩
  have hrun := Likeness.syncUsers he fuel hu hr now hw
  generalize syncUsers { transport := v.direct, stores := a, config, clock } fuel roots now users w = r at hrun ⊢
  generalize syncUsers { transport := v.wired listener url, stores := a, config, clock } fuel roots now users w = r'
    at hrun ⊢
  cases hrun with
  | none => exact .none
  | some h =>
    obtain ⟨reports, w₁, w₁', rfl, rfl, -, hw₁⟩ := h.elim
    have hrequests := congrArg Journal.requests hw₁.deeds
    rw [Journal.requests_viewed, Journal.requests_viewed, Journal.requests_deeds, Journal.requests_deeds] at hrequests
    exact .some ⟨rfl, hw₁.remote.1.symm, hw₁.stores.1.symm, hw₁.cancel, hrequests⟩

/-- A service whose ids and tokens are full of markup: one folder, of two items that come on two pages. -/
def spiky : Service Nat where
  serve n _ request :=
    let outcome : Reply.Outcome :=
      match request with
      | .find _ => .ok (some (.found [{ folders := some ["<a & b>", ""] }]))
      | .sync r =>
        if r.token = "" then
          .ok (some (.synced
            [{ token := some "]]>&lt;", last := some false, changes := some { created := ["</x>", ""] } }]))
        else if r.token = "]]>&lt;" then
          .ok (some (.synced [{ token := some "&", last := some true, changes := some { created := ["\"y\""] } }]))
        else .error (.failure (.protocol .errorCode (some "ErrorInvalidSyncStateData")))
      | .other _ => .ok none
    (outcome, false, n + 1)

theorem wellSpoken_spiky : spiky.WellSpoken fun _ => True where
  reply {s user request} _ _ hr r h := by
    cases request with
    | find q =>
      cases h
      exact ⟨rfl, by decide +kernel⟩
    | sync q =>
      simp only [spiky] at h
      split at h
      · cases h
        exact ⟨rfl, by decide +kernel⟩
      · split at h <;> cases h
        exact ⟨rfl, by decide +kernel⟩
    | other typeName => exact hr.elim
  fit _ _ _ := trivial

/-- A run on a database, for one user. -/
def spikyRun (t : Transport (Watched Nat)) : Option (List Report × World (Watched Nat) Progress) :=
  syncUsers { transport := t, stores := Backend.database.stores, config := default } 5 ["inbox"] none ["u & v"]
    { remote := ⟨0, []⟩, stores := {} }

/-- Over HTTP this service sees three requests, and both items are reported. -/
theorem spiky_wired_syncUsers : ∃ reports w',
    spikyRun (spiky.wired (some .trace) "https://example.com/ews") = some (reports, w') ∧
      w'.remote = ⟨3, [("u & v", .find (.forRoot "inbox")), ("u & v", .sync (.forPage "<a & b>" "" 512)),
        ("u & v", .sync (.forPage "<a & b>" "]]>&lt;" 512))]⟩ ∧
      reports.map (·.itemIds) = [[("<a & b>", ["</x>", "\"y\""])]] := by
  have hu : ∀ user ∈ ["u & v"], Clean user.toList := by decide +kernel
  have hr : ∀ root ∈ ["inbox"], Nameable root := by
    unfold Nameable
    decide +kernel
  have hrun := wired_syncUsers wellSpoken_spiky (Backend.database.wellKept []) hu hr
    (w := { remote := ⟨0, []⟩, stores := {} }) trivial (fun u f t h => by cases h) (some .trace)
    "https://example.com/ews" default .epoch 5 none
  have hseen : (spikyRun spiky.direct).map (·.2.remote) =
      some ⟨3, [("u & v", .find (.forRoot "inbox")), ("u & v", .sync (.forPage "<a & b>" "" 512)),
        ("u & v", .sync (.forPage "<a & b>" "]]>&lt;" 512))]⟩ := by decide +kernel
  have hitems : (spikyRun spiky.direct).map (·.1.map (·.itemIds)) = some [[("<a & b>", ["</x>", "\"y\""])]] := by
    decide +kernel
  obtain ⟨⟨reports, w⟩, hdirect, hremote⟩ := Option.map_eq_some_iff.mp hseen
  change Option.Rel _ (spikyRun spiky.direct) (spikyRun (spiky.wired (some .trace) "https://example.com/ews")) at hrun
  rw [hdirect] at hrun hitems
  generalize spikyRun (spiky.wired (some .trace) "https://example.com/ews") = r at hrun ⊢
  cases hrun with
  | @some x x' h =>
    obtain ⟨rfl, hsame, -⟩ := h
    exact ⟨_, _, rfl, hsame.trans hremote, Option.some.inj hitems⟩

end Service

end MailboxSync
