import MailboxSync.Proofs.Likeness
import MailboxSync.Proofs.Run
import Mathlib.Data.List.Sort
import Mathlib.Data.String.Basic

/-!
# Discovery is a set

* `FindMessage.Fine` — a message that reports no error;
* `discover_ok`, `discover_error` — what discovery below a root makes of the messages of a reply;
* `Transport.Lists` — a service asked about roots one after another lists folders: in any order, repeated, spread over
  messages and roots, with empty ids among them;
* `discoverAll_lists` — discovery finds the set of these;
* `SameListing` — two services that answer sync requests alike and list the same folders;
* `SameListing.discovery_is_a_set` — runs over them cannot be told apart but by their find requests.
-/

namespace MailboxSync

open Journal

/-! ## What discovery makes of a reply -/

/-- A message that reports no error. -/
def FindMessage.Fine (m : FindMessage) : Prop := ∀ code, m.code = some code → code = noError

instance (m : FindMessage) : Decidable m.Fine :=
  decidable_of_iff (m.code.all (· = noError) = true) (by simp [FindMessage.Fine, Option.all_eq_true])

/-- The folders that messages list, as they list them. -/
def FindMessage.allFolders (ms : List FindMessage) : List FolderId := ms.flatMap fun m => m.folders.getD []

theorem FindMessage.mem_folderSet {ms : List FindMessage} {folder : FolderId} :
    folder ∈ folderSet ms ↔ folder ≠ "" ∧ folder ∈ allFolders ms := by
  rw [folderSet, FolderSet.mem_ofList, List.mem_filter, and_comm]
  simp [allFolders]

theorem FindMessage.firstError_append {ms ms' : List FindMessage} (h : ∀ m ∈ ms, m.Fine) :
    firstError (ms ++ ms') = firstError ms' := by
  have hnone : firstError ms = none := by
    refine List.findSome?_eq_none_iff.mpr fun m hm => ?_
    cases hc : m.code with
    | none => rfl
    | some code => simp [h m hm code hc]
  rw [firstError, List.findSome?_append]
  rw [firstError] at hnone
  rw [hnone, Option.none_or]
  rfl

section Reply

variable {τ ς : Type} {t : Transport τ} {root : FolderId} {user : User} {w : World τ ς} {ms : List FindMessage}

theorem discover_ok (ho : (t.send w.remote user (.find (.forRoot root))).1.outcome = .ok (some (.found ms)))
    (hms : ∀ m ∈ ms, m.Fine) : (discover t root user w).1 = .ok (FindMessage.folderSet ms) := by
  obtain ⟨notes, heq⟩ := discover_eq t root user w
  have hnone : FindMessage.firstError ms = none := by
    have h : FindMessage.firstError (ms ++ []) = FindMessage.firstError [] := FindMessage.firstError_append hms
    rwa [List.append_nil] at h
  rw [heq, World.ask_fst, ho]
  simp only [FolderSet.read, hnone]

theorem discover_error {m : FindMessage} {ms' : List FindMessage} {code : String}
    (ho : (t.send w.remote user (.find (.forRoot root))).1.outcome = .ok (some (.found (ms ++ m :: ms'))))
    (hms : ∀ m ∈ ms, m.Fine) (hcode : m.code = some code) (hne : code ≠ noError) :
    (discover t root user w).1 = .error (.failure (.protocol .errorCode (some code))) := by
  obtain ⟨notes, heq⟩ := discover_eq t root user w
  have hfirst : FindMessage.firstError (ms ++ m :: ms') = some (code, m.text.getD "") := by
    rw [FindMessage.firstError_append hms]
    simp [FindMessage.firstError, hcode, hne]
  rw [heq, World.ask_fst, ho]
  simp only [FolderSet.read, hfirst]

end Reply

/-! ## Services that list folders -/

/-- From the state `s` on, a service that is asked about roots one after another lists these folders, every message of
its replies being fine. -/
inductive Transport.Lists {τ : Type} (t : Transport τ) (user : User) : τ → List FolderId → List FolderId → Prop
  | nil (s : τ) : t.Lists user s [] []
  | cons {s : τ} {root : FolderId} {roots folders : List FolderId} {ms : List FindMessage}
    (reply : (t.send s user (.find (.forRoot root))).1.outcome = .ok (some (.found ms))) (fine : ∀ m ∈ ms, m.Fine)
    (rest : t.Lists user (t.send s user (.find (.forRoot root))).2 roots folders) :
    t.Lists user s (root :: roots) (FindMessage.allFolders ms ++ folders)

def Request.isSync : Request → Bool
  | .sync _ => true
  | _ => false

def syncsOf (asked : List (User × Request)) : List (User × Request) := asked.filter (·.2.isSync)

theorem syncsOf_append (asked asked' : List (User × Request)) :
    syncsOf (asked ++ asked') = syncsOf asked ++ syncsOf asked' := List.filter_append ..

def Event.isFind : Event → Bool
  | asked _ (.find _) _ => true
  | _ => false

section Discovery

variable {τ ς : Type} {t : Transport τ} {user : User} {roots folders : List FolderId} {w : World τ ς}

/-- Where there is no cancel event, discovery finds the set of the folders listed; it asks for them and does nothing
else. -/
theorem discoverAll_lists (h : t.Lists user w.remote roots folders) (hc : w.cancel = none) (found : FolderSet) :
    ∃ set w' asked, discoverAll t user roots found w = (.ok set, w') ∧
      (∀ f, f ∈ set ↔ f ∈ found ∨ f ≠ "" ∧ f ∈ folders) ∧ w'.stores = w.stores ∧
        w'.cancel = none ∧ w'.remote = t.after w.remote asked ∧ syncsOf asked = [] ∧
      (deeds w'.events).filter (!·.isFind) = (deeds w.events).filter (!·.isFind) := by
  generalize hs : w.remote = s at h
  induction h generalizing w found with
  | nil s => exact ⟨found, w, [], rfl, by simp, rfl, hc, hs, rfl, rfl⟩
  | @cons s root roots folders ms reply fine rest ih =>
    subst hs
    obtain ⟨notes, heq⟩ := discover_eq t root user w
    have hok := discover_ok reply fine
    -- the world after the first request, with the notes on it
    set w₁ := (discover t root user w).2 with hw₁
    have hask : w₁ = (w.ask t user (.find (.forRoot root))).2.noteAll notes := by rw [hw₁, heq]
    have hremote : w₁.remote = (t.send w.remote user (.find (.forRoot root))).2 := by
      rw [hask, World.noteAll_remote, World.ask_remote]
    have hcancel : w₁.cancel = none := by
      rw [hask, World.noteAll_cancel, World.ask_cancel, hc]
      split <;> rfl
    have hdeeds : (deeds w₁.events).filter (!·.isFind) = (deeds w.events).filter (!·.isFind) := by
      rw [hask, World.noteAll_events, World.ask_events]
      simp [deeds, Event.isNote, Event.isFind]
    obtain ⟨set, w', asked, hrun, hmem, hstores, hcancel', hremote', hasked, hdeeds'⟩ :=
      ih hcancel (found.insertAll (FindMessage.folderSet ms)) hremote
    refine ⟨set, w', (user, .find (.forRoot root)) :: asked, ?_, fun f => ?_, ?_, hcancel', ?_, ?_, ?_⟩
    · have hnot : w.cancelled = false := by simp [World.cancelled, hc]
      have hpair : discover t root user w = (.ok (FindMessage.folderSet ms), w₁) := Prod.ext hok rfl
      unfold discoverAll
      rw [hnot, hpair]
      exact hrun
    · rw [hmem f, FolderSet.mem_insertAll, FindMessage.mem_folderSet, List.mem_append]
      tauto
    · rw [hstores, hask, World.noteAll_stores, World.ask_stores]
    · rw [hremote']
      rfl
    · exact hasked
    · exact hdeeds'.trans hdeeds

end Discovery

/-! ## Services that list the same folders -/

/-- Two services, each asked from a state of its own on: they answer sync requests alike, whatever find requests come
between them, and the folders they list below their roots are the same. -/
structure SameListing {τ τ' : Type} (t : Transport τ) (t' : Transport τ') (user : User) (s : τ) (s' : τ')
    (roots roots' : List FolderId) : Prop where
  syncs : ∀ asked asked', syncsOf asked = syncsOf asked' → ∀ u request,
    (t.send (t.after s asked) u (.sync request)).1.outcome = (t'.send (t'.after s' asked') u (.sync request)).1.outcome
  lists : ∃ folders folders', t.Lists user s roots folders ∧ t'.Lists user s' roots' folders' ∧
    ∀ f, f ≠ "" → (f ∈ folders ↔ f ∈ folders')

namespace SameListing

variable {τ τ' ς : Type} {t : Transport τ} {t' : Transport τ'} {user : User} {s : τ} {s' : τ'}
  {roots roots' : List FolderId}

/-- The same stores on both sides, services that have got the same sync requests, and no cancel event. -/
def likeness (t : Transport τ) (t' : Transport τ') (s : τ) (s' : τ') (ς : Type) : Likeness τ τ' ς ς where
  root _ := False
  shows ev := !ev.isFind
  heeds := false
  remote x x' := ∃ asked asked', x = t.after s asked ∧ x' = t'.after s' asked' ∧ syncsOf asked = syncsOf asked'
  stores := (· = ·)
  view_trimmed _ _ h := congrArg _ h

theorem transports (h : SameListing t t' user s s' roots roots') : (likeness t t' s s' ς).Transports t t' where
  view {x x' u request} hx hasks := by
    obtain ⟨asked, asked', rfl, rfl, heq⟩ := hx
    cases hasks with
    | find _ hr => exact hr.elim
    | sync _ _ _ size => exact h.syncs asked asked' heq u _
  tells _ _ := Likeness.tells_of_all (fun _ => trivial) (fun _ => trivial) _
  cancels _ _ hheeds := by cases hheeds
  remote {x x' u request} hx hasks := by
    obtain ⟨asked, asked', rfl, rfl, heq⟩ := hx
    refine ⟨asked ++ [(u, request)], asked' ++ [(u, request)], ?_, ?_, ?_⟩
    · rw [Transport.after_append]
      rfl
    · rw [Transport.after_append]
      rfl
    · rw [syncsOf_append, syncsOf_append, heq]

theorem accesses (a : Stores ς) : (likeness t t' s s' ς).Accesses a a where
  token {p p' u f} hp _ _ := by
    cases hp
    exact .of_refl (fun _ => ⟨rfl, trivial⟩) _
  saveToken {p p' u f token} hp _ _ _ := by
    cases hp
    exact .of_refl (fun _ => rfl) _
  watermark {p p' u} hp _ := by
    cases hp
    exact .of_refl (fun _ => rfl) _
  saveWatermark {p p' u} stamp hp _ := by
    cases hp
    exact .of_refl (fun _ => rfl) _

/-- Both sides find the same folders, in the same order. -/
theorem discovered (h : SameListing t t' user s s' roots roots') (p : ς) : ∃ folders w w',
    discoverAll t user roots [] { remote := s, stores := p } = (.ok folders, w) ∧
      discoverAll t' user roots' [] { remote := s', stores := p } = (.ok folders, w') ∧
      (likeness t t' s s' ς).Worlds w w' := by
  obtain ⟨folders, folders', hlists, hlists', hsame⟩ := h.lists
  obtain ⟨set, w, asked, hrun, hmem, hstores, hcancel, hremote, hasked, hdeeds⟩ :=
    discoverAll_lists (w := ({ remote := s, stores := p } : World τ ς)) hlists rfl []
  obtain ⟨set', w', asked', hrun', hmem', hstores', hcancel', hremote', hasked', hdeeds'⟩ :=
    discoverAll_lists (w := ({ remote := s', stores := p } : World τ' ς)) hlists' rfl []
  -- sets are kept sorted, so their members determine them
  have hset : set' = set := by
    have hsorted : set.Pairwise (· < ·) := discoverAll_sorted List.Pairwise.nil hrun
    have hsorted' : set'.Pairwise (· < ·) := discoverAll_sorted List.Pairwise.nil hrun'
    refine hsorted'.eq_of_mem_iff hsorted fun f => ?_
    have hf := hsame f
    rw [hmem f, hmem' f]
    tauto
  subst hset
  refine ⟨set', w, w', hrun, hrun', ?_, hstores.trans hstores'.symm, ⟨hcancel, hcancel'⟩, ?_⟩
  · exact ⟨asked, asked', hremote, hremote', hasked.trans hasked'.symm⟩
  · rw [Likeness.shown_of_view _ rfl, Likeness.shown_of_view _ rfl]
    exact hdeeds'.trans hdeeds.symm

theorem concludeRun_roots (e : Env τ ς) (roots roots' : List FolderId) (count : Nat) (now : Option Stamp)
    (pool : Pool) (w : World τ ς) :
    concludeRun e { user, roots := roots' } count now pool w =
      ((concludeRun e { user, roots } count now pool w).1.map fun report => { report with roots := roots' },
        (concludeRun e { user, roots } count now pool w).2) := by
  unfold concludeRun
  cases pool.fault with
  | some fault => rfl
  | none =>
    cases pool.cause with
    | some failure => rfl
    | none =>
      dsimp only
      rcases advanceWatermark e user now w with ⟨fault | stamp, w'⟩ <;> rfl

/-- The runs cannot be told apart but by their find requests and the roots on their reports. -/
theorem same_run (h : SameListing t t' user s s' roots roots') (a : Stores ς) (config : Config) (clock : Instant)
    (fuel : Nat) (now : Option Stamp) (p : ς) :
    Option.Rel
      (fun (result, w) (result', w') =>
        result' = result.map (fun report => { report with roots := roots' }) ∧ w'.stores = w.stores ∧
          (deeds w'.events).filter (!·.isFind) = (deeds w.events).filter (!·.isFind))
      (syncUser { transport := t, stores := a, config, clock } fuel roots now user { remote := s, stores := p })
      (syncUser { transport := t', stores := a, config, clock } fuel roots' now user
        { remote := s', stores := p }) := by
  let e : Env τ ς := { transport := t, stores := a, config, clock }
  let e' : Env τ' ς := { transport := t', stores := a, config, clock }
  have he : (likeness t t' s s' ς).Envs e e' := ⟨h.transports, accesses a, rfl, rfl⟩
  obtain ⟨folders, w₁, w₁', hrun, hrun', hw₁⟩ := h.discovered p
  have hpool : (likeness t t' s s' ς).Holds (.ofFolders config.maxFolderWorkers folders) :=
    .ofFolders _ fun _ _ => trivial
  have hdrive := Likeness.drive he (show (likeness t t' s s' ς).user user from trivial) fuel (.intro hpool hw₁)
  unfold syncUser
  dsimp only
  rw [hrun, hrun']
  dsimp only
  generalize Pool.drive e user fuel (.ofFolders config.maxFolderWorkers folders, w₁) = r at hdrive ⊢
  generalize Pool.drive e' user fuel (.ofFolders config.maxFolderWorkers folders, w₁') = r' at hdrive ⊢
  cases hdrive with
  | none => exact .none
  | some hsame =>
    obtain ⟨pool, w₂, w₂', rfl, rfl, -, hw₂⟩ := hsame.elim
    have huser : (likeness t t' s s' ς).user ({ user, roots } : Report).user := trivial
    have hend := Likeness.concludeRun he huser folders.length now pool hw₂
    obtain ⟨result, w₃, w₃', hx, hx', -, hw₃⟩ := hend.elim
    have hseen := hw₃.seen
    rw [Likeness.shown_of_view _ rfl, Likeness.shown_of_view _ rfl] at hseen
    refine .some ?_
    dsimp only
    rw [concludeRun_roots e' roots roots', hx, hx']
    exact ⟨rfl, hw₃.stores.symm, hseen⟩

/-- **Discovery is a set.**  Over services that answer sync requests alike and list the same folders, however they list
them and however their roots are ordered and repeated, a run sends the same sync requests in the same order, gets the
same replies, writes the same and comes to the same report but for the roots on it, or to the same fault.  And below one
root, with any service, discovery comes to exactly the set of the ids listed, empty ones left out, if no message reports
an error, and to the code of the first message that does otherwise. -/
theorem discovery_is_a_set (t : Transport τ) (t' : Transport τ') (user : User) :
    (∀ s s' roots roots', SameListing t t' user s s' roots roots' →
      ∀ (a : Stores ς) (config : Config) (clock : Instant) (fuel : Nat) (now : Option Stamp) (p : ς),
        Option.Rel
          (fun (result, w) (result', w') =>
            result' = result.map (fun report => { report with roots := roots' }) ∧ w'.stores = w.stores ∧
              (deeds w'.events).filter (!·.isFind) = (deeds w.events).filter (!·.isFind))
          (syncUser { transport := t, stores := a, config, clock } fuel roots now user { remote := s, stores := p })
          (syncUser { transport := t', stores := a, config, clock } fuel roots' now user
            { remote := s', stores := p })) ∧
    ∀ (root : FolderId) (w : World τ ς),
      (∀ ms, (t.send w.remote user (.find (.forRoot root))).1.outcome = .ok (some (.found ms)) →
        (∀ m ∈ ms, m.Fine) → ∃ folders : FolderSet, (discover t root user w).1 = .ok folders ∧
          folders.Pairwise (· < ·) ∧ ∀ f, f ∈ folders ↔ f ≠ "" ∧ f ∈ FindMessage.allFolders ms) ∧
      ∀ ms m ms' code,
        (t.send w.remote user (.find (.forRoot root))).1.outcome = .ok (some (.found (ms ++ m :: ms'))) →
        (∀ m ∈ ms, m.Fine) → m.code = some code → code ≠ noError →
          (discover t root user w).1 = .error (.failure (.protocol .errorCode (some code))) := by
  refine ⟨fun s s' roots roots' h => h.same_run, fun root w => ⟨fun ms ho hms => ?_, ?_⟩⟩
  · have hsorted : (FindMessage.folderSet ms).Pairwise (· < ·) := FolderSet.insertAll_sorted List.Pairwise.nil
    exact ⟨_, discover_ok ho hms, hsorted, fun f => FindMessage.mem_folderSet⟩
  · intro ms m ms' code ho hms hcode hne
    exact discover_error ho hms hcode hne

/-- A service without memory that lists what it is told to; every folder comes on two pages, but `c`, which it cannot
read. -/
def shelf (listing : List FindMessage) : Transport Unit where
  send _ _ request :=
    let outcome : Reply.Outcome :=
      match request with
      | .find _ => .ok (some (.found listing))
      | .sync r =>
        if r.folder = "c" then .error (.failure (.transport .badStatus (some 500)))
        else if r.token = "" then
          .ok (some (.synced [{ token := some "1", last := some false, changes := some { created := ["x"] } }]))
        else .ok (some (.synced [{ token := some "2", last := some true }]))
      | .other _ => .ok none
    ({ outcome }, ())

/-- Three folders in one message. -/
def orderly : List FindMessage := [{ folders := some ["a", "b", "c"] }]

/-- The same folders, out of order, twice, over several messages, and with empty ids between them. -/
def disorderly : List FindMessage :=
  [{ folders := some ["c", "", "b"], code := none }, { folders := none }, { folders := some ["b", "a", ""] }]

/-- The run reports the same three folders on both sides, one of them failed. -/
theorem disorderly_discovery : ∃ report report' w w',
    syncUser { transport := shelf orderly, stores := Memory.stores } 9 ["r"] none "u" { remote := (), stores := {} } =
        some (.ok report, w) ∧
      syncUser { transport := shelf disorderly, stores := Memory.stores } 9 ["s", "r", "s"] none "u"
        { remote := (), stores := {} } = some (.ok report', w') ∧
      report'.folders = report.folders ∧ report'.error = report.error ∧ report.failedFolders = ["c"] ∧
      w'.stores = w.stores := by
  have hlists : (shelf orderly).Lists "u" () ["r"] (FindMessage.allFolders orderly ++ []) :=
    .cons rfl (by decide) (.nil ())
  have hlists' : (shelf disorderly).Lists "u" () ["s", "r", "s"] (FindMessage.allFolders disorderly ++
      (FindMessage.allFolders disorderly ++ (FindMessage.allFolders disorderly ++ []))) :=
    .cons rfl (by decide) (.cons rfl (by decide) (.cons rfl (by decide) (.nil ())))
  have hsame : SameListing (shelf orderly) (shelf disorderly) "u" () () ["r"] ["s", "r", "s"] :=
    ⟨fun _ _ _ _ _ => rfl, _, _, hlists, hlists', by simp [FindMessage.allFolders, orderly, disorderly]; grind⟩
  have hruns := (discovery_is_a_set (shelf orderly) (shelf disorderly) "u").1 () () _ _ hsame Memory.stores {}
    .epoch 9 none {}
  have hfailed : (syncUser { transport := shelf orderly, stores := Memory.stores } 9 ["r"] none "u"
      { remote := (), stores := {} }).map (fun out => out.1.toOption.map (·.failedFolders)) = some (some ["c"]) := by
    decide +kernel
  generalize syncUser { transport := shelf orderly, stores := Memory.stores } 9 ["r"] none "u"
    { remote := (), stores := {} } = out at hruns hfailed
  generalize syncUser { transport := shelf disorderly, stores := Memory.stores } 9 ["s", "r", "s"] none "u"
    { remote := (), stores := {} } = out' at hruns
  cases hruns with
  | none => cases hfailed
  | @some x x' h =>
    obtain ⟨result, w⟩ := x
    obtain ⟨result', w'⟩ := x'
    obtain ⟨rfl, hstores, -⟩ := h
    cases result with
    | error fault => cases hfailed
    | ok report => exact ⟨report, _, w, w', rfl, rfl, rfl, rfl, by simpa [Except.toOption] using hfailed, hstores⟩

end SameListing

end MailboxSync
