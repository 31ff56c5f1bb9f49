import MailboxSync.Proofs.Pool
import Mathlib.Data.List.Nodup

/-!
# The beginning and the end of a run

What a run does before and after its folders are synced.

* `discoverAll_acts`, `discoverAll_sorted` — discovery asks, writes nothing, and finds a set;
* `Advances` — everything moving the watermark can do;
* `Closes` — how a run ends, by the ends its folders came to;
* `Ran` — a run that has found its folders, each of which has come to an end.
-/

namespace MailboxSync

open Journal

variable {τ ς : Type} {e : Env τ ς} {user : User} {roots : List FolderId} {now : Option Stamp} {w w' : World τ ς}

/-! ## Sets of folders -/

theorem FolderSet.insert_sorted {folder : FolderId} {s : FolderSet} (h : s.Pairwise (· < ·)) :
    (insert folder s).Pairwise (· < ·) := by
  induction s with
  | nil => simp [insert]
  | cons f fs ih =>
    obtain ⟨hf, hfs⟩ := List.pairwise_cons.mp h
    unfold insert
    split
    · rename_i hlt
      refine List.pairwise_cons.mpr ⟨fun g hg => ?_, h⟩
      rcases List.mem_cons.mp hg with rfl | hg
      · exact hlt
      · exact String.lt_trans hlt (hf g hg)
    · split
      · exact h
      · rename_i hlt hne
        refine List.pairwise_cons.mpr ⟨fun g hg => ?_, ih hfs⟩
        rcases mem_insert.mp hg with rfl | hg
        · grind
        · exact hf g hg

theorem FolderSet.insertAll_sorted {fs : List FolderId} {s : FolderSet} (h : s.Pairwise (· < ·)) :
    (insertAll fs s).Pairwise (· < ·) := by
  induction fs generalizing s with
  | nil => exact h
  | cons f fs ih => exact ih (insert_sorted h)

theorem FolderSet.nodup_of_sorted {s : FolderSet} (h : s.Pairwise (· < ·)) : s.Nodup :=
  h.imp fun hlt heq => absurd (heq ▸ hlt) (String.lt_irrefl _)

/-! ## Discovery -/

theorem ok_of_toOption {ε α : Type} {x : Except ε α} {a : α} (h : x.toOption = some a) : x = .ok a := by
  cases x with
  | error _ => cases h
  | ok _ => exact congrArg _ (Option.some.inj h)

theorem discover_acts (e : Env τ ς) (user : User) (root : FolderId) (w : World τ ς) :
    w.Acts e [.asked user (.find (.forRoot root)) (w.ask e.transport user (.find (.forRoot root))).1]
      (discover e.transport root user w).2 := by
  have hl := World.Acts.ask (.refl (w := w)) (e := e) user (.find (.forRoot root))
  unfold discover
  generalize w.ask e.transport user (.find (.forRoot root)) = r at hl
  obtain ⟨o, w'⟩ := r
  rcases o with trouble | _ | ms | ms
  · exact hl
  · exact hl.note _
  · dsimp only
    split <;> exact hl.note _
  · exact hl

theorem discoverAll_acts (e : Env τ ς) (user : User) (roots : List FolderId) (found : FolderSet) (w : World τ ς) :
    ∃ ds, w.Acts e ds (discoverAll e.transport user roots found w).2 ∧ Quiet ds := by
  induction roots generalizing found w with
  | nil => exact ⟨[], .refl, .nil⟩
  | cons root roots ih =>
    unfold discoverAll
    split
    · exact ⟨[], .refl, .nil⟩
    · have hl := discover_acts e user root w
      have hq := Quiet.find user (.forRoot root) (w.ask e.transport user (.find (.forRoot root))).1
      generalize discover e.transport root user w = r at hl
      obtain ⟨result, w'⟩ := r
      rcases result with (failure | fault) | folders
      · exact ⟨_, hl.note _, hq⟩
      · exact ⟨_, hl, hq⟩
      · obtain ⟨ds', hl', hq'⟩ := ih (found.insertAll folders) w'
        exact ⟨_, hl.trans hl', hq.append hq'⟩

theorem discoverAll_sorted {t : Transport τ} {found folders : FolderSet} (hf : found.Pairwise (· < ·))
    (h : discoverAll t user roots found w = (.ok folders, w')) : folders.Pairwise (· < ·) := by
  induction roots generalizing found w with
  | nil => cases h; exact hf
  | cons root roots ih =>
    unfold discoverAll at h
    split at h
    · cases h
    · split at h
      · cases h
      · cases h
      · exact ih (FolderSet.insertAll_sorted hf) h

/-! ## Moving the watermark -/

/-- The later of two instants. -/
def Instant.later (stamp previous : Instant) : Instant := if stamp < previous then previous else stamp

/-- Everything moving the watermark can do. -/
inductive Advances (e : Env τ ς) (user : User) (now : Option Stamp) (w : World τ ς) :
    List Event → Except Fault Instant → Prop
  | unstamped {fault : Fault} (hn : e.stampOf now = .error fault) : Advances e user now w [] (.error fault)
  | unread {fault : Fault} (hr : e.stores.watermark w.stores user = .error fault) :
    Advances e user now w [] (.error fault)
  | unsaved {fault : Fault} {next : Instant}
    (hs : e.stores.saveWatermark w.stores user (.ofInstant next) = .error fault) :
    Advances e user now w [] (.error fault)
  | saved {stamp previous : Instant} {notes notes' : List Note} {stores : ς} (hn : e.stampOf now = .ok stamp)
    (hr : e.stores.watermark w.stores user = .ok (previous, notes))
    (hs : e.stores.saveWatermark w.stores user (.ofInstant (stamp.later previous)) = .ok (stores, notes')) :
    Advances e user now w [.savedWatermark user (stamp.later previous)] (.ok (stamp.later previous))

theorem advanceWatermark_advances (e : Env τ ς) (user : User) (now : Option Stamp) (w : World τ ς) :
    ∃ ds, Advances e user now w ds (advanceWatermark e user now w).1 ∧
      w.Acts e ds (advanceWatermark e user now w).2 := by
  unfold advanceWatermark
  cases hn : e.stampOf now with
  | error fault => exact ⟨[], .unstamped hn, .refl⟩
  | ok stamp =>
    unfold World.readWatermark
    cases hr : e.stores.watermark w.stores user with
    | error fault => exact ⟨[], .unread hr, .refl⟩
    | ok r =>
      obtain ⟨previous, notes⟩ := r
      dsimp only
      -- the note on a watermark that stays changes neither the stores nor what is written
      obtain ⟨w₂, hw₂, hl, hst⟩ : ∃ w₂, (if stamp < previous then (previous, (w.noteAll notes).note .debug
            s!"Watermark for {user} already at {Iso.ofInstant previous}, keeping it") else (stamp, w.noteAll notes)) =
          (stamp.later previous, w₂) ∧ w.Acts e [] w₂ ∧ w₂.stores = w.stores := by
        unfold Instant.later
        have hl : w.Acts e [] (w.noteAll notes) := World.Acts.refl.noteAll notes
        split
        · exact ⟨_, rfl, hl.note _, World.noteAll_stores w notes⟩
        · exact ⟨_, rfl, hl, World.noteAll_stores w notes⟩
      rw [hw₂]
      dsimp only
      cases hs : e.stores.saveWatermark w.stores user (.ofInstant (stamp.later previous)) with
      | error fault =>
        have hw : w₂.writeWatermark e.stores user (stamp.later previous) = (.error fault, w₂) := by
          simp [World.writeWatermark, hst, hs]
        rw [hw]
        exact ⟨[], .unsaved hs, hl⟩
      | ok r =>
        obtain ⟨w₃, hw⟩ :
          ∃ w₃, w₂.writeWatermark e.stores user (stamp.later previous) = (.ok (), w₃) := by
          simp [World.writeWatermark, hst, hs]
        rw [hw]
        exact ⟨_, .saved hn hr hs, hl.writeWatermark hw⟩

/-! ## The end of a run -/

/-- How a run ends whose folders have come to these ends. -/
inductive Closes (e : Env τ ς) (roots : List FolderId) (now : Option Stamp) (user : User) (w : World τ ς)
    (rs : List (Except Fault FolderResult)) : List Event → Except Fault Report → Prop
  | fault {fault : Fault} (h : .error fault ∈ rs) : Closes e roots now user w rs [] (.error fault)
  | failed {results : List FolderResult} {failure : Failure} (h : rs = results.map .ok)
    (hb : Failure.blamed results = some failure) :
    Closes e roots now user w rs [] (.ok { user, roots, folders := results, error := some failure })
  | stuck {results : List FolderResult} {fault : Fault} {ds : List Event} (h : rs = results.map .ok)
    (hok : ∀ r ∈ results, r.ok = true) (ha : Advances e user now w ds (.error fault)) :
    Closes e roots now user w rs ds (.error fault)
  | completed {results : List FolderResult} {instant : Instant} {ds : List Event} (h : rs = results.map .ok)
    (hok : ∀ r ∈ results, r.ok = true) (ha : Advances e user now w ds (.ok instant)) :
    Closes e roots now user w rs ds (.ok { user, roots, folders := results, watermark := some instant })

theorem concludeRun_closes (e : Env τ ς) (roots : List FolderId) (now : Option Stamp) (user : User) {p : Pool}
    {rs : List (Except Fault FolderResult)} (h : p.Took rs) (count : Nat) (w : World τ ς) :
    ∃ ds, Closes e roots now user w rs ds (concludeRun e { user, roots } count now p w).1 ∧
      w.Acts e ds (concludeRun e { user, roots } count now p w).2 := by
  unfold Pool.Took at h
  unfold concludeRun
  cases hf : p.fault with
  | some fault =>
    simp only [hf] at h
    exact ⟨[], .fault h, .refl⟩
  | none =>
    simp only [hf] at h
    obtain ⟨hrs, hc⟩ := h
    cases hb : p.cause with
    | some failure => exact ⟨[], .failed hrs (hc ▸ hb), World.Acts.refl.note _⟩
    | none =>
      have hok := (Failure.blamed_eq_none_iff p.results).mp (hc ▸ hb)
      obtain ⟨ds, ha, hl⟩ := advanceWatermark_advances e user now w
      dsimp only
      generalize advanceWatermark e user now w = r at ha hl
      obtain ⟨result, w'⟩ := r
      cases result with
      | error fault => exact ⟨ds, .stuck hrs hok ha, hl⟩
      | ok instant => exact ⟨ds, .completed hrs hok ha, hl.note _⟩

theorem Closes.elsewhere {rs : List (Except Fault FolderResult)} {ds : List Event} {result : Except Fault Report}
    (h : Closes e roots now user w rs ds result) (u : User) (f : FolderId) :
    exchanges u f ds = [] ∧ savedTokens u f ds = [] := by
  have key : ∀ {r}, Advances e user now w ds r → exchanges u f ds = [] ∧ savedTokens u f ds = [] := by
    intro r ha
    cases ha <;> exact ⟨rfl, rfl⟩
  cases h with
  | fault _ => exact ⟨rfl, rfl⟩
  | failed _ _ => exact ⟨rfl, rfl⟩
  | stuck _ _ ha => exact key ha
  | completed _ _ ha => exact key ha

theorem Closes.results {rs : List (Except Fault FolderResult)} {ds : List Event} {report : Report}
    (h : Closes e roots now user w rs ds (.ok report)) : rs = report.folders.map .ok := by
  cases h with
  | failed h _ => exact h
  | completed h _ _ => exact h

theorem Closes.ends_eq {ends : Ends} {ds : List Event} {report : Report}
    (h : Closes e roots now user w (ends.map (·.2)) ds (.ok report))
    (hf : ∀ x ∈ ends, ∀ r, x.2 = .ok r → r.folder = x.1) :
    ends = report.folders.map fun r => (r.folder, .ok r) := by
  have hrs := h.results
  generalize report.folders = results at hrs
  clear h
  induction ends generalizing results with
  | nil => simpa using hrs
  | cons x ends ih =>
    obtain ⟨f, o⟩ := x
    obtain ⟨r, rest, rfl, hx, hrest⟩ := List.map_eq_cons_iff.mp hrs.symm
    obtain rfl : Except.ok r = o := hx
    have hr : r.folder = f := hf _ List.mem_cons_self r rfl
    rw [ih (fun y hy => hf y (List.mem_cons_of_mem _ hy)) rest hrest.symm, List.map_cons, hr]

/-! ## The run -/

/-- A run that found its folders: every folder has come to an end, and the run closes on these ends. -/
structure Ran (e : Env τ ς) (roots : List FolderId) (now : Option Stamp) (user : User) (w : World τ ς)
    (folders : FolderSet) (ends : Ends) (ds : List Event) (result : Except Fault Report) : Prop where
  sorted : folders.Pairwise (· < ·)
  all : (ends.map (·.1)).Perm folders
  stands : ∀ x ∈ ends, Stands e user w x.1 (exchanges user x.1 ds) (savedTokens user x.1 ds) (.ended x.2)
  elsewhere : ∀ u f, ¬ (u = user ∧ f ∈ folders) → exchanges u f ds = [] ∧ savedTokens u f ds = []
  closes : ∃ w₂ ds₂ ds₃, w.Leads e ds₂ w₂ ∧ savedWatermarks ds₂ = [] ∧
    Closes e roots now user w₂ (ends.map (·.2)) ds₃ result ∧ ds = ds₂ ++ ds₃

namespace Ran

variable {folders : FolderSet} {ends : Ends} {ds : List Event} {result : Except Fault Report} {report : Report}

theorem nodup (h : Ran e roots now user w folders ends ds result) : (ends.map (·.1)).Nodup :=
  h.all.nodup_iff.mpr (FolderSet.nodup_of_sorted h.sorted)

theorem ends_eq (h : Ran e roots now user w folders ends ds (.ok report)) :
    ends = report.folders.map fun r => (r.folder, .ok r) := by
  obtain ⟨_, _, _, -, -, hc, -⟩ := h.closes
  refine hc.ends_eq fun x hx r hr => ?_
  have hstands := h.stands x hx
  rw [hr] at hstands
  exact hstands.result_folder

theorem folders_eq (h : Ran e roots now user w folders ends ds (.ok report)) :
    report.folders.map (·.folder) = ends.map (·.1) := by
  rw [h.ends_eq, List.map_map]
  rfl

theorem exists_end (h : Ran e roots now user w folders ends ds result) {folder : FolderId} (hf : folder ∈ folders) :
    ∃ r, (folder, r) ∈ ends := by
  obtain ⟨⟨f, r⟩, hx, rfl⟩ := List.mem_map.mp (h.all.mem_iff.mpr hf)
  exact ⟨r, hx⟩

theorem end_unique (h : Ran e roots now user w folders ends ds result) {folder : FolderId}
    {r r' : Except Fault FolderResult} (hr : (folder, r) ∈ ends) (hr' : (folder, r') ∈ ends) : r = r' :=
  congrArg Prod.snd (List.inj_on_of_nodup_map h.nodup hr hr' rfl)

theorem error_of_end (h : Ran e roots now user w folders ends ds result) {folder : FolderId} {fault : Fault}
    (hf : (folder, .error fault) ∈ ends) : ∃ fault, result = .error fault := by
  cases result with
  | error fault => exact ⟨fault, rfl⟩
  | ok report =>
    rw [h.ends_eq] at hf
    obtain ⟨r, -, hr⟩ := List.mem_map.mp hf
    cases hr

end Ran

/-- What a run comes to when discovery meets with trouble. -/
def resultOfTrouble (user : User) (roots : List FolderId) : Trouble → Except Fault Report
  | .failure failure => .ok { user, roots, error := some failure }
  | .fault fault => .error fault

end MailboxSync
