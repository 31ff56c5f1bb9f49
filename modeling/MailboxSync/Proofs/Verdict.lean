import MailboxSync.Command.OneShot
import MailboxSync.Proofs.Fulfilment
import MailboxSync.Proofs.Halting
import MailboxSync.Proofs.Returning

/-!
# What the one-shot command tells

* `Errand` — what the command has in hand when it comes to its sync: users, and no wish to forget them, stores and a
  transport;
* `Call.Told` — the lines on a run: its user brought items or failed, then the ids of the folders that finished;
* `Truthful` — the exit code is 0 exactly if every user's run did all there was to do, else 1, and the lines are those
  of the runs, one after another;
* `OneShot.tells_the_truth` — the command returns unless it pages for ever, no fault ends it, and what it tells is
  true.

A run that ends in a fault has a report too, so there is one for each user; with no cancel event nobody is left out.
-/

namespace MailboxSync

open Journal

variable {τ : Type}

/-! ## What a run brought -/

namespace Call

variable {ς : Type} (c : Call τ ς)

/-- The new items of a folder, reply after reply. -/
def pagedItems (folder : FolderId) : List ItemId := (exchanges c.user folder c.events).flatMap fun x => newItems x.2

/-- The new items of the folders that finished, folder after folder. -/
def brought : List (FolderId × ItemId) :=
  c.report.finished.flatMap fun r => (c.pagedItems r.folder).map fun id => (r.folder, id)

theorem items_of_finished {r : FolderResult} (hr : r ∈ c.report.finished) : r.items = c.pagedItems r.folder := by
  obtain ⟨hmem, hok⟩ := List.mem_filter.1 hr
  obtain ⟨-, hstands⟩ := c.stands_of_report hmem
  unfold pagedItems
  generalize exchanges c.user r.folder c.events = xs at hstands
  generalize savedTokens c.user r.folder c.events = ts at hstands
  generalize hfolder : r.folder = folder at hstands
  cases hstands with
  | finished hread hp => exact hp.items_eq
  | failed _ _ _ => cases hok
  | cancelled _ _ => cases hok
  | skipped _ => cases hok

theorem brought_eq : c.brought = c.report.itemIds.flatMap fun x => x.2.map fun id => (x.1, id) := by
  unfold brought Report.itemIds
  rw [List.flatMap_map]
  exact List.flatMap_congr fun r hr => by rw [c.items_of_finished hr]

theorem length_brought : c.brought.length = c.report.totalItems := by
  rw [brought_eq, List.length_flatMap, Report.totalItems, Report.itemIds, List.map_map, List.sum_eq_foldr]
  congr 1
  simp

end Call

/-! ## The lines on a run -/

/-- The ids of what a run brought as they are shown. -/
def Call.shown (showIds : Bool) (c : Call τ Progress) : List String :=
  if showIds then c.brought.map fun (folder, id) => s!"  {folder}\t{id}" else []

/-- The lines on a run: one that did all there was to do brought items, any other one failed for the reason on its
report; either way the ids come behind. -/
inductive Call.Told (b : Backend) (showIds : Bool) (c : Call τ Progress) : List String → Prop
  | brought (h : c.Fulfils b) {items folders : Nat} (hi : items = c.brought.length)
    (hf : folders = c.report.folders.length) :
    Told b showIds c (s!"{c.user}: {items} new items in {folders} folders" :: c.shown showIds)
  | failed (h : ¬ c.Fulfils b) {failure : Failure} {kind text : String} (he : c.report.error = some failure)
    (hk : kind = failure.kind) (ht : text = failure.message) :
    Told b showIds c (s!"{c.user}: FAILED ({kind}) {text}" :: c.shown showIds)

/-- The lines on a report are those on its run. -/
theorem Call.told {b : Backend} (c : Call τ Progress) (he : c.env.stores = b.stores) (hb : b.watermarks ≠ .nowhere)
    (showIds : Bool) : c.Told b showIds ((OneShot.reportLines showIds c.report).map Line.text) := by
  have hok := c.fulfils_iff he hb
  have hshown : (OneShot.reportLines showIds c.report).tail.map Line.text = c.shown showIds := by
    unfold shown OneShot.reportLines
    rw [c.brought_eq, List.tail_cons]
    split
    · simp only [List.map_flatMap, List.map_map]
      rfl
    · rfl
  cases herror : c.report.error with
  | none =>
    have hlines : OneShot.reportLines showIds c.report =
        .brought c.user c.report.totalItems c.report.folders.length :: (OneShot.reportLines showIds c.report).tail := by
      simp [OneShot.reportLines, herror, c.report_user]
    rw [hlines, List.map_cons, hshown]
    exact .brought (hok.2 (by simp [Report.ok, herror])) c.length_brought.symm rfl
  | some failure =>
    have hlines : OneShot.reportLines showIds c.report =
        .failed c.user failure :: (OneShot.reportLines showIds c.report).tail := by
      simp [OneShot.reportLines, herror, c.report_user]
    rw [hlines, List.map_cons, hshown]
    exact .failed (fun hf => by simpa [Report.ok, herror] using hok.1 hf) herror rfl rfl

/-! ## The truth -/

/-- The outcome of runs, one for each user in order: the exit code is 0 if each of them did all there was to do and 1
otherwise, and the lines are those on the runs. -/
structure Truthful (b : Backend) (users : List User) (showIds : Bool) (cs : List (Call τ Progress)) (out : Outcome) :
    Prop where
  users : cs.map (·.user) = users
  exitCode : out.exitCode = 0 ∧ (∀ c ∈ cs, c.Fulfils b) ∨ out.exitCode = 1 ∧ ∃ c ∈ cs, ¬ c.Fulfils b
  lines : ∃ chunks, out.lines.map Line.text = chunks.flatten ∧ List.Forall₂ (Call.Told b showIds) cs chunks

section Runs

variable {b : Backend} {e : Env τ Progress} {roots : List FolderId} {now : Option Stamp} {users : List User}
  {w w' : World τ Progress} {cs : List (Call τ Progress)}

theorem Batch.users_eq (h : Batch e roots now users w cs w') (hc : w.cancel = none) : cs.map (·.user) = users := by
  induction h with
  | done w => rfl
  | cancelled hset =>
    rw [World.cancelled, hc] at hset
    cases hset
  | ran c _ _ _ _ _ ih =>
    rw [List.map_cons, ih (c.leads_noted.cancel_eq_none hc)]

theorem Batch.truthful (h : Batch e roots now users w cs w') (hc : w.cancel = none) (he : e.stores = b.stores)
    (hb : b.watermarks ≠ .nowhere) (showIds : Bool) :
    Truthful b users showIds cs (OneShot.outcome showIds (cs.map Call.report)) where
  users := h.users_eq hc
  exitCode := by
    have hiff : ∀ c ∈ cs, c.Fulfils b ↔ c.report.ok = true := fun c hcs =>
      c.fulfils_iff ((congrArg Env.stores (h.env_eq c hcs)).trans he) hb
    by_cases hall : ∀ c ∈ cs, c.Fulfils b
    · have hok : (cs.map Call.report).all (·.ok) = true := by
        simpa using fun c hcs => (hiff c hcs).1 (hall c hcs)
      exact .inl ⟨by simp [OneShot.outcome, hok], hall⟩
    · obtain ⟨c, hcs, hnot⟩ : ∃ c ∈ cs, ¬ c.Fulfils b := by simpa using hall
      have hok : (cs.map Call.report).all (·.ok) = false := by
        simpa using ⟨c, hcs, by simpa [hiff c hcs] using hnot⟩
      exact .inr ⟨by simp [OneShot.outcome, hok], c, hcs, hnot⟩
  lines := by
    refine ⟨cs.map fun c => (OneShot.reportLines showIds c.report).map Line.text, ?_, ?_⟩
    · simp [OneShot.outcome, List.flatMap_def, List.map_flatten, Function.comp_def]
    · rw [List.forall₂_map_right_iff, List.forall₂_same]
      exact fun c hcs => c.told ((congrArg Env.stores (h.env_eq c hcs)).trans he) hb showIds

end Runs

/-! ## The command -/

theorem Backend.choose_watermarks {name : String} {path : Option String} {b : Backend} {notes : List Note}
    (h : choose name path = .ok (b, notes)) : b.watermarks ≠ .nowhere := by
  unfold choose at h
  split at h
  · cases h
    exact nofun
  · split at h
    · split at h <;> cases h
      exact nofun
    · cases h

/-- What the command has in hand when it comes to its sync. -/
structure Errand (τ : Type) where
  arguments : Arguments
  settings : Settings
  backend : Backend
  transport : Transport τ
  /-- The world with its stores opened. -/
  start : World τ Progress

namespace Errand

/-- The users named, or else those of the settings. -/
def users (g : Errand τ) : List User := if g.arguments.users.isEmpty then g.settings.users else g.arguments.users

/-- The roots named, or else those of the settings. -/
def roots (g : Errand τ) : List FolderId := if g.arguments.roots.isEmpty then g.settings.roots else g.arguments.roots

def env (g : Errand τ) (site : Site τ) : Env τ Progress where
  transport := g.transport
  stores := g.backend.stores
  config := .ofSizes (g.arguments.pageSize.getD g.settings.idPageSize) g.settings.itemPageSize
    (g.arguments.workers.getD g.settings.maxFolderWorkers)
  clock := site.clock

/-- Words, settings and a world bring the command to its sync: there are users, nothing is to be forgotten, and stores
and a transport are there.  The command has no cancel event. -/
structure Reached (g : Errand τ) (site : Site τ) (settings : Except Fault Settings) (words : List String)
    (w : World τ Progress) : Prop where
  words : Arguments.ofWords words = .arguments g.arguments
  settings : settings = .ok g.settings
  threshold : ∃ threshold, g.settings.threshold = .ok threshold
  users : g.users ≠ []
  keeps : g.arguments.reset = false
  stores : g.settings.openStores w = (.ok g.backend, g.start)
  transport : site.connect g.settings.client = .ok g.transport
  cancel : w.cancel = none

variable {g : Errand τ} {site : Site τ} {settings : Except Fault Settings} {words : List String}
  {w : World τ Progress}

theorem Reached.opened (h : g.Reached site settings words w) :
    g.backend.watermarks ≠ .nowhere ∧ g.start.cancel = none := by
  have hopen := h.stores
  unfold Settings.openStores at hopen
  cases hb : Backend.choose g.settings.backend.name (some g.settings.databasePath) with
  | error fault =>
    rw [hb] at hopen
    cases hopen
  | ok chosen =>
    obtain ⟨backend, notes⟩ := chosen
    rw [hb] at hopen
    obtain ⟨hbackend, hstart⟩ := Prod.mk.inj hopen
    refine ⟨?_, by rw [← hstart, World.noteAll_cancel]; exact h.cancel⟩
    rw [← Except.ok.inj hbackend]
    exact Backend.choose_watermarks hb

theorem Reached.run_eq (h : g.Reached site settings words w) (fuel : Nat) :
    OneShot.run site fuel settings words w = (syncUsers (g.env site) fuel g.roots none g.users g.start).map
      fun (reports, w) => (.ok (OneShot.outcome g.arguments.showIds reports), w) := by
  obtain ⟨threshold, hlevel⟩ := h.threshold
  have husers : g.users.isEmpty = false := by simpa using h.users
  have hobey : OneShot.run site fuel settings words w =
      OneShot.sync site fuel g.settings g.arguments g.users g.roots w := by
    simp only [OneShot.run, h.words, h.settings, OneShot.obey, hlevel]
    exact (if_neg (Bool.eq_false_iff.1 husers)).trans (if_neg (by simp [h.keeps]))
  rw [hobey]
  simp only [OneShot.sync, h.stores, h.transport]
  rfl

end Errand

/-- **The exit code of the one-shot command tells the truth, and so do its lines.**  Once the command comes to its sync
it returns, unless the service pages a folder of some user for ever.  When it returns no fault has ended it, and its
outcome is that of runs of its users.  And the outcome of runs of its users, in whatever order folders take turns in
them, is truthful: 0 exactly if for each user every root was answered, the last token of every folder listed is kept and
the watermark is written, all in this call, and 1 otherwise; with one line on each user in order, which says why if the
user failed, and behind it the ids of the folders that finished, if they are to be shown. -/
theorem OneShot.tells_the_truth {g : Errand τ} {site : Site τ} {settings : Except Fault Settings}
    {words : List String} {w : World τ Progress} (h : g.Reached site settings words w) :
    ((∃ fuel, (run site fuel settings words w).isSome) ∨
      MeetsEndless (g.env site) g.roots none g.users g.start) ∧
    (∀ fuel result w', run site fuel settings words w = some (result, w') →
      ∃ cs, Batch (g.env site) g.roots none g.users g.start cs w' ∧
        result = .ok (outcome g.arguments.showIds (cs.map Call.report))) ∧
    ∀ cs w', Batch (g.env site) g.roots none g.users g.start cs w' →
      Truthful g.backend g.users g.arguments.showIds cs (outcome g.arguments.showIds (cs.map Call.report)) := by
  obtain ⟨hplace, hcancel⟩ := h.opened
  refine ⟨?_, fun fuel result w' hrun => ?_, fun cs w' hbatch => hbatch.truthful hcancel rfl hplace _⟩
  · refine (syncUsers_returns (g.env site) g.roots none g.users g.start).imp_left
      fun ⟨fuel, hfuel⟩ => ⟨fuel, ?_⟩
    rw [h.run_eq, Option.isSome_map]
    exact hfuel
  · rw [h.run_eq] at hrun
    obtain ⟨⟨reports, v⟩, hsync, hout⟩ := Option.map_eq_some_iff.1 hrun
    cases hout
    obtain ⟨cs, hbatch, rfl⟩ := batch_of_syncUsers hsync
    exact ⟨cs, hbatch, rfl⟩

namespace OneShot

/-- A service of two folders with an item each, one of which it cannot read to `v`. -/
def grudging : Transport Unit where
  send _ user request :=
    let outcome : Reply.Outcome :=
      match request with
      | .find _ => .ok (some (.found [{ folders := some ["b", "a"] }]))
      | .sync r =>
        if user = "v" ∧ r.folder = "b" then .error (.failure (.transport .badStatus (some 500)))
        else .ok (some (.synced [{ token := some "1", last := some true, changes := some { created := ["x"] } }]))
      | .other _ => .ok none
    ({ outcome }, ())

def grudgingSite : Site Unit := { connect := fun _ => .ok grudging }

/-- Nothing has been synced yet. -/
def unsynced : World Unit Progress := { remote := (), stores := {} }

/-- The default settings, some users, and their ids. -/
def showingErrand (users : List User) : Errand Unit where
  arguments := { users, showIds := true }
  settings := {}
  backend := .database
  transport := grudging
  start := (Settings.openStores {} unsynced).2

/-- With `u` alone all is done; `v` fails, and what finished is shown. -/
theorem grudging_tells_the_truth :
    (∃ (out : Outcome) (w' : World Unit Progress) (cs : List (Call Unit Progress)),
      run grudgingSite 9 (.ok {}) ["u", "--show-ids"] unsynced = some (.ok out, w') ∧
        Truthful .database ["u"] true cs out ∧ out.exitCode = 0 ∧ ∀ c ∈ cs, c.Fulfils .database) ∧
    ∃ (out : Outcome) (w' : World Unit Progress) (cs : List (Call Unit Progress)),
      run grudgingSite 9 (.ok {}) ["u", "v", "--show-ids"] unsynced = some (.ok out, w') ∧
        Truthful .database ["u", "v"] true cs out ∧ (∃ c ∈ cs, ¬ c.Fulfils .database) ∧
          out.lines.map Line.text =
          ["u: 2 new items in 2 folders", "  a\tx", "  b\tx",
            "v: FAILED (transport) HTTP 500: Exchange returned an HTTP error.", "  a\tx"] := by
  have htruth : ∀ (users : List User) (words : List String) (answer : Nat × List String), users ≠ [] →
      Arguments.ofWords words = .arguments { users, showIds := true } →
      (run grudgingSite 9 (.ok {}) words unsynced).map (fun x => x.1.toOption.map fun out =>
        (out.exitCode, out.lines.map Line.text)) = some (some answer) →
      ∃ (out : Outcome) (w' : World Unit Progress) (cs : List (Call Unit Progress)),
        run grudgingSite 9 (.ok {}) words unsynced = some (.ok out, w') ∧
          Truthful .database users true cs out ∧ out.exitCode = answer.1 ∧ out.lines.map Line.text = answer.2 := by
    intro users words answer husers hwords hanswer
    have hnamed : (showingErrand users).users = users := if_neg (by simpa [showingErrand] using husers)
    have hlevel : Settings.threshold {} = .ok .info := rfl
    have hreached : (showingErrand users).Reached grudgingSite (.ok {}) words unsynced :=
      ⟨hwords, rfl, ⟨_, hlevel⟩, by rwa [hnamed], rfl, rfl, rfl, rfl⟩
    obtain ⟨-, hreturns, htruthful⟩ := tells_the_truth hreached
    obtain ⟨⟨result, w'⟩, hrun, hout⟩ := Option.map_eq_some_iff.1 hanswer
    obtain ⟨cs, hbatch, rfl⟩ := hreturns 9 result w' hrun
    have htrue := htruthful cs w' hbatch
    rw [hnamed] at htrue
    cases hout
    exact ⟨_, w', cs, hrun, htrue, rfl, rfl⟩
  constructor
  · obtain ⟨out, w', cs, hrun, htrue, hcode, -⟩ := htruth ["u"] ["u", "--show-ids"]
      (0, ["u: 2 new items in 2 folders", "  a\tx", "  b\tx"]) (by simp) (by decide +kernel) (by decide +kernel)
    refine ⟨out, w', cs, hrun, htrue, hcode, ?_⟩
    rcases htrue.exitCode with ⟨-, hall⟩ | ⟨hone, -⟩
    · exact hall
    · cases hcode.symm.trans hone
  · obtain ⟨out, w', cs, hrun, htrue, hcode, hlines⟩ := htruth ["u", "v"] ["u", "v", "--show-ids"]
      (1, ["u: 2 new items in 2 folders", "  a\tx", "  b\tx",
        "v: FAILED (transport) HTTP 500: Exchange returned an HTTP error.", "  a\tx"])
      (by simp) (by decide +kernel) (by decide +kernel)
    refine ⟨out, w', cs, hrun, htrue, ?_, hlines⟩
    rcases htrue.exitCode with ⟨hzero, -⟩ | ⟨-, hsome⟩
    · cases hcode.symm.trans hzero
    · exact hsome

end OneShot

end MailboxSync
