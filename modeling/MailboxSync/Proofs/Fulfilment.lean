import MailboxSync.Proofs.Listing
import MailboxSync.Proofs.Ownership
import MailboxSync.Proofs.Watermark

/-!
# What a report without an error says

* `Journal.listings` — the find requests of a user by root, each with what came of it; `Journal.RootsAnswered` —
  every root was asked about in turn and answered with a list of folders; `Journal.Listed` — the folders in these
  lists;
* `Call.found_cases` — only discovery sends find requests, so the journal of a run says what its discovery came to;
* `Call.ok_iff` — a report is without an error exactly if every root was answered, every folder listed was finished
  and a watermark was written, all of it in this run;
* `Call.Fulfils`, `Call.fulfils_iff` — then the backend keeps these tokens and this watermark.
-/

namespace MailboxSync

open Journal

/-! ## Lists of folders -/

theorem FindMessage.firstError_eq_none_iff {ms : List FindMessage} : firstError ms = none ↔ ∀ m ∈ ms, m.Fine := by
  rw [firstError, List.findSome?_eq_none_iff]
  refine forall₂_congr fun m _ => ?_
  cases hc : m.code <;> simp [Fine, hc]

/-- A reply that lists folders, every message of it being fine. -/
def Reply.Outcome.Lists (o : Reply.Outcome) (folders : List FolderId) : Prop :=
  ∃ ms, o = .ok (some (.found ms)) ∧ (∀ m ∈ ms, m.Fine) ∧ folders = FindMessage.allFolders ms

/-- A reply is read as a set of folders exactly if it lists them. -/
theorem FolderSet.read_cases (o : Reply.Outcome) :
    (∃ folders set, o.Lists folders ∧ FolderSet.read o = .ok set ∧
      ∀ f, f ∈ set ↔ f ≠ "" ∧ f ∈ folders) ∨
      (∀ folders, ¬ o.Lists folders) ∧ ∃ trouble, FolderSet.read o = .error trouble := by
  rcases o with trouble | _ | ms | ms
  · exact .inr ⟨by rintro _ ⟨_, ⟨⟩, -⟩, _, rfl⟩
  · exact .inr ⟨by rintro _ ⟨_, ⟨⟩, -⟩, _, rfl⟩
  · cases he : FindMessage.firstError ms with
    | none =>
      refine .inl ⟨_, FindMessage.folderSet ms, ⟨ms, rfl, FindMessage.firstError_eq_none_iff.1 he, rfl⟩, ?_,
        fun f => FindMessage.mem_folderSet⟩
      simp only [FolderSet.read, he]
    | some error =>
      refine .inr ⟨?_, .failure (.protocol .errorCode (some error.1)), by simp only [FolderSet.read, he]⟩
      rintro _ ⟨_, h, hfine, -⟩
      cases h
      rw [FindMessage.firstError_eq_none_iff.2 hfine] at he
      cases he
  · exact .inr ⟨by rintro _ ⟨_, ⟨⟩, -⟩, _, rfl⟩

/-- The root of a user's find request with what came of it, if the event is one. -/
def Event.listing? (user : User) : Event → Option (FolderId × Reply.Outcome)
  | asked u (.find r) outcome => if u = user then some (r.root, outcome) else none
  | _ => none

namespace Journal

/-- The find requests of a user by root, with what came of them. -/
def listings (user : User) (es : List Event) : List (FolderId × Reply.Outcome) := es.filterMap (Event.listing? user)

theorem listings_append (user : User) (es es' : List Event) :
    listings user (es ++ es') = listings user es ++ listings user es' := List.filterMap_append ..

theorem listings_deeds (user : User) (es : List Event) : listings user (deeds es) = listings user es :=
  filterMap_deeds (fun _ => rfl) es

theorem listings_found (user : User) (root : FolderId) (o : Reply.Outcome) :
    listings user [.asked user (.find (.forRoot root)) o] = [(root, o)] := by
  simp [listings, Event.listing?, FindRequest.forRoot]

theorem listings_of_isFind {es : List Event} (h : ∀ ev ∈ es, ev.isFind = false) (user : User) :
    listings user es = [] := by
  refine List.filterMap_eq_nil_iff.2 fun ev hev => ?_
  have hfind := h ev hev
  cases ev with
  | asked u r o =>
    cases r with
    | find r => cases hfind
    | _ => rfl
  | _ => rfl

/-- Every root was asked about in turn, and answered with a list of folders. -/
def RootsAnswered (roots : List FolderId) (xs : List (FolderId × Reply.Outcome)) : Prop :=
  List.Forall₂ (fun root x => x.1 = root ∧ ∃ folders, Reply.Outcome.Lists x.2 folders) roots xs

/-- The folder is on a list that came; empty ids are none. -/
def Listed (xs : List (FolderId × Reply.Outcome)) (folder : FolderId) : Prop :=
  folder ≠ "" ∧ ∃ x ∈ xs, ∃ folders, Reply.Outcome.Lists x.2 folders ∧ folder ∈ folders

theorem Listed.cons_iff {root folder : FolderId} {o : Reply.Outcome} {folders : List FolderId}
    {xs : List (FolderId × Reply.Outcome)} (h : o.Lists folders) :
    Listed ((root, o) :: xs) folder ↔ folder ≠ "" ∧ folder ∈ folders ∨ Listed xs folder := by
  have hunique : ∀ {folders'}, o.Lists folders' → folders' = folders := by
    rintro _ ⟨ms, rfl, -, rfl⟩
    obtain ⟨_, hms, -, rfl⟩ := h
    cases hms
    rfl
  constructor
  · rintro ⟨hne, x, hx, folders', hlists, hf⟩
    rcases List.mem_cons.1 hx with rfl | hx
    · exact .inl ⟨hne, hunique hlists ▸ hf⟩
    · exact .inr ⟨hne, x, hx, folders', hlists, hf⟩
  · rintro (⟨hne, hf⟩ | ⟨hne, x, hx, hlists⟩)
    · exact ⟨hne, _, List.mem_cons_self, folders, h, hf⟩
    · exact ⟨hne, x, List.mem_cons_of_mem _ hx, hlists⟩

end Journal

/-! ## What discovery comes to -/

section Discovery

variable {τ ς : Type} {e : Env τ ς} {user : User} {roots : List FolderId} {now : Option Stamp} {w w' : World τ ς}

/-- Discovery finds the folders listed if every root is answered, and meets with trouble otherwise. -/
theorem discoverAll_answered (e : Env τ ς) (user : User) (roots : List FolderId) (found : FolderSet)
    (w : World τ ς) :
    ∃ ds, w.Acts e ds (discoverAll e.transport user roots found w).2 ∧
      ((∃ folders, (discoverAll e.transport user roots found w).1 = .ok folders ∧
          RootsAnswered roots (listings user ds) ∧
            ∀ f, f ∈ folders ↔ f ∈ found ∨ Listed (listings user ds) f) ∨
        (∃ trouble, (discoverAll e.transport user roots found w).1 = .error trouble) ∧
          ¬ RootsAnswered roots (listings user ds)) := by
  induction roots generalizing found w with
  | nil => exact ⟨[], .refl, .inl ⟨found, rfl, .nil, fun f => by simp [Listed, listings]⟩⟩
  | cons root roots ih =>
    unfold discoverAll
    split
    · -- cancelled before this root, which is then not asked about
      exact ⟨[], .refl, .inr ⟨⟨_, rfl⟩, by rintro ⟨⟩⟩⟩
    · have hl := discover_acts e user root w
      obtain ⟨notes, hread⟩ := discover_eq e.transport root user w
      replace hread := congrArg Prod.fst hread
      generalize (w.ask e.transport user (.find (.forRoot root))).1 = o at hl hread
      generalize discover e.transport root user w = r at hl hread
      obtain ⟨result, v⟩ := r
      obtain rfl : result = FolderSet.read o := hread
      rcases FolderSet.read_cases o with ⟨folders, set, hlists, hset, hmem⟩ | ⟨hnone, trouble, htrouble⟩
      · rw [hset]
        obtain ⟨ds, hds, hcases⟩ := ih (found.insertAll set) v
        have hcons : listings user ([.asked user (.find (.forRoot root)) o] ++ ds) = (root, o) :: listings user ds := by
          rw [listings_append, listings_found]
          rfl
        refine ⟨_, hl.trans hds, ?_⟩
        rw [hcons]
        rcases hcases with ⟨all, hall, hanswered, hlisted⟩ | ⟨htrouble, hnot⟩
        · refine .inl ⟨all, hall, .cons ⟨rfl, folders, hlists⟩ hanswered, fun f => ?_⟩
          rw [hlisted, Listed.cons_iff hlists, FolderSet.mem_insertAll, hmem]
          tauto
        · refine .inr ⟨htrouble, fun h => hnot ?_⟩
          cases h with
          | cons _ h => exact h
      · -- the request is in the journal with a reply that is no list, and no root is asked about after it
        have hnot : ¬ RootsAnswered (root :: roots) (listings user [.asked user (.find (.forRoot root)) o]) := by
          rw [listings_found]
          rintro (_ | ⟨⟨-, folders, hlists⟩, -⟩)
          exact hnone folders hlists
        rw [htrouble]
        cases trouble with
        | failure failure => exact ⟨_, hl.note _, .inr ⟨⟨_, rfl⟩, hnot⟩⟩
        | fault fault => exact ⟨_, hl, .inr ⟨⟨_, rfl⟩, hnot⟩⟩

theorem Task.Moves.isFind {task : Task} {ds : List Event} {move : Move} (h : Task.Moves e user task w ds move) :
    ∀ ev ∈ ds, ev.isFind = false := by
  cases h <;> simp [Event.isFind]

namespace Call

variable (c : Call τ ς)

/-- Every root of the run was answered. -/
def Discovers : Prop := RootsAnswered c.roots (listings c.user c.events)

/-- The folder was listed in the run. -/
def Discovered (folder : FolderId) : Prop := Listed (listings c.user c.events) folder

/-- **The journal of a run says what its discovery came to.** -/
theorem found_cases :
    (∃ folders, c.found = .ok folders ∧ c.Discovers ∧ ∀ f, f ∈ folders ↔ c.Discovered f) ∨
    (∃ trouble, c.found = .error trouble) ∧ ¬ c.Discovers := by
  obtain ⟨ds, ha, hcases⟩ := discoverAll_answered c.env c.user c.roots [] c.before
  obtain ⟨ds', hl', hfind⟩ := c.runs.forall_deeds (fun hm => hm.isFind) fun _ => rfl
  have hevents : listings c.user c.events = listings c.user ds := by
    have hdeeds : deeds c.events = ds ++ ds' := (ha.leads.trans hl').deeds_eventsSince
    rw [← listings_deeds, hdeeds, listings_append, listings_of_isFind hfind, List.append_nil]
  unfold Discovers Discovered
  rw [hevents]
  simpa [found] using hcases

end Call

end Discovery

/-! ## Reports without an error -/

section Reports

variable {τ ς : Type} {e : Env τ ς} {user : User} {roots : List FolderId} {now : Option Stamp} {w w' : World τ ς}

/-- A run through its folders reports no error exactly if all of them finished and a watermark was written. -/
theorem Ran.ok_iff {folders : FolderSet} {ends : Ends} {ds : List Event} {result : Except Fault Report}
    (h : Ran e roots now user w folders ends ds result) : (∃ report, result = .ok report ∧ report.ok = true) ↔
      (∀ f ∈ folders, Finishes e user ds f) ∧ ∃ i, savedWatermarks ds = [(user, i)] := by
  have hall := h.all_finish_iff
  obtain ⟨w₂, ds₂, ds₃, -, hm, hc, rfl⟩ := h.closes
  rw [hall, savedWatermarks_append, hm, List.nil_append]
  cases hc with
  | fault hf =>
    refine iff_of_false (by rintro ⟨_, ⟨⟩, -⟩) fun h => ?_
    obtain ⟨_, hr, -⟩ := h.1 _ hf
    cases hr
  | failed hrs hb =>
    refine iff_of_false ?_ (by rintro ⟨_, _, ⟨⟩⟩)
    rintro ⟨_, hr, hok⟩
    cases hr
    cases hok
  | stuck hrs hok ha =>
    refine iff_of_false (by rintro ⟨_, ⟨⟩, -⟩) ?_
    rintro ⟨_, i, hi⟩
    cases ha <;> cases hi
  | completed hrs hok ha =>
    cases ha with
    | saved hn hr hs => exact iff_of_true ⟨_, rfl, rfl⟩ ⟨by simpa [hrs] using hok, _, rfl⟩

namespace Call

theorem report_ok_iff (c : Call τ ς) :
    c.report.ok = true ↔ ∃ report, c.result = .ok report ∧ report.ok = true := by
  unfold report
  cases c.result with
  | ok report => simp
  | error fault => simp [Report.ofFault, Report.ok]

/-- **A report is without an error exactly if in its run every root was answered, every folder listed finished and a
watermark was written.** -/
theorem ok_iff (c : Call τ ς) : c.report.ok = true ↔ c.Discovers ∧
    (∀ f, c.Discovered f → Finishes c.env c.user c.events f) ∧
      ∃ i, savedWatermarks c.events = [(c.user, i)] := by
  obtain ⟨ds, hl, hcases⟩ := c.runs.cases
  have hfinishes : ∀ f, Finishes c.env c.user c.events f ↔ Finishes c.env c.user ds f := finishes_eventsSince hl
  have hmarks : savedWatermarks c.events = savedWatermarks ds := hl.savedWatermarks_eventsSince
  simp only [report_ok_iff, hfinishes, hmarks]
  rcases c.found_cases with ⟨folders, hfound, hdiscovers, hmem⟩ | ⟨⟨trouble, hfound⟩, hnot⟩
  · rcases hcases with ⟨_, hd, -, -⟩ | ⟨_, ends, hd, hran⟩
    · cases hd.symm.trans hfound
    · cases hd.symm.trans hfound
      rw [hran.ok_iff]
      simp only [hmem, hdiscovers, true_and]
  · rcases hcases with ⟨_, hd, -, hresult⟩ | ⟨_, ends, hd, hran⟩
    · refine iff_of_false ?_ fun h => hnot h.1
      rintro ⟨report, hr, hok⟩
      rw [hr] at hresult
      cases hd.symm.trans hfound
      cases trouble <;> cases hresult
      cases hok
    · cases hd.symm.trans hfound

end Call

end Reports

/-! ## What is kept -/

section Kept

variable {τ : Type} {b : Backend}

/-- The run did all there was to do: every root was answered, the last token of every folder listed is kept where it was
written, and so is a watermark. -/
structure Call.Fulfils (b : Backend) (c : Call τ Progress) : Prop where
  discovers : c.Discovers
  finishes : ∀ f, c.Discovered f → ∃ stored p,
    (Paging.start f stored).Reaches c.env.config.idPageSize (exchanges c.user f c.events) p true ∧
      savedTokens c.user f c.events = [p.token] ∧ b.kept c.after.stores c.user f = some p.token
  marks : ∃ i, savedWatermarks c.events = [(c.user, i)] ∧ b.mark c.after.stores c.user = some i

/-- **A report is without an error exactly if its run did all there was to do.** -/
theorem Call.fulfils_iff (c : Call τ Progress) (he : c.env.stores = b.stores) (hb : b.watermarks ≠ .nowhere) :
    c.Fulfils b ↔ c.report.ok = true := by
  rw [c.ok_iff]
  have hs : c.env.stores = b.stores.refusing [] := he
  constructor
  · rintro ⟨hd, hf, i, hi, -⟩
    refine ⟨hd, fun f hf' => ?_, i, hi⟩
    obtain ⟨stored, p, hp, ht, -⟩ := hf f hf'
    exact ⟨stored, p, hp, ht⟩
  · rintro ⟨hd, hf, i, hi⟩
    refine ⟨hd, fun f hf' => ?_, i, hi, ?_⟩
    · obtain ⟨stored, p, hp, ht⟩ := hf f hf'
      refine ⟨stored, p, hp, ht, ?_⟩
      rw [c.leads.kept hs, savedTokens_deeds, ht]
      rfl
    · rw [c.leads.mark_of_place hs hb]
      simp [marks, savedWatermarks_deeds, hi]

end Kept

end MailboxSync
