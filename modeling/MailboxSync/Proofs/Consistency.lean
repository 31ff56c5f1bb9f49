import MailboxSync.Proofs.Blame

/-!
# Reports are consistent

A report shows the same thing in several ways: by its error, by its watermark, by the folders that failed, and by the
items of those that did not.

* `FolderResult.latest_eq` — results of different folders do not replace one another;
* `Report.keys_perm`, `Report.failedFolders_sorted`, `Report.failedFolders_eq_nil_iff` — the folders that finished and
  those that failed;
* `Report.Consistent` — what a report shows, next to what discovery found;
* `RunsLate.consistent` — every run ends in a fault that arises outside, or with a consistent report.
-/

namespace MailboxSync

/-! ## Results by folder -/

theorem FolderResult.put_eq {r : FolderResult} {rs : List FolderResult} (h : r.folder ∉ rs.map (·.folder)) :
    r.put rs = rs ++ [r] := by
  induction rs with
  | nil => rfl
  | cons q qs ih =>
    simp only [List.map_cons, List.mem_cons, not_or] at h
    rw [put, if_neg (Ne.symm h.1), ih h.2, List.cons_append]

theorem FolderResult.latest_eq {rs : List FolderResult} (h : (rs.map (·.folder)).Nodup) : latest rs = rs := by
  have key : ∀ acc : List FolderResult, ((acc ++ rs).map (·.folder)).Nodup →
      rs.foldl (fun acc r => r.put acc) acc = acc ++ rs := by
    clear h
    induction rs with
    | nil => intro acc _; simp
    | cons r rs ih =>
      intro acc hnodup
      have hput : r.put acc = acc ++ [r] := by
        refine put_eq fun hmem => ?_
        simp only [List.map_append, List.map_cons, List.nodup_append] at hnodup
        exact hnodup.2.2 _ hmem _ List.mem_cons_self rfl
      rw [List.foldl_cons, hput, ih _ (by simpa using hnodup), List.append_assoc, List.singleton_append]
  exact key [] h

/-! ## The two kinds of folders of a report -/

namespace Report

variable {report : Report}

theorem keys_perm (report : Report) :
    (report.itemIds.map (·.1) ++ report.failedFolders).Perm (report.folders.map (·.folder)) := by
  have hfinished : report.itemIds.map (·.1) = (report.folders.filter (·.ok)).map (·.folder) := by
    simp [itemIds, finished]
  have hfailed : report.failedFolders.Perm ((report.folders.filter (!·.ok)).map (·.folder)) :=
    List.mergeSort_perm _ _
  rw [hfinished]
  refine (hfailed.append_left _).trans ?_
  rw [← List.map_append]
  exact (List.filter_append_perm (·.ok) report.folders).map _

theorem failedFolders_sorted (h : (report.folders.map (·.folder)).Nodup) :
    report.failedFolders.Pairwise (· < ·) := by
  have hnodup : report.failedFolders.Nodup :=
    ((List.perm_append_comm.trans report.keys_perm).nodup_iff.mpr h).of_append_left
  have hle : report.failedFolders.Pairwise (· ≤ ·) := by
    have hsorted := @List.pairwise_mergeSort FolderId (fun a b => decide (a ≤ b))
      (fun _ _ _ hab hbc => by simpa using String.le_trans (by simpa using hab) (by simpa using hbc))
      (fun a b => by simpa using String.le_total a b) ((report.folders.filter (!·.ok)).map (·.folder))
    simpa [failedFolders] using hsorted
  exact hle.imp₂ (fun _ _ hab hne => Std.lt_of_le_of_ne hab hne) hnodup

theorem totalItems_eq (report : Report) : report.totalItems = (report.itemIds.map (·.2.length)).sum := by
  rw [totalItems, itemIds, List.map_map, List.sum_eq_foldr]
  rfl

theorem failedFolders_eq_nil_iff (report : Report) :
    report.failedFolders = [] ↔ ∀ r ∈ report.folders, r.ok = true := by
  rw [← List.length_eq_zero_iff]
  simp [failedFolders]

end Report

/-! ## Consistent reports -/

/-- What a report shows, next to what discovery found: if discovery failed there are no results, and the error is that
failure; else there is one result for each folder found.  No error, a watermark and no failed folder come together, the
folders that finished and those that failed are apart and make up all, and an error is that of a folder. -/
structure Report.Consistent (found : Except Trouble FolderSet) (report : Report) : Prop where
  undiscovered : ∀ trouble, found = .error trouble →
    report.folders = [] ∧ ∃ failure, trouble = .failure failure ∧ report.error = some failure
  each : ∀ folders, found = .ok folders → folders.Nodup ∧ (report.folders.map (·.folder)).Perm folders
  keyed : FolderResult.latest report.folders = report.folders
  ok_iff : report.ok = true ↔ report.error = none
  watermark_iff : report.watermark.isSome = true ↔ report.error = none
  failedFolders_iff : ∀ folders, found = .ok folders → (report.failedFolders = [] ↔ report.error = none)
  disjoint : (report.itemIds.map (·.1)).Disjoint report.failedFolders
  keys : (report.itemIds.map (·.1) ++ report.failedFolders).Perm (report.folders.map (·.folder))
  increasing : report.failedFolders.Pairwise (· < ·)
  total : report.totalItems = (report.itemIds.map (·.2.length)).sum
  cause : ∀ folders failure, found = .ok folders → report.error = some failure →
    ∃ r ∈ report.folders, r.error = some failure

theorem Report.consistent_of_undiscovered (user : User) (roots : List FolderId) (failure : Failure) :
    ({ user, roots, error := some failure } : Report).Consistent (.error (.failure failure)) where
  undiscovered := by
    rintro trouble h
    cases h
    exact ⟨rfl, failure, rfl, rfl⟩
  each _ h := by cases h
  keyed := rfl
  ok_iff := by simp [ok]
  watermark_iff := by simp
  failedFolders_iff _ h := by cases h
  disjoint := by simp [itemIds, finished]
  keys := keys_perm _
  increasing := failedFolders_sorted .nil
  total := totalItems_eq _
  cause _ _ h := by cases h

/-- A report that accounts for the folders found is consistent. -/
theorem Report.consistent_of_accounts {folders : FolderSet} {report : Report} (h : report.Accounts folders) :
    report.Consistent (.ok folders) := by
  have hfound : folders.Nodup := FolderSet.nodup_of_sorted h.sorted
  have hnodup : (report.folders.map (·.folder)).Nodup := h.each.nodup_iff.mpr hfound
  have herror : report.error = none ↔ ∀ r ∈ report.folders, r.ok = true := by
    rw [h.error]
    exact Failure.blamed_eq_none_iff report.folders
  exact
    { undiscovered := fun _ hne => by cases hne
      each := fun _ heq => by cases heq; exact ⟨hfound, h.each⟩
      keyed := FolderResult.latest_eq hnodup
      ok_iff := Option.isNone_iff_eq_none
      watermark_iff := h.watermark
      failedFolders_iff := fun _ _ => report.failedFolders_eq_nil_iff.trans herror.symm
      disjoint := List.disjoint_of_nodup_append (report.keys_perm.nodup_iff.mpr hnodup)
      keys := report.keys_perm
      increasing := report.failedFolders_sorted hnodup
      total := report.totalItems_eq
      cause := fun _ _ _ hsome => Failure.exists_of_blamed (h.error.symm.trans hsome) }

/-! ## Runs -/

variable {τ ς : Type} {e : Env τ ς} {user : User} {roots : List FolderId} {now : Option Stamp} {w w' : World τ ς}

/-- **A run ends in a fault that arises outside the engine, and never in a failure; or it ends with a consistent
report.** -/
theorem RunsLate.consistent {result : Except Fault Report} (h : RunsLate e roots now user w (result, w')) :
    (∃ fault, result = .error fault ∧ fault.Arises e now user w (w.eventsSince w')) ∨
      ∃ report, result = .ok report ∧ report.Consistent (discoverAll e.transport user roots [] w).1 := by
  cases result with
  | error fault => exact .inl ⟨fault, rfl, h.arises⟩
  | ok report =>
    refine .inr ⟨report, rfl, ?_⟩
    rcases h.accounts with ⟨failure, hd, rfl⟩ | ⟨folders, hd, haccounts⟩
    · rw [hd]
      exact Report.consistent_of_undiscovered user roots failure
    · rw [hd]
      exact Report.consistent_of_accounts haccounts

/-- A folder with two new items, one that cannot be reached, and one that is left out since that one failed. -/
def oneOfThree : Session where
  desk :=
    { mailbox := ((({} : Mailbox).append "a" [.created "x", .created "y"]).append "b" []).append "c" [.created "z"]
      failures := [({ operation := some .sync, target := some "b" },
        { script := .raises (.failure (.transport .badStatus (some 503))) })] }
  config := .ofSizes 512 100 1

/-- There the report has two items, of the first folder, and a result for each of the three. -/
theorem oneOfThree_consistent : ∃ report w',
    RunsLate oneOfThree.env ["root"] none "u" (oneOfThree.world .never) (.ok report, w') ∧
      report.itemIds = [("a", ["x", "y"])] ∧ report.totalItems = 2 ∧
      report.folders.map (fun r => (r.folder, r.ok)) = [("a", true), ("b", false), ("c", false)] ∧
      report.Consistent (discoverAll oneOfThree.env.transport "u" ["root"] [] (oneOfThree.world .never)).1 := by
  have hrun : (syncUser oneOfThree.env 9 ["root"] none "u" (oneOfThree.world .never)).bind (fun out =>
      out.1.toOption.map fun report =>
        (report.itemIds, report.totalItems, report.folders.map fun r => (r.folder, r.ok))) =
      some ([("a", ["x", "y"])], 2, [("a", true), ("b", false), ("c", false)]) := by decide +kernel
  obtain ⟨⟨result, w'⟩, hrun, hvalue⟩ := Option.bind_eq_some_iff.mp hrun
  have h := runsLate_of_syncUser hrun
  obtain ⟨fault, rfl, -⟩ | ⟨report, rfl, hconsistent⟩ := h.consistent
  · cases hvalue
  · obtain ⟨hitems, hrest⟩ := Prod.mk.inj (Option.some.inj hvalue)
    obtain ⟨htotal, hfolders⟩ := Prod.mk.inj hrest
    exact ⟨report, w', h, hitems, htotal, hfolders, hconsistent⟩

end MailboxSync
