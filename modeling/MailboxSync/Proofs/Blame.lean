import MailboxSync.Proofs.Faults
import MailboxSync.Session

/-!
# The failure a run is blamed on

Folders that are left out since another one has failed may be taken in before the one that failed.  A run is blamed on
the cause and not on what follows from it.

* `Failure.blamed_eq` — of results taken in one after another the blame falls on the first that is a cause, and if
  none is, on the first that failed;
* `Blames` — what an error says about results in the order in which they were taken in;
* `RunsLate.blames` — the error of every report whose discovery succeeded says this about its folders.
-/

namespace MailboxSync

/-! ## Results taken in one after another -/

theorem FolderResult.isCause_of_error {r : FolderResult} {failure : Failure} (h : r.error = some failure) :
    r.isCause = !failure.isCancelled := by
  simp [isCause, h]

theorem FolderResult.error_of_isCause {r : FolderResult} (h : r.isCause = true) :
    ∃ failure, r.error = some failure := by
  unfold isCause at h
  cases hr : r.error with
  | none => simp [hr] at h
  | some failure => exact ⟨failure, rfl⟩

theorem Failure.foldl_blameFor_some (f : Failure) (rs : List FolderResult) :
    rs.foldl blameFor (some f) =
      if f.isCancelled then ((rs.find? (·.isCause)).bind (·.error)).or (some f) else some f := by
  induction rs generalizing f with
  | nil => simp
  | cons r rs ih =>
    rw [List.foldl_cons, List.find?_cons]
    cases hr : r.error with
    | none =>
      have hcause : r.isCause = false := by simp [FolderResult.isCause, hr]
      rw [hcause, blameFor, hr]
      exact ih f
    | some g =>
      have hcause := FolderResult.isCause_of_error hr
      have hblame : blameFor (some f) r = some (if f.isCancelled && !g.isCancelled then g else f) := by
        simp [blameFor, hr, blame]
      rw [hcause, hblame, ih]
      cases hf : f.isCancelled <;> cases hg : g.isCancelled <;> simp [hf, hg, hr]

/-- The blame falls on the first cause, and if there is none on the first failure. -/
theorem Failure.blamed_eq (rs : List FolderResult) :
    blamed rs = ((rs.find? (·.isCause)).or (rs.find? (!·.ok))).bind (·.error) := by
  induction rs with
  | nil => rfl
  | cons r rs ih =>
    have hcons : blamed (r :: rs) = rs.foldl blameFor (blameFor none r) := rfl
    rw [hcons, List.find?_cons, List.find?_cons]
    cases hr : r.error with
    | none =>
      have hcause : r.isCause = false := by simp [FolderResult.isCause, hr]
      have hok : r.ok = true := by simp [FolderResult.ok, hr]
      rw [hcause, hok, blameFor, hr]
      exact ih
    | some f =>
      have hcause := FolderResult.isCause_of_error hr
      have hok : r.ok = false := by simp [FolderResult.ok, hr]
      have hblame : blameFor none r = some f := by simp [blameFor, hr, blame]
      rw [hcause, hok, hblame, foldl_blameFor_some]
      cases hf : f.isCancelled with
      | false => simp [hr]
      | true =>
        cases hfind : rs.find? (·.isCause) with
        | none => simp [hr]
        | some q =>
          obtain ⟨g, hg⟩ := FolderResult.error_of_isCause (r := q) (by simpa using List.find?_some hfind)
          simp [hg]

theorem Failure.exists_of_blamed {rs : List FolderResult} {failure : Failure} (h : blamed rs = some failure) :
    ∃ r ∈ rs, r.error = some failure := by
  rw [blamed_eq] at h
  obtain ⟨r, hr, herror⟩ := Option.bind_eq_some_iff.mp h
  rcases Option.or_eq_some_iff.mp hr with hr | ⟨-, hr⟩
  · exact ⟨r, List.mem_of_find?_eq_some hr, herror⟩
  · exact ⟨r, List.mem_of_find?_eq_some hr, herror⟩

/-- What an error says about results that were taken in in this order: there is none exactly if all folders finished; if
there is a cause among the results it is that of the first cause, whatever was cancelled before or after; and it is a
cancellation only if all failures are, and then that of the first. -/
structure Blames (error : Option Failure) (rs : List FolderResult) : Prop where
  none_iff : error = none ↔ ∀ r ∈ rs, r.ok = true
  cause : (∃ r ∈ rs, r.isCause = true) → ∃ before r after, rs = before ++ r :: after ∧
    (∀ q ∈ before, q.isCause = false) ∧ r.isCause = true ∧ error = r.error
  cancelled : ∀ failure, error = some failure → failure.isCancelled = true → (∀ r ∈ rs, r.isCause = false) ∧
    ∃ before r after, rs = before ++ r :: after ∧ (∀ q ∈ before, q.ok = true) ∧ r.error = some failure

theorem Failure.blames_blamed (rs : List FolderResult) : Blames (blamed rs) rs where
  none_iff := blamed_eq_none_iff rs
  cause := by
    rintro ⟨r, hmem, hr⟩
    obtain ⟨q, hq⟩ := Option.isSome_iff_exists.mp (List.find?_isSome.mpr ⟨r, hmem, hr⟩)
    obtain ⟨hcause, before, after, hsplit, hbefore⟩ := List.find?_eq_some_iff_append.mp hq
    refine ⟨before, q, after, hsplit, fun p hp => by simpa using hbefore p hp, hcause, ?_⟩
    simp [blamed_eq, hq]
  cancelled := by
    intro failure herror hcancelled
    rw [blamed_eq] at herror
    cases hfind : rs.find? (·.isCause) with
    | some q =>
      -- a cause is no cancellation
      have hcause := List.find?_some hfind
      rw [hfind] at herror
      rw [FolderResult.isCause_of_error herror, hcancelled] at hcause
      cases hcause
    | none =>
      rw [hfind, Option.none_or] at herror
      obtain ⟨r, hr, herr⟩ := Option.bind_eq_some_iff.mp herror
      obtain ⟨-, before, after, hsplit, hbefore⟩ := List.find?_eq_some_iff_append.mp hr
      have hnone : ∀ q ∈ rs, q.isCause = false := fun q hq => by simpa using List.find?_eq_none.mp hfind q hq
      exact ⟨hnone, before, r, after, hsplit, fun q hq => by simpa using hbefore q hq, herr⟩

/-! ## Runs -/

variable {τ ς : Type} {e : Env τ ς} {user : User} {roots : List FolderId} {now : Option Stamp} {w w' : World τ ς}

/-- **A run is blamed on the cause, not on a consequence of it**, in whatever order its folders end and their results
are taken in, which is the order in which the report lists them. -/
theorem RunsLate.blames {result : Except Fault Report} {folders : FolderSet}
    (h : RunsLate e roots now user w (result, w'))
    (hd : (discoverAll e.transport user roots [] w).1 = .ok folders) :
    (∃ fault, result = .error fault ∧ fault.Arises e now user w (w.eventsSince w')) ∨
      ∃ report, result = .ok report ∧ (report.folders.map (·.folder)).Perm folders ∧
        Blames report.error report.folders := by
  cases result with
  | error fault => exact .inl ⟨fault, rfl, h.arises⟩
  | ok report =>
    obtain ⟨failure, hfailed, -⟩ | ⟨folders', hfound, haccounts⟩ := h.accounts
    · cases hd.symm.trans hfailed
    · cases hd.symm.trans hfound
      refine .inr ⟨report, rfl, haccounts.each, ?_⟩
      rw [haccounts.error]
      exact Failure.blames_blamed report.folders

/-- Two folders for one slot, and the first of them cannot be reached. -/
def firstUnreachable : Session where
  desk :=
    { mailbox := (({} : Mailbox).append "a" [.created "x"]).append "b" [.created "y"]
      failures := [({ operation := some .sync, target := some "a" },
        { script := .raises (.failure (.transport .badStatus (some 503))) })] }
  config := .ofSizes 512 100 1

/-- There the second folder is left out since the first has failed, and may be taken in before it.  The run is blamed on
the first. -/
theorem firstUnreachable_blames : ∃ report w',
    RunsLate firstUnreachable.env ["root"] none "u" (firstUnreachable.world .never) (.ok report, w') ∧
      report.folders.map (·.folder) = ["b", "a"] ∧ report.error = some (.transport .badStatus (some 503)) ∧
      Blames report.error report.folders := by
  have hfound : (discoverAll firstUnreachable.env.transport "u" ["root"] []
      (firstUnreachable.world .never)).1.toOption = some ["a", "b"] := by decide +kernel
  have hd := ok_of_toOption hfound
  have h₀ : Relation.ReflTransGen (Backlog.Steps firstUnreachable.env "u") (⟨.ofFolders 1 ["a", "b"], []⟩,
    (discoverAll firstUnreachable.env.transport "u" ["root"] [] (firstUnreachable.world .never)).2) _ := .refl
  have h₁ := h₀.tail (.enters 0 "a" ["b"] (by decide +kernel) (by decide +kernel))
  have h₂ := h₁.tail (.turns 0 { stored := "", paging := .start "a" "" } (by decide +kernel))
  have h₃ := h₂.tail (.enters 0 "b" [] (by decide +kernel) (by decide +kernel))
  have h₄ := h₃.tail (.takes 1 (by decide +kernel) (by decide +kernel))
  have h₅ := h₄.tail (.takes 0 (by decide +kernel) (by decide +kernel))
  obtain ⟨⟨result, w'⟩, hrun, hvalue⟩ : ∃ out,
      RunsLate firstUnreachable.env ["root"] none "u" (firstUnreachable.world .never) out ∧
        out.1.toOption.map (fun report => (report.folders.map (·.folder), report.error)) =
          some (["b", "a"], some (.transport .badStatus (some 503))) :=
    ⟨_, .ran (Prod.ext hd rfl) h₅ (by decide +kernel) fun _ => List.isEmpty_iff.mp (by decide +kernel),
      by decide +kernel⟩
  obtain ⟨fault, rfl, -⟩ | ⟨report, rfl, -, hblames⟩ := hrun.blames hd
  · cases hvalue
  · obtain ⟨hfolders, herror⟩ := Prod.mk.inj (Option.some.inj hvalue)
    exact ⟨report, w', hrun, hfolders, herror, hblames⟩

end MailboxSync
