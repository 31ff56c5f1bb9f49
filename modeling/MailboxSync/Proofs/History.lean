import MailboxSync.Proofs.Backlog

/-!
# Runs one after another

* `Call` — a run with the world it begins with, its result and the world it ends with;
* `History next w₀ cs w` — calls one after another, from `w₀` to `w`; `next` says what may happen to the world
  between two of them;
* `History.split`, `History.eq_after` — a history cut between two of its runs.
-/

namespace MailboxSync

variable {τ ς : Type}

/-- A run of one user, from a world to a result and a world. -/
structure Call (τ ς : Type) where
  env : Env τ ς
  roots : List FolderId
  now : Option Stamp
  user : User
  before : World τ ς
  result : Except Fault Report
  after : World τ ς
  runs : RunsLate env roots now user before (result, after)

namespace Call

def events (c : Call τ ς) : List Event := c.before.eventsSince c.after

def ofSyncUser (e : Env τ ς) (fuel : Nat) (roots : List FolderId) (now : Option Stamp) (user : User) (w : World τ ς)
    (h : (syncUser e fuel roots now user w).isSome) : Call τ ς where
  env := e
  roots := roots
  now := now
  user := user
  before := w
  result := ((syncUser e fuel roots now user w).get h).1
  after := ((syncUser e fuel roots now user w).get h).2
  runs := runsLate_of_syncUser (Option.some_get h).symm

def found (c : Call τ ς) : Except Trouble FolderSet := (discoverAll c.env.transport c.user c.roots [] c.before).1

theorem leads (c : Call τ ς) : c.before.Leads c.env (Journal.deeds c.events) c.after := by
  obtain ⟨ds, hl, -⟩ := c.runs.cases
  have hds : Journal.deeds c.events = ds := hl.deeds_eventsSince
  rw [hds]
  exact hl

end Call

/-- Calls one after another.  Between two of them the world may change as `next` allows. -/
inductive History (next : World τ ς → World τ ς → Prop) (w₀ : World τ ς) :
    List (Call τ ς) → World τ ς → Prop
  | nil : History next w₀ [] w₀
  | snoc {cs : List (Call τ ς)} {w : World τ ς} (h : History next w₀ cs w) (c : Call τ ς)
      (hn : next w c.before) :
    History next w₀ (cs ++ [c]) c.after

namespace History

variable {next : World τ ς → World τ ς → Prop} {w₀ w : World τ ς} {cs : List (Call τ ς)}

theorem split {cs' : List (Call τ ς)} (h : History next w₀ (cs ++ cs') w) :
    ∃ w₁, History next w₀ cs w₁ ∧ History next w₁ cs' w := by
  generalize hall : cs ++ cs' = all at h
  induction h generalizing cs' with
  | nil =>
    obtain ⟨rfl, rfl⟩ := List.append_eq_nil_iff.mp hall
    exact ⟨w₀, .nil, .nil⟩
  | @snoc all w h c hn ih =>
    rcases List.eq_nil_or_concat cs' with rfl | ⟨cs', d, rfl⟩
    · rw [List.append_nil] at hall
      subst hall
      exact ⟨_, .snoc h c hn, .nil⟩
    · rw [List.concat_eq_append, ← List.append_assoc] at hall
      obtain ⟨rfl, hd⟩ := List.append_inj' hall rfl
      cases hd
      obtain ⟨w₁, hfirst, hrest⟩ := ih rfl
      rw [List.concat_eq_append]
      exact ⟨w₁, hfirst, .snoc hrest c hn⟩

theorem eq_after {c : Call τ ς} (h : History next w₀ (cs ++ [c]) w) :
    w = c.after ∧ ∃ w₁, History next w₀ cs w₁ ∧ next w₁ c.before := by
  generalize hall : cs ++ [c] = all at h
  cases h with
  | nil => simp at hall
  | snoc h d hn =>
    obtain ⟨rfl, hd⟩ := List.append_inj' hall rfl
    cases hd
    exact ⟨rfl, _, h, hn⟩

end History

end MailboxSync
