/-!
# Line ends

A carriage return, alone or before a line feed, is read as one line feed.
-/

namespace MailboxSync.Xml

/-- Puts a character in front of normalized text; the flag says whether a line feed stands first there. -/
def lineStep (c : Char) (s : List Char × Bool) : List Char × Bool :=
  if c = '\r' then (if s.2 then s.1 else '\n' :: s.1, false) else (c :: s.1, c = '\n')

def normalizeLines (cs : List Char) : List Char := (cs.foldr lineStep ([], false)).1

theorem normalizeLines_cons {c : Char} (h : c ≠ '\r') (cs : List Char) :
    normalizeLines (c :: cs) = c :: normalizeLines cs := by
  simp [normalizeLines, lineStep, h]

theorem normalizeLines_eq_self {cs : List Char} (h : '\r' ∉ cs) : normalizeLines cs = cs := by
  induction cs with
  | nil => rfl
  | cons c cs ih =>
    rw [List.mem_cons, not_or] at h
    rw [normalizeLines_cons (Ne.symm h.1), ih h.2]

end MailboxSync.Xml
