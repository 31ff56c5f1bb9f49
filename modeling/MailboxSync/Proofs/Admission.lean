import MailboxSync.Xml.Token
import Mathlib.Tactic.SplitIfs

/-!
# What the reader hands on

A document is read from characters that may stand in a document, and so may all characters of the tokens that are made
of them: references give no others.

* `Admitted` — characters that may all stand in a document;
* `Token.Admitted`, `Declarations.Admitted` — tokens of such characters, and declarations that give no others;
* `Scan.Admitted.step` — one character; `Token.admitted_of_ofChars` — **a text.**
-/

namespace MailboxSync.Xml

/-- Characters that may all stand in a document. -/
def Admitted (cs : List Char) : Prop := ∀ c ∈ cs, isXmlChar c = true

@[simp] theorem admitted_nil : Admitted [] := List.forall_mem_nil _

@[simp] theorem admitted_cons {c : Char} {cs : List Char} : Admitted (c :: cs) ↔ isXmlChar c = true ∧ Admitted cs :=
  List.forall_mem_cons

@[simp] theorem admitted_append {cs ds : List Char} : Admitted (cs ++ ds) ↔ Admitted cs ∧ Admitted ds :=
  List.forall_mem_append

theorem Admitted.tail {c : Char} {cs : List Char} (h : Admitted (c :: cs)) : Admitted cs := (admitted_cons.mp h).2

@[simp] theorem admitted_reverse {cs : List Char} : Admitted cs.reverse ↔ Admitted cs := by simp [Admitted]

instance (cs : List Char) : Decidable (Admitted cs) := List.decidableBAll (isXmlChar · = true) cs

theorem Admitted.subset {cs ds : List Char} (h : Admitted cs) (hs : ds ⊆ cs) : Admitted ds := fun c hc => h c (hs hc)

theorem foldlM_induction {σ α : Type} {f : σ → α → Option σ} {P : σ → Prop} {as : List α} {s s' : σ}
    (hstep : ∀ s s', ∀ a ∈ as, P s → f s a = some s' → P s') (hs : P s) (h : as.foldlM f s = some s') :
    P s' := by
  induction as generalizing s with
  | nil => exact Option.some.inj h ▸ hs
  | cons a as ih =>
    rw [List.foldlM_cons] at h
    obtain ⟨s₁, hfirst, hrest⟩ := Option.bind_eq_some_iff.mp h
    exact ih (fun s s' b hb => hstep s s' b (List.mem_cons_of_mem _ hb)) (hstep s s₁ a List.mem_cons_self hs hfirst)
      hrest

/-! ## References -/

theorem isXmlChar_of_charOfCode? {n : Nat} {c : Char} (h : charOfCode? n = some c) : isXmlChar c = true := by
  obtain ⟨hn, heq⟩ := Option.ite_none_right_eq_some.mp h
  cases heq
  have hvalid : n.isValidChar := by
    simp only [isXmlCode, Bool.or_eq_true, beq_iff_eq, Bool.and_eq_true, decide_eq_true_eq] at hn
    unfold Nat.isValidChar
    omega
  have hnat : (Char.ofNat n).toNat = n := by
    rw [Char.ofNat, dif_pos hvalid]
    rfl
  rw [isXmlChar, hnat]
  exact hn

/-- **No reference gives a character that may not stand in a document.** -/
theorem isXmlChar_of_reference {cs : List Char} {c : Char} (h : Reference.ofChars? cs = some (.char c)) :
    isXmlChar c = true := by
  have hnumber {n : Option Nat} (h : (n.bind charOfCode?).map Reference.char = some (.char c)) :
      isXmlChar c = true := by
    obtain ⟨c', hc, heq⟩ := Option.map_eq_some_iff.mp h
    obtain ⟨n, -, hn⟩ := Option.bind_eq_some_iff.mp hc
    exact Reference.char.inj heq ▸ isXmlChar_of_charOfCode? hn
  unfold Reference.ofChars? at h
  split at h
  · exact hnumber h
  · exact hnumber h
  · split at h
    · dsimp only at h
      split at h
      · rename_i hpredefined
        cases h
        unfold predefined? at hpredefined
        repeat' split at hpredefined
        all_goals first | (cases hpredefined; decide) | cases hpredefined
      · cases h
    · cases h

/-! ## Tokens -/

def AttrsAdmitted {α : Type} (attrs : List (α × String)) : Prop := ∀ a ∈ attrs, Xml.Admitted a.2.toList

@[simp] theorem attrsAdmitted_nil {α : Type} : AttrsAdmitted ([] : List (α × String)) := List.forall_mem_nil _

@[simp] theorem attrsAdmitted_cons {α : Type} {a : α × String} {attrs : List (α × String)} :
    AttrsAdmitted (a :: attrs) ↔ Xml.Admitted a.2.toList ∧ AttrsAdmitted attrs := List.forall_mem_cons

@[simp] theorem attrsAdmitted_reverse {α : Type} {attrs : List (α × String)} :
    AttrsAdmitted attrs.reverse ↔ AttrsAdmitted attrs := by simp [AttrsAdmitted]

def Token.Admitted : Token → Prop
  | .char c => isXmlChar c = true
  | .start _ attrs => AttrsAdmitted attrs
  | .stop _ | .inside => True

/-- What is known of a document type gives admitted characters only. -/
structure Declarations.Admitted (d : Declarations) : Prop where
  content : ∀ name tokens, d.content name = some tokens → ∀ t ∈ tokens, t.Admitted
  value : ∀ name cs, d.value name = some cs → Xml.Admitted cs
  complete : ∀ name attrs, AttrsAdmitted attrs → AttrsAdmitted (d.complete name attrs)

theorem Declarations.admitted_none : Declarations.none.Admitted where
  content _ _ h := by cases h
  value _ _ h := by cases h
  complete _ _ h := h

namespace Declarations.Admitted

variable {d : Declarations} {cs : List Char}

theorem contentOf (hd : d.Admitted) {tokens : List Token} (h : d.contentOf cs = some tokens) :
    ∀ t ∈ tokens, t.Admitted := by
  unfold Declarations.contentOf at h
  split at h
  · rename_i href
    cases h
    simpa [Token.Admitted] using isXmlChar_of_reference href
  · obtain ⟨tokens, htokens, rfl⟩ := Option.map_eq_some_iff.mp h
    exact List.forall_mem_cons.mpr ⟨trivial, hd.content _ _ htokens⟩
  · cases h

theorem valueOf (hd : d.Admitted) {more : List Char} (h : d.valueOf cs = some more) : Xml.Admitted more := by
  unfold Declarations.valueOf at h
  split at h
  · rename_i href
    cases h
    simpa using isXmlChar_of_reference href
  · exact hd.value _ _ h
  · cases h

end Declarations.Admitted

/-! ## The reader -/

/-- The attributes read so far, and the value under way, are admitted. -/
def Mode.Admitted : Mode → Prop
  | .tag _ attrs | .attrName _ attrs _ | .equals _ attrs _ | .quote _ attrs _ | .valueEnd _ attrs | .slash _ attrs =>
    AttrsAdmitted attrs
  | .value _ attrs _ _ cs | .valueRef _ attrs _ _ cs _ => AttrsAdmitted attrs ∧ Xml.Admitted cs
  | _ => True

namespace Scan

/-- A state of the reader that holds admitted characters. -/
structure Admitted (s : Scan) : Prop where
  mode : s.mode.Admitted
  found : ∀ t ∈ s.found, t.Admitted

variable {d : Declarations} {s s' : Scan} {name : RawName} {attrs : List RawAttr} {c : Char}

theorem Admitted.go (hs : s.Admitted) {mode : Mode} (hm : mode.Admitted) : (s.go mode).Admitted := ⟨hm, hs.found⟩

theorem Admitted.emit (hs : s.Admitted) {tokens : List Token} (ht : ∀ t ∈ tokens, t.Admitted) {mode : Mode}
    (hm : mode.Admitted) : (s.emit tokens mode).Admitted := by
  refine ⟨hm, fun t h => ?_⟩
  rcases List.mem_append.mp h with h | h
  · exact ht t (List.mem_reverse.mp h)
  · exact hs.found t h

theorem Admitted.endTag (hs : s.Admitted) (hd : d.Admitted) (ha : AttrsAdmitted attrs) {empty : Bool}
    (h : s.endTag d name attrs empty = some s') : s'.Admitted := by
  unfold Scan.endTag at h
  split at h
  · cases h
    have hstart : Token.Admitted (.start name (d.complete name attrs.reverse)) :=
      hd.complete name attrs.reverse (attrsAdmitted_reverse.mpr ha)
    refine hs.emit (fun t ht => ?_) trivial
    split at ht
    · simp only [List.mem_cons, List.not_mem_nil, or_false] at ht
      rcases ht with rfl | rfl
      · exact hstart
      · trivial
    · exact List.mem_singleton.mp ht ▸ hstart
  · cases h

theorem Admitted.afterPart (hs : s.Admitted) (hd : d.Admitted) (ha : AttrsAdmitted attrs)
    (h : s.afterPart d name attrs c = some s') : s'.Admitted := by
  unfold Scan.afterPart at h
  split at h
  · cases h
    exact hs.go ha
  · split at h
    · exact hs.endTag hd ha h
    · split at h
      · cases h
        exact hs.go ha
      · cases h

/-- **One character.** -/
theorem Admitted.step (hs : s.Admitted) (hd : d.Admitted) (hc : isXmlChar c = true) (h : s.step d c = some s') :
    s'.Admitted := by
  have hchar : ∀ t ∈ [Token.char c], t.Admitted := List.forall_mem_singleton.mpr hc
  have hgo {mode : Mode} (h : some (s.go mode) = some s') (hm : mode.Admitted) : s'.Admitted :=
    Option.some.inj h ▸ hs.go hm
  have hemit {tokens : List Token} {mode : Mode} (h : some (s.emit tokens mode) = some s')
      (ht : ∀ t ∈ tokens, t.Admitted) (hm : mode.Admitted) : s'.Admitted := Option.some.inj h ▸ hs.emit ht hm
  have hmode := hs.mode
  unfold Scan.step at h
  cases hmode' : s.mode <;> rw [hmode'] at hmode <;> simp only [hmode'] at h
  case text n =>
    split_ifs at h
    all_goals first | exact hgo h trivial | exact hemit h hchar trivial
  case textRef cs =>
    split_ifs at h
    · obtain ⟨tokens, htokens, heq⟩ := Option.map_eq_some_iff.mp h
      exact hemit (congrArg some heq) (hd.contentOf htokens) trivial
    · exact hgo h trivial
  case startName cs =>
    split_ifs at h
    · exact hgo h trivial
    · obtain ⟨name, -, h⟩ := Option.bind_eq_some_iff.mp h
      exact hs.afterPart hd attrsAdmitted_nil h
  case tag name attrs =>
    split_ifs at h
    · exact hgo h hmode
    · exact hs.afterPart hd hmode h
  case attrName name attrs cs =>
    split at h
    · exact hgo h hmode
    · obtain ⟨key, -, h⟩ := Option.bind_eq_some_iff.mp h
      split_ifs at h <;> exact hgo h hmode
  case equals name attrs key =>
    split_ifs at h
    · exact Option.some.inj h ▸ hs
    · exact hgo h hmode
  case quote name attrs key =>
    split_ifs at h
    · exact Option.some.inj h ▸ hs
    · exact hgo h ⟨hmode, admitted_nil⟩
  case value name attrs key mark cs =>
    have hspace : isXmlChar (if isSpace c then ' ' else c) = true := by
      split
      · decide
      · exact hc
    split_ifs at h
    · exact hgo h (attrsAdmitted_cons.mpr ⟨by simpa using hmode.2, hmode.1⟩)
    · exact hgo h hmode
    · exact hgo h ⟨hmode.1, admitted_cons.mpr ⟨by simp_all, hmode.2⟩⟩
    · exact hgo h ⟨hmode.1, admitted_cons.mpr ⟨hc, hmode.2⟩⟩
  case valueRef name attrs key mark cs ref =>
    split_ifs at h
    · obtain ⟨more, hmore, heq⟩ := Option.map_eq_some_iff.mp h
      exact hgo (congrArg some heq) ⟨hmode.1, by simpa using ⟨hd.valueOf hmore, hmode.2⟩⟩
    · exact hgo h hmode
  case valueEnd name attrs => exact hs.afterPart hd hmode h
  case slash name attrs =>
    split_ifs at h
    exact hs.endTag hd hmode h
  case endName cs =>
    split at h
    · exact hgo h trivial
    · obtain ⟨name, -, h⟩ := Option.bind_eq_some_iff.mp h
      split_ifs at h
      · exact hgo h trivial
      · exact hemit h (by simp [Token.Admitted]) trivial
  case endBlank name =>
    split_ifs at h
    · exact Option.some.inj h ▸ hs
    · exact hemit h (by simp [Token.Admitted]) trivial
  case bang cs =>
    split_ifs at h
    all_goals first | exact hgo h trivial | exact hemit h (by simp [Token.Admitted]) trivial
  case literal n =>
    have hbrackets : ∀ t ∈ brackets n ++ [.char c], t.Admitted := by
      intro t ht
      rcases List.mem_append.mp ht with ht | ht
      · have hbracket : isXmlChar ']' = true := by decide
        rw [List.eq_of_mem_replicate ht]
        exact hbracket
      · exact hchar t ht
    split_ifs at h
    all_goals first | exact hgo h trivial | exact hemit h hchar trivial | exact hemit h hbrackets trivial
  -- the other states hold no characters of tokens
  all_goals
    split_ifs at h
    all_goals exact hgo h trivial

end Scan

/-- **The tokens of an admitted text are admitted.** -/
theorem Token.admitted_of_ofChars {d : Declarations} (hd : d.Admitted) {cs : List Char} (hcs : Xml.Admitted cs)
    {tokens : List Token} (h : Token.ofChars d cs = some tokens) : ∀ t ∈ tokens, t.Admitted := by
  obtain ⟨s, hscan, hfinish⟩ := Option.bind_eq_some_iff.mp h
  have hstart : Scan.Admitted {} := ⟨trivial, List.forall_mem_nil _⟩
  have hs : s.Admitted := foldlM_induction (fun _ _ c hc hs hstep => hs.step hd (hcs c hc) hstep) hstart hscan
  unfold Scan.finish at hfinish
  split at hfinish
  · cases hfinish
    exact fun t ht => hs.found t (List.mem_reverse.mp ht)
  · cases hfinish

end MailboxSync.Xml
