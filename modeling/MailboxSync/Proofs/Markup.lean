import MailboxSync.Xml.Namespace
import MailboxSync.Xml.Writer
import Mathlib.Data.List.TakeWhile

/-!
# What is written

* `RawName.chars` — a name as its characters, which are read as this name (`RawName.ofChars?_chars`);
* `Writes` — characters that stand for one character: itself, or a reference to it;
* `Escapes.Faithful` — every legal character is written so that a reader finds it again.  `Escapes.plain` is faithful
  to the clean characters, `Escapes.exact` to all that may stand in a document;
* `Prefixes.Binds` — the prefixes of a document may be declared, and declaring them binds each to its namespace;
* `Content.Writable` — content whose names have prefixes and whose characters are legal.  What is written of it is
  clean (`Content.clean_write`).
-/

namespace MailboxSync.Xml

/-! ## Characters -/

/-- Whether a character may stand in a document and is no carriage return, which a reader takes for a line feed. -/
def isClean (c : Char) : Bool := isXmlChar c && c ≠ '\r'

theorem isXmlChar_of_isClean {c : Char} (h : isClean c = true) : isXmlChar c = true := by
  simp only [isClean, Bool.and_eq_true] at h
  exact h.1

def Clean (cs : List Char) : Prop := ∀ c ∈ cs, isClean c = true

theorem Clean.nil : Clean [] := List.forall_mem_nil _

@[simp] theorem clean_cons {c : Char} {cs : List Char} : Clean (c :: cs) ↔ isClean c = true ∧ Clean cs :=
  List.forall_mem_cons

@[simp] theorem clean_append {cs ds : List Char} : Clean (cs ++ ds) ↔ Clean cs ∧ Clean ds := List.forall_mem_append

theorem clean_flatMap {α : Type} {f : α → List Char} {as : List α} (h : ∀ a ∈ as, Clean (f a)) :
    Clean (as.flatMap f) := by
  intro c hc
  obtain ⟨a, ha, hc⟩ := List.mem_flatMap.mp hc
  exact h a ha c hc

instance (cs : List Char) : Decidable (Clean cs) := List.decidableBAll (isClean · = true) cs

/-! ## Names -/

theorem isNameChar_of_isNameStart {c : Char} (h : isNameStart c = true) : isNameChar c = true := by
  unfold isNameStart at h
  unfold isNameChar
  dsimp only at h ⊢
  split
  · rename_i hlt
    rw [if_pos hlt] at h
    simp only [Char.isAlphanum, Bool.or_eq_true, decide_eq_true_eq] at h ⊢
    rcases h with h | h
    · exact .inl (.inl (.inl (.inl h)))
    · exact .inl (.inl (.inr h))
  · rename_i hlt
    rw [if_neg hlt] at h
    rw [h, Bool.true_or]

theorem isNameChar_of_isPlainName {cs : List Char} (h : isPlainName cs = true) : ∀ c ∈ cs, isNameChar c = true := by
  cases cs with
  | nil => simp
  | cons c cs =>
    simp only [isPlainName, Bool.and_eq_true, List.all_eq_true] at h
    intro x hx
    rcases List.mem_cons.mp hx with rfl | hx
    · exact isNameChar_of_isNameStart h.1
    · exact h.2 x hx

theorem ne_colon_of_isPlainName {cs : List Char} (h : isPlainName cs = true) : ∀ c ∈ cs, c ≠ ':' := by
  rintro c hc rfl
  have hcolon : isNameChar ':' = false := by decide
  rw [isNameChar_of_isPlainName h _ hc] at hcolon
  cases hcolon

def RawName.chars (n : RawName) : List Char :=
  if n.lead = "" then n.tag.toList else n.lead.toList ++ ':' :: n.tag.toList

/-- A name whose parts are names without colon. -/
structure RawName.Plain (n : RawName) : Prop where
  lead : n.lead = "" ∨ isPlainName n.lead.toList = true
  tag : isPlainName n.tag.toList = true

namespace RawName

variable {n : RawName}

/-- **A name is read from its characters.** -/
theorem ofChars?_chars (h : n.Plain) : ofChars? n.chars = some n := by
  unfold ofChars? chars
  by_cases hl : n.lead = ""
  · have htag : ∀ c ∈ n.tag.toList, decide (c ≠ ':') = true := by simpa using ne_colon_of_isPlainName h.tag
    have htake : n.tag.toList.takeWhile (· ≠ ':') = n.tag.toList := List.takeWhile_eq_self_iff.mpr htag
    have hdrop : n.tag.toList.dropWhile (· ≠ ':') = [] := List.dropWhile_eq_nil_iff.mpr htag
    simp only [hl, if_true, htake, hdrop, h.tag, String.ofList_toList]
    rw [← hl]
  · have hplain := h.lead.resolve_left hl
    have hlead : ∀ c ∈ n.lead.toList, decide (c ≠ ':') = true := by simpa using ne_colon_of_isPlainName hplain
    have htake : (n.lead.toList ++ ':' :: n.tag.toList).takeWhile (· ≠ ':') = n.lead.toList := by
      rw [List.takeWhile_append_of_pos hlead]; simp
    have hdrop : (n.lead.toList ++ ':' :: n.tag.toList).dropWhile (· ≠ ':') = ':' :: n.tag.toList := by
      rw [List.dropWhile_append_of_pos hlead]; simp
    simp only [if_neg hl, htake, hdrop, hplain, h.tag, Bool.and_self, if_true, String.ofList_toList]

/-- A name starts like one, and goes on with characters of names and colons. -/
theorem Plain.chars_eq_cons (h : n.Plain) :
    ∃ c cs, n.chars = c :: cs ∧ isNameStart c = true ∧ ∀ x ∈ cs, (isNameChar x || x = ':') = true := by
  have hcons {s : String} (hs : isPlainName s.toList = true) :
      ∃ c cs, s.toList = c :: cs ∧ isNameStart c = true ∧ ∀ x ∈ cs, isNameChar x = true := by
    cases hs' : s.toList with
    | nil => simp [hs', isPlainName] at hs
    | cons c cs =>
      simp only [hs', isPlainName, Bool.and_eq_true, List.all_eq_true] at hs
      exact ⟨c, cs, rfl, hs.1, hs.2⟩
  unfold chars
  by_cases hl : n.lead = ""
  · obtain ⟨c, cs, heq, hc, hcs⟩ := hcons h.tag
    exact ⟨c, cs, by rw [if_pos hl, heq], hc, fun x hx => by simp [hcs x hx]⟩
  · obtain ⟨c, cs, heq, hc, hcs⟩ := hcons (h.lead.resolve_left hl)
    refine ⟨c, cs ++ ':' :: n.tag.toList, by rw [if_neg hl, heq, List.cons_append], hc, fun x hx => ?_⟩
    rcases List.mem_append.mp hx with hx | hx
    · simp [hcs x hx]
    · rcases List.mem_cons.mp hx with rfl | hx
      · simp
      · simp [isNameChar_of_isPlainName h.tag x hx]

theorem Plain.spelled (h : n.Plain) :
    ∃ c cs, n.chars = c :: cs ∧ isNameStart c = true ∧ (∀ x ∈ cs, (isNameChar x || x = ':') = true) ∧
      ofChars? (cs.reverse ++ [c]).reverse = some n := by
  obtain ⟨c, cs, heq, hc, hcs⟩ := h.chars_eq_cons
  refine ⟨c, cs, heq, hc, hcs, ?_⟩
  rw [List.reverse_append, List.reverse_reverse, ← ofChars?_chars h, heq]
  rfl

end RawName

/-! ## Escapes -/

/-- Characters that write one character: itself unless it is barred, or a reference to it. -/
inductive Writes (barred : Char → Bool) (c : Char) : List Char → Prop
  | plain (hc : isClean c = true) (hb : barred c = false) : Writes barred c [c]
  | reference {ref : List Char} (hr : Reference.ofChars? ref = some (.char c)) (hs : ';' ∉ ref)
    (hc : Clean ref) : Writes barred c ('&' :: (ref ++ [';']))

/-- What may not stand for itself in text. -/
def barredInText (c : Char) : Bool := c = '<' || c = '&' || c = '>'

/-- What may not stand for itself in a quoted value. -/
def barredInValue (c : Char) : Bool := c = '<' || c = '&' || c = '"' || isSpace c && c ≠ ' '

theorem Writes.clean {barred : Char → Bool} {c : Char} {cs : List Char} (h : Writes barred c cs) : Clean cs := by
  cases h with
  | plain hc _ => simpa [Clean] using hc
  | reference _ _ hc =>
    have hamp : isClean '&' = true := by decide
    have hsemi : isClean ';' = true := by decide
    simp [hamp, hsemi, hc, Clean.nil]

/-- Every legal character is written so that it is found again. -/
structure Escapes.Faithful (e : Escapes) (legal : Char → Prop) : Prop where
  text : ∀ c, legal c → Writes barredInText c (e.text c)
  value : ∀ c, legal c → Writes barredInValue c (e.value c)

theorem Writes.of_eq {barred : Char → Bool} {c : Char} {cs : List Char} (ref : String)
    (hcs : cs = '&' :: (ref.toList ++ [';'])) (hr : Reference.ofChars? ref.toList = some (.char c))
    (hs : ';' ∉ ref.toList) (hc : Clean ref.toList) : Writes barred c cs :=
  hcs ▸ .reference hr hs hc

/-- Markup is written as references, what is clean and no markup as itself. -/
theorem writes_escapeMarkup {barred : Char → Bool} {c : Char} (hc : isClean c = true)
    (hb : barred c = true → c = '&' ∨ c = '<' ∨ c = '>') : Writes barred c (escapeMarkup c) := by
  unfold escapeMarkup
  split
  · rename_i h
    subst h
    exact .of_eq "amp" (by decide) (by decide) (by decide) (by decide)
  · split
    · rename_i h
      subst h
      exact .of_eq "lt" (by decide) (by decide) (by decide) (by decide)
    · split
      · rename_i h
        subst h
        exact .of_eq "gt" (by decide) (by decide) (by decide) (by decide)
      · rename_i hamp hlt hgt
        refine .plain hc ?_
        cases hbarred : barred c with
        | false => rfl
        | true => rcases hb hbarred with h | h | h <;> contradiction

theorem writes_escapeValue {c : Char} (hc : isXmlChar c = true) : Writes barredInValue c (escapeValue c) := by
  unfold escapeValue
  split
  · rename_i h
    subst h
    exact .of_eq "quot" (by decide) (by decide) (by decide) (by decide)
  · split
    · rename_i h
      subst h
      exact .of_eq "#13" (by decide) (by decide) (by decide) (by decide)
    · split
      · rename_i h
        subst h
        exact .of_eq "#10" (by decide) (by decide) (by decide) (by decide)
      · split
        · rename_i h
          subst h
          exact .of_eq "#09" (by decide) (by decide) (by decide) (by decide)
        · rename_i hquot hcr hlf htab
          refine writes_escapeMarkup (by simp [isClean, hc, hcr]) fun hb => ?_
          simp only [barredInValue, isSpace, Bool.or_eq_true, Bool.and_eq_true, decide_eq_true_eq] at hb
          grind

theorem Escapes.plain_faithful : Escapes.plain.Faithful (isClean · = true) where
  text c hc := writes_escapeMarkup hc fun hb => by
    simp only [barredInText, Bool.or_eq_true, decide_eq_true_eq] at hb
    grind
  value _ hc := writes_escapeValue (isXmlChar_of_isClean hc)

theorem Escapes.exact_faithful : Escapes.exact.Faithful (isXmlChar · = true) where
  text c hc := by
    show Writes barredInText c (escapeText c)
    unfold escapeText
    split
    · rename_i h
      subst h
      exact .of_eq "#13" (by decide) (by decide) (by decide) (by decide)
    · rename_i hcr
      refine writes_escapeMarkup (by simp [isClean, hc, hcr]) fun hb => ?_
      simp only [barredInText, Bool.or_eq_true, decide_eq_true_eq] at hb
      grind
  value c hc := writes_escapeValue hc

/-! ## Prefixes -/

def Prefixes.raw (ps : Prefixes) (n : Name) : RawName :=
  ⟨if n.space = "" then "" else ((ps.find? fun p => p.2 = n.space).map (·.1)).getD "", n.tag⟩

def Prefixes.rawAttr (ps : Prefixes) (a : Attr) : RawAttr := (ps.raw a.1, a.2)

def Prefixes.declared (ps : Prefixes) : List RawAttr := ps.map fun p => (⟨"xmlns", p.1⟩, p.2)

def RawName.writeAttr (e : Escapes) (a : RawAttr) : List Char := Xml.writeAttr e a.1.chars a.2

/-- Prefixes that may be declared; with them declared, `scope` is in force, in which each has its namespace. -/
structure Prefixes.Binds (ps : Prefixes) (legal : Char → Prop) (scope : Scope) : Prop where
  declare : Scope.initial.declare ps.declared = some scope
  plain : ∀ p ∈ ps, isPlainName p.1.toList = true
  clean : ∀ p ∈ ps, Clean p.1.toList
  own : ∀ p ∈ ps, p.1 ≠ "xmlns"
  lookup : ∀ p ∈ ps, scope.lookup p.1 = some p.2
  unprefixed : scope.lookup "" = none
  nodup : (ps.map (·.1)).Nodup
  legal : ∀ p ∈ ps, ∀ c ∈ p.2.toList, legal c

/-- A name that can be written: its namespace, if there is one, has a prefix. -/
structure Name.Writable (ps : Prefixes) (n : Name) : Prop where
  plain : isPlainName n.tag.toList = true
  clean : Clean n.tag.toList
  space : n.space = "" ∨ n.space ∈ ps.map (·.2)

/-- Attributes that can be written: none is a declaration, no two have one name. -/
structure Attrs.Writable (ps : Prefixes) (legal : Char → Prop) (attrs : List Attr) : Prop where
  name : ∀ a ∈ attrs, a.1.Writable ps
  own : ∀ a ∈ attrs, a.1 ≠ ⟨"", "xmlns"⟩
  legal : ∀ a ∈ attrs, ∀ c ∈ a.2.toList, legal c
  nodup : (attrs.map (·.1)).Nodup

def Content.Writable (ps : Prefixes) (legal : Char → Prop) : Content → Prop
  | .done => True
  | .char c rest => legal c ∧ rest.Writable ps legal
  | .element name attrs inner rest =>
    name.Writable ps ∧ Attrs.Writable ps legal attrs ∧ inner.Writable ps legal ∧ rest.Writable ps legal

/-- An element that can be written. -/
structure Element.Writable (ps : Prefixes) (legal : Char → Prop) (e : Element) : Prop where
  name : e.name.Writable ps
  attrs : Attrs.Writable ps legal e.attrs
  inner : e.inner.Writable ps legal

section Names

variable {ps : Prefixes} {legal : Char → Prop} {scope : Scope} {n n' : Name} {attrs : List Attr}

theorem Name.Writable.raw_mem (hn : n.Writable ps) (hs : n.space ≠ "") : ((ps.raw n).lead, n.space) ∈ ps := by
  obtain ⟨p, hp, hspace⟩ := List.mem_map.mp (hn.space.resolve_left hs)
  cases hfind : ps.find? fun p => p.2 = n.space with
  | none =>
    rw [List.find?_eq_none] at hfind
    exact absurd hspace (by simpa using hfind p hp)
  | some q =>
    have hq : q.2 = n.space := by simpa using List.find?_some hfind
    have hlead : (ps.raw n).lead = q.1 := by simp [Prefixes.raw, hs, hfind]
    rw [hlead, ← hq]
    exact List.mem_of_find?_eq_some hfind

theorem Prefixes.Binds.plain_raw (hps : ps.Binds legal scope) (hn : n.Writable ps) : (ps.raw n).Plain where
  lead := by
    by_cases hs : n.space = ""
    · exact .inl (by simp [raw, hs])
    · have hplain := hps.plain _ (hn.raw_mem hs)
      exact .inr hplain
  tag := hn.plain

theorem Prefixes.Binds.lead_ne_empty (hps : ps.Binds legal scope) (hn : n.Writable ps) (hs : n.space ≠ "") :
    (ps.raw n).lead ≠ "" := by
  intro hempty
  have hplain := hps.plain _ (hn.raw_mem hs)
  simp [hempty, isPlainName] at hplain

theorem Prefixes.Binds.write_eq (hps : ps.Binds legal scope) (hn : n.Writable ps) : ps.write n = (ps.raw n).chars := by
  by_cases hs : n.space = ""
  · simp [write, raw, RawName.chars, hs]
  · rw [RawName.chars, if_neg (hps.lead_ne_empty hn hs), write, if_neg hs]
    simp [raw, hs]

theorem Prefixes.Binds.writeAttrs_eq (hps : ps.Binds legal scope) (e : Escapes)
    (ha : ∀ a ∈ attrs, a.1.Writable ps) :
    writeAttrs e ps attrs = (attrs.map ps.rawAttr).flatMap (RawName.writeAttr e) := by
  rw [writeAttrs, List.flatMap_map, List.flatMap_def, List.flatMap_def]
  refine congrArg List.flatten (List.map_congr_left fun a h => ?_)
  rw [hps.write_eq (ha a h)]
  rfl

theorem Prefixes.declarations_eq (e : Escapes) (ps : Prefixes) :
    ps.declarations e = ps.declared.flatMap (RawName.writeAttr e) := by
  have hxmlns : "xmlns:".toList = "xmlns".toList ++ [':'] := by decide
  have hne : ("xmlns" : String) ≠ "" := by decide
  simp only [declarations, declared, List.flatMap_map, RawName.writeAttr, RawName.chars, if_neg hne, hxmlns,
    List.append_assoc, List.singleton_append]

theorem Prefixes.Binds.element_raw (hps : ps.Binds legal scope) (hn : n.Writable ps) :
    scope.element (ps.raw n) = some n := by
  unfold Scope.element
  by_cases hs : n.space = ""
  · have hlead : (ps.raw n).lead = "" := by simp [raw, hs]
    rw [hlead, hps.unprefixed]
    simp only [if_true]
    rw [← hs]
    rfl
  · rw [hps.lookup _ (hn.raw_mem hs)]
    rfl

theorem Prefixes.Binds.raw_inj (hps : ps.Binds legal scope) (hn : n.Writable ps) (hn' : n'.Writable ps)
    (h : ps.raw n = ps.raw n') : n = n' := by
  have hsome := hps.element_raw hn
  rw [h, hps.element_raw hn'] at hsome
  exact (Option.some.inj hsome).symm

end Names

/-! ## What is written is clean -/

section Clean

variable {ps : Prefixes} {legal : Char → Prop} {scope : Scope} {e : Escapes}

theorem Prefixes.Binds.clean_raw (hps : ps.Binds legal scope) {n : Name} (hn : n.Writable ps) :
    Clean (ps.raw n).chars := by
  have hcolon : isClean ':' = true := by decide
  unfold RawName.chars
  split
  · exact hn.clean
  · rename_i hlead
    have hs : n.space ≠ "" := fun h => hlead (by simp [raw, h])
    have hclean := hps.clean _ (hn.raw_mem hs)
    exact clean_append.mpr ⟨hclean, clean_cons.mpr ⟨hcolon, hn.clean⟩⟩

theorem Escapes.Faithful.clean_writeAttr (he : e.Faithful legal) {a : RawAttr} (hkey : Clean a.1.chars)
    (hvalue : ∀ c ∈ a.2.toList, legal c) : Clean (RawName.writeAttr e a) := by
  have hmarks : isClean ' ' = true ∧ isClean '=' = true ∧ isClean '"' = true := by decide
  have hescaped : Clean (a.2.toList.flatMap e.value) := clean_flatMap fun c hc => (he.value c (hvalue c hc)).clean
  simp [RawName.writeAttr, writeAttr, hmarks, hkey, hescaped, Clean.nil]

theorem clean_wrap {name attrs inner : List Char} (hname : Clean name) (hattrs : Clean attrs) (hinner : Clean inner) :
    Clean (wrap name attrs inner) := by
  have hmarks : isClean '<' = true ∧ isClean '>' = true ∧ isClean '/' = true := by decide
  have hclose : Clean " />".toList := by decide
  unfold wrap
  split
  · simp only [List.cons_append, clean_cons, clean_append]
    exact ⟨hmarks.1, ⟨hname, hattrs⟩, hclose⟩
  · simp [hmarks, hname, hattrs, hinner, Clean.nil]

theorem Prefixes.Binds.clean_declared (hps : ps.Binds legal scope) (he : e.Faithful legal) :
    Clean (ps.declared.flatMap (RawName.writeAttr e)) := by
  refine clean_flatMap fun a ha => ?_
  obtain ⟨p, hp, rfl⟩ := List.mem_map.mp ha
  have hxmlns : Clean "xmlns".toList := by decide
  have hcolon : isClean ':' = true := by decide
  have hchars : RawName.chars ⟨"xmlns", p.1⟩ = "xmlns".toList ++ ':' :: p.1.toList := if_neg (by simp)
  refine he.clean_writeAttr ?_ (hps.legal p hp)
  rw [hchars]
  exact clean_append.mpr ⟨hxmlns, clean_cons.mpr ⟨hcolon, hps.clean p hp⟩⟩

theorem Attrs.Writable.clean (hps : ps.Binds legal scope) (he : e.Faithful legal) {attrs : List Attr}
    (ha : Attrs.Writable ps legal attrs) : Clean (writeAttrs e ps attrs) := by
  rw [hps.writeAttrs_eq e ha.name]
  refine clean_flatMap fun a h => ?_
  obtain ⟨b, hb, rfl⟩ := List.mem_map.mp h
  exact he.clean_writeAttr (hps.clean_raw (ha.name b hb)) (ha.legal b hb)

/-- **What is written of content is clean.** -/
theorem Content.clean_write (hps : ps.Binds legal scope) (he : e.Faithful legal) {k : Content}
    (hk : k.Writable ps legal) : Clean (k.write e ps) := by
  induction k with
  | done => exact .nil
  | char c rest ih => exact clean_append.mpr ⟨(he.text c hk.1).clean, ih hk.2⟩
  | element name attrs inner rest ihi ihr =>
    obtain ⟨hname, hattrs, hinner, hrest⟩ := hk
    have hwritten : Clean (ps.write name) := by
      rw [hps.write_eq hname]
      exact hps.clean_raw hname
    exact clean_append.mpr ⟨clean_wrap hwritten (hattrs.clean hps he) (ihi hinner), ihr hrest⟩

end Clean

end MailboxSync.Xml
