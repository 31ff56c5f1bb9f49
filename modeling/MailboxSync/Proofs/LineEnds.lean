import MailboxSync.Proofs.Documents

/-!
# Line ends in documents

`Escapes.plain` writes a carriage return of a text as itself, which a reader takes for a line feed, alone or together
with the line feed behind it.  Nothing else is lost: in attribute values it is written as a reference.

* `normalizeLines_append`, `normalizeLines_eq_self_iff` — which texts normalization keeps, and where it can be cut;
* `Content.normalized` — content with the line ends of its texts normalized;
* `Content.normalizeLines_write` — normalizing what is written with `Escapes.plain` gives what `Escapes.exact` writes
  of the normalized content, so that the one is read as the other is;
* `Document.read_plain` — **a document written with `Escapes.plain` reads back with its line ends normalized.**
-/

namespace MailboxSync.Xml

/-! ## Texts -/

theorem normalizeLines_cr (cs : List Char) :
    normalizeLines ('\r' :: cs) = if cs.head? = some '\n' then normalizeLines cs else '\n' :: normalizeLines cs := by
  have hflag : (cs.foldr lineStep ([], false)).2 = decide (cs.head? = some '\n') := by
    cases cs with
    | nil => rfl
    | cons c cs => by_cases h : c = '\r' <;> simp [lineStep, h]
  simp [normalizeLines, lineStep, hflag]

theorem normalizeLines_append (cs : List Char) {ds : List Char} (h : ds.head? ≠ some '\n') :
    normalizeLines (cs ++ ds) = normalizeLines cs ++ normalizeLines ds := by
  induction cs with
  | nil => rfl
  | cons c cs ih =>
    by_cases hc : c = '\r'
    · have hhead : (cs ++ ds).head? = some '\n' ↔ cs.head? = some '\n' := by cases cs <;> simp [h]
      simp only [hc, List.cons_append, normalizeLines_cr, hhead, ih]
      split <;> rfl
    · rw [List.cons_append, normalizeLines_cons hc, normalizeLines_cons hc, ih, List.cons_append]

theorem normalizeLines_append_of_not_mem {cs : List Char} (h : '\r' ∉ cs) (ds : List Char) :
    normalizeLines (cs ++ ds) = cs ++ normalizeLines ds := by
  induction cs with
  | nil => rfl
  | cons c cs ih =>
    rw [List.mem_cons, not_or] at h
    rw [List.cons_append, normalizeLines_cons (Ne.symm h.1), ih h.2, List.cons_append]

theorem cr_not_mem_normalizeLines (cs : List Char) : '\r' ∉ normalizeLines cs := by
  induction cs with
  | nil => simp [normalizeLines]
  | cons c cs ih =>
    by_cases hc : c = '\r'
    · rw [hc, normalizeLines_cr]
      split
      · exact ih
      · simp [ih]
    · rw [normalizeLines_cons hc, List.mem_cons, not_or]
      exact ⟨Ne.symm hc, ih⟩

/-- **Exactly the texts without carriage return stay as they are.** -/
theorem normalizeLines_eq_self_iff {cs : List Char} : normalizeLines cs = cs ↔ '\r' ∉ cs :=
  ⟨fun h => h ▸ cr_not_mem_normalizeLines cs, normalizeLines_eq_self⟩

theorem mem_of_mem_normalizeLines {c : Char} {cs : List Char} (h : c ∈ normalizeLines cs) :
    c ∈ cs ∨ c = '\n' := by
  induction cs with
  | nil => cases h
  | cons d cs ih =>
    by_cases hd : d = '\r'
    · rw [hd, normalizeLines_cr] at h
      split at h
      · exact (ih h).imp_left (List.mem_cons_of_mem _)
      · rcases List.mem_cons.mp h with rfl | h
        · exact .inr rfl
        · exact (ih h).imp_left (List.mem_cons_of_mem _)
    · rw [normalizeLines_cons hd] at h
      rcases List.mem_cons.mp h with rfl | h
      · exact .inl List.mem_cons_self
      · exact (ih h).imp_left (List.mem_cons_of_mem _)

theorem mem_normalizeLines {c : Char} {cs : List Char} (h : c ∈ cs) (hc : c ≠ '\r') : c ∈ normalizeLines cs := by
  induction cs with
  | nil => cases h
  | cons d cs ih =>
    by_cases hd : d = '\r'
    · have hmem := ih ((List.mem_cons.mp h).resolve_left fun heq => hc (heq.trans hd))
      rw [hd, normalizeLines_cr]
      split
      · exact hmem
      · exact List.mem_cons_of_mem _ hmem
    · rw [normalizeLines_cons hd]
      rcases List.mem_cons.mp h with rfl | h
      · exact List.mem_cons_self
      · exact List.mem_cons_of_mem _ (ih h)

theorem normalizeLines_eq_nil_iff {cs : List Char} : normalizeLines cs = [] ↔ cs = [] := by
  refine ⟨fun h => ?_, by rintro rfl; rfl⟩
  induction cs with
  | nil => rfl
  | cons c cs ih =>
    by_cases hc : c = '\r'
    · rw [hc, normalizeLines_cr] at h
      split at h
      · rename_i hhead
        rw [ih h] at hhead
        cases hhead
      · cases h
    · rw [normalizeLines_cons hc] at h
      cases h

theorem Clean.cr_not_mem {cs : List Char} (h : Clean cs) : '\r' ∉ cs := by
  intro hmem
  have hclean := h _ hmem
  simp [isClean] at hclean

theorem all_isXmlChar_of_clean {cs : List Char} (h : Clean (normalizeLines cs)) : cs.all isXmlChar = true := by
  have hcr : isXmlChar '\r' = true := by decide
  refine List.all_eq_true.mpr fun c hc => ?_
  by_cases heq : c = '\r'
  · rwa [heq]
  · exact isXmlChar_of_isClean (h c (mem_normalizeLines hc heq))

/-! ## Content -/

/-- Content with the line ends of its texts normalized. -/
def Content.normalized : Content → Content
  | done => done
  | char c rest =>
    if c ≠ '\r' then char c rest.normalized
    else if rest.leading.head? = some '\n' then rest.normalized
    else char '\n' rest.normalized
  | element name attrs inner rest => element name attrs inner.normalized rest.normalized

/-- An element with the line ends of its texts normalized. -/
def Element.normalized (e : Element) : Element := ⟨e.name, e.attrs, e.inner.normalized⟩

namespace Content

theorem leading_normalized (k : Content) : k.normalized.leading = normalizeLines k.leading := by
  induction k with
  | done => rfl
  | char c rest ih =>
    by_cases hc : c = '\r'
    · simp only [normalized, hc, ne_eq, not_true_eq_false, if_false, leading, normalizeLines_cr]
      split
      · exact ih
      · simp [leading, ih]
    · simp [normalized, hc, leading, normalizeLines_cons hc, ih]
  | element name attrs inner rest => rfl

theorem elements_normalized (k : Content) : k.normalized.elements = k.elements.map Element.normalized := by
  induction k with
  | done => rfl
  | char c rest ih =>
    simp only [normalized, elements]
    split
    · exact ih
    · split <;> exact ih
  | element name attrs inner rest _ ih => simp [normalized, elements, ih, Element.normalized]

end Content

namespace Element

theorem normalized_text (e : Element) : e.normalized.text = String.ofList (normalizeLines e.text.toList) := by
  simp [text, normalized, Content.leading_normalized]

theorem child?_normalized (e : Element) (name : Name) :
    e.normalized.child? name = (e.child? name).map Element.normalized := by
  have hname : ((fun x => decide (x.name = name)) ∘ Element.normalized) = fun x => decide (x.name = name) := rfl
  unfold child? elements
  rw [show e.normalized.inner = e.inner.normalized from rfl, Content.elements_normalized, List.find?_map, hname]

end Element

section Writing

variable {ps : Prefixes} {scope : Scope}

theorem Content.Writable.normalized {k : Content} (h : k.Writable ps (isXmlChar · = true)) :
    k.normalized.Writable ps (isXmlChar · = true) := by
  induction k with
  | done => trivial
  | char c rest ih =>
    have hlf : isXmlChar '\n' = true := by decide
    unfold Content.normalized
    split
    · exact ⟨h.1, ih h.2⟩
    · split
      · exact ih h.2
      · exact ⟨hlf, ih h.2⟩
  | element name attrs inner rest ihi ihr => exact ⟨h.1, h.2.1, ihi h.2.2.1, ihr h.2.2.2⟩

theorem Element.Writable.normalized {e : Element} (h : e.Writable ps (isXmlChar · = true)) :
    e.normalized.Writable ps (isXmlChar · = true) :=
  ⟨h.name, h.attrs, Content.Writable.normalized h.inner⟩

theorem Content.head?_write (ps : Prefixes) (k : Content) :
    (k.write .plain ps).head? = some '\n' ↔ k.leading.head? = some '\n' := by
  cases k with
  | done => rfl
  | char c rest =>
    have hamp : "&amp;".toList.head? = some '&' ∧ "&lt;".toList.head? = some '&' ∧
      "&gt;".toList.head? = some '&' := by
      decide
    simp only [write, leading, Escapes.plain, escapeMarkup]
    split
    · simp_all
    · split
      · simp_all
      · split <;> simp_all
  | element name attrs inner rest =>
    simp only [write, leading, wrap]
    split <;> simp

theorem escapeText_eq {c : Char} (hc : c ≠ '\r') : escapeText c = escapeMarkup c := if_neg hc

theorem normalizeLines_wrap {name attrs : List Char} (hn : '\r' ∉ name) (ha : '\r' ∉ attrs)
    (inner rest : List Char) :
    normalizeLines (wrap name attrs inner ++ rest) = wrap name attrs (normalizeLines inner) ++ normalizeLines rest := by
  have hempty : (normalizeLines inner).isEmpty = inner.isEmpty := by
    rw [Bool.eq_iff_iff, List.isEmpty_iff, List.isEmpty_iff, normalizeLines_eq_nil_iff]
  have hend : " />".toList = [' ', '/', '>'] := by decide
  unfold wrap
  rw [hempty]
  split
  · exact normalizeLines_append_of_not_mem (by simp [hn, ha, hend]) rest
  · have hopen : '\r' ∉ '<' :: name ++ attrs ++ ['>'] := by simp [hn, ha]
    have hclose : '\r' ∉ '<' :: '/' :: name ++ ['>'] := by simp [hn]
    have hhead : ('<' :: '/' :: name ++ ['>'] ++ rest).head? ≠ some '\n' := by simp
    have hcut := normalizeLines_append inner hhead
    rw [normalizeLines_append_of_not_mem hclose] at hcut
    have hall := normalizeLines_append_of_not_mem hopen (inner ++ ('<' :: '/' :: name ++ ['>'] ++ rest))
    rw [hcut] at hall
    simpa [List.append_assoc] using hall

/-- **Normalizing what is written plainly gives what is written exactly of the normalized content.** -/
theorem Content.normalizeLines_write (hps : ps.Binds (isXmlChar · = true) scope) {k : Content}
    (hk : k.Writable ps (isXmlChar · = true)) :
    normalizeLines (k.write .plain ps) = k.normalized.write .exact ps := by
  induction k with
  | done => rfl
  | char c rest ih =>
    by_cases hc : c = '\r'
    · have hwritten : Escapes.plain.text '\r' = ['\r'] ∧ Escapes.exact.text '\n' = ['\n'] := by decide
      simp only [write, normalized, hc, hwritten, List.singleton_append, normalizeLines_cr, rest.head?_write, ih hk.2,
        ne_eq, not_true_eq_false, if_false]
      split
      · rfl
      · rw [write, hwritten.2, List.singleton_append]
    · have hclean : '\r' ∉ escapeMarkup c :=
        escapeText_eq hc ▸ (Escapes.exact_faithful.text c hk.1).clean.cr_not_mem
      have htext : Escapes.exact.text c = escapeMarkup c := escapeText_eq hc
      rw [write, normalized, if_pos hc, write, htext, ← ih hk.2]
      exact normalizeLines_append_of_not_mem hclean _
  | element name attrs inner rest ihi ihr =>
    obtain ⟨hname, hattrs, hinner, hrest⟩ := hk
    have hn : '\r' ∉ ps.write name := hps.write_eq hname ▸ (hps.clean_raw hname).cr_not_mem
    have ha : '\r' ∉ writeAttrs .plain ps attrs := (hattrs.clean hps Escapes.exact_faithful).cr_not_mem
    rw [write, normalizeLines_wrap hn ha, ihi hinner, ihr hrest]
    rfl

/-- **A document that is written plainly reads back with its line ends normalized.** -/
theorem Document.read_plain (hps : ps.Binds (isXmlChar · = true) scope) {root : Element}
    (hr : root.Writable ps (isXmlChar · = true)) :
    Document.read (octets (Document.write .plain ps root)) = .ok (some root.normalized) := by
  have hn : '\r' ∉ ps.write root.name := hps.write_eq hr.name ▸ (hps.clean_raw hr.name).cr_not_mem
  have ha : '\r' ∉ ps.declarations .plain ++ writeAttrs .plain ps root.attrs := by
    rw [List.mem_append, not_or]
    exact ⟨Prefixes.declarations_eq .exact ps ▸ (hps.clean_declared Escapes.exact_faithful).cr_not_mem,
      (hr.attrs.clean hps Escapes.exact_faithful).cr_not_mem⟩
  have hlines : normalizeLines (root.chars .plain ps) = root.normalized.chars .exact ps := by
    have hwrap := normalizeLines_wrap hn ha (root.inner.write .plain ps) []
    rw [List.append_nil, Content.normalizeLines_write hps hr.inner] at hwrap
    exact hwrap.trans (List.append_nil _)
  have hclean := root.normalized.clean_chars hps Escapes.exact_faithful hr.normalized
  have hself := normalizeLines_eq_self hclean.cr_not_mem
  have hexact := Document.read_write hps Escapes.exact_faithful hr.normalized
  -- both documents are read from the same normalized characters
  rw [show Document.write .exact ps root.normalized =
    String.ofList (declaration ++ root.normalized.chars .exact ps) from rfl, read_declared,
    if_pos (all_isXmlChar_of_clean (by rwa [hself])), hself] at hexact
  rw [show Document.write .plain ps root = String.ofList (declaration ++ root.chars .plain ps) from rfl, read_declared,
    if_pos (all_isXmlChar_of_clean (by rwa [hlines])), hlines]
  exact hexact

end Writing

end MailboxSync.Xml
