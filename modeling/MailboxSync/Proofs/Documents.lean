import MailboxSync.Proofs.Octets
import MailboxSync.Proofs.Scanning
import MailboxSync.Xml.Document

/-!
# Documents read back

* `Content.resolves` — the tokens of content inside an element are resolved to its pieces;
* `Element.ofTokens` — the tokens of a root, its declarations included, make up the root;
* `decodeDocument_declared` — behind the declaration every document is written with, characters are found as they are;
* `Document.read_write` — **a document reads back as its root**.
-/

namespace MailboxSync.Xml

section Names

variable {ps : Prefixes} {legal : Char → Prop} {scope : Scope} {e : Escapes}

/-! ## Resolving names -/

theorem Scope.declare_append (s : Scope) (as bs : List RawAttr) :
    s.declare (as ++ bs) = (s.declare as).bind (·.declare bs) := by
  induction as generalizing s with
  | nil => rfl
  | cons a as ih =>
    obtain ⟨name, value⟩ := a
    simp only [List.cons_append, declare]
    cases declared? name with
    | none => exact ih s
    | some lead =>
      simp only
      split
      · exact ih _
      · rfl

theorem Scope.declare_of_own (s : Scope) {as : List RawAttr} (h : ∀ a ∈ as, declared? a.1 = none) :
    s.declare as = some s := by
  induction as with
  | nil => rfl
  | cons a as ih =>
    obtain ⟨name, value⟩ := a
    have hname : declared? name = none := h _ List.mem_cons_self
    simp only [declare, hname]
    exact ih fun b hb => h b (List.mem_cons_of_mem _ hb)

theorem Prefixes.declared?_declared {a : RawAttr} (h : a ∈ Prefixes.declared ps) :
    (Scope.declared? a.1).isSome = true := by
  obtain ⟨p, -, rfl⟩ := List.mem_map.mp h
  simp [Scope.declared?]

theorem Prefixes.Binds.declared?_raw (hps : ps.Binds legal scope) {n : Name} (hn : n.Writable ps)
    (hown : n ≠ ⟨"", "xmlns"⟩) : Scope.declared? (ps.raw n) = none := by
  by_cases hs : n.space = ""
  · have htag : n.tag ≠ "xmlns" := by
      rintro h
      exact hown (by cases n; simp_all)
    simp [Scope.declared?, raw, hs, htag]
  · have hlead : (ps.raw n).lead ≠ "xmlns" := hps.own _ (hn.raw_mem hs)
    simp [Scope.declared?, hlead, hps.lead_ne_empty hn hs]

theorem Scope.attributes_declared (s : Scope) {ds as : List RawAttr} (h : ∀ a ∈ ds, (declared? a.1).isSome = true) :
    s.attributes (ds ++ as) = s.attributes as := by
  induction ds with
  | nil => rfl
  | cons d ds ih =>
    obtain ⟨name, value⟩ := d
    simp only [List.cons_append, attributes]
    rw [if_pos (h _ List.mem_cons_self)]
    exact ih fun b hb => h b (List.mem_cons_of_mem _ hb)

theorem Prefixes.Binds.attributes_raw (hps : ps.Binds legal scope) {attrs : List Attr}
    (hn : ∀ a ∈ attrs, a.1.Writable ps) (hown : ∀ a ∈ attrs, a.1 ≠ ⟨"", "xmlns"⟩) :
    scope.attributes (attrs.map ps.rawAttr) = some attrs := by
  induction attrs with
  | nil => rfl
  | cons a attrs ih =>
    have hrest := ih (fun b hb => hn b (List.mem_cons_of_mem _ hb)) fun b hb => hown b (List.mem_cons_of_mem _ hb)
    have ha := hn a List.mem_cons_self
    have hdeclared := hps.declared?_raw ha (hown a List.mem_cons_self)
    obtain ⟨n, value⟩ := a
    simp only [List.map_cons, Prefixes.rawAttr, Scope.attributes, hdeclared]
    by_cases hs : n.space = ""
    · have hlead : (ps.raw n).lead = "" := by simp [Prefixes.raw, hs]
      have hname : (⟨"", (ps.raw n).tag⟩ : Name) = n := by rw [← hs]; rfl
      simp [hlead, hrest, hname]
    · have hname : (⟨n.space, (ps.raw n).tag⟩ : Name) = n := rfl
      simp [hps.lead_ne_empty ha hs, hps.lookup _ (ha.raw_mem hs), hrest, hname]

/-! ## Resolving content -/

theorem Escapes.resolves (e : Escapes) (c : Char) (o : RawName × Scope) (above : List (RawName × Scope))
    (rooted : Bool) (found : List Piece) :
    (e.tokens c).foldlM Resolver.step ⟨o :: above, rooted, found⟩ =
      some ⟨o :: above, rooted, .char c :: found⟩ := by
  unfold tokens
  split <;> rfl

theorem Prefixes.Binds.step_start (hps : ps.Binds legal scope) {n : Name} (hn : n.Writable ps) {attrs : List Attr}
    (ha : Attrs.Writable ps legal attrs) (o : RawName) (above : List (RawName × Scope)) (found : List Piece) :
    Resolver.step ⟨(o, scope) :: above, true, found⟩ (.start (ps.raw n) (attrs.map ps.rawAttr)) =
      some ⟨(ps.raw n, scope) :: (o, scope) :: above, true, .start n attrs :: found⟩ := by
  have hdeclare : scope.declare (attrs.map ps.rawAttr) = some scope := by
    refine scope.declare_of_own fun a h => ?_
    obtain ⟨b, hb, rfl⟩ := List.mem_map.mp h
    exact hps.declared?_raw (ha.name b hb) (ha.own b hb)
  simp only [Resolver.step, Resolver.scope, hdeclare, hps.element_raw hn, hps.attributes_raw ha.name ha.own,
    if_pos ha.nodup]
  rfl

/-- **The tokens of content inside an element are resolved to its pieces.** -/
theorem Content.resolves (hps : ps.Binds legal scope) {k : Content} (hk : k.Writable ps legal) (o : RawName)
    (above : List (RawName × Scope)) (found : List Piece) :
    (k.tokens e ps).foldlM Resolver.step ⟨(o, scope) :: above, true, found⟩ =
      some ⟨(o, scope) :: above, true, k.pieces.reverse ++ found⟩ := by
  induction k generalizing o above found with
  | done => rfl
  | char c rest ih =>
    rw [tokens, List.foldlM_append, e.resolves]
    simpa [pieces] using ih hk.2 o above (.char c :: found)
  | element name attrs inner rest ihi ihr =>
    obtain ⟨hname, hattrs, hinner, hrest⟩ := hk
    have hstop (found : List Piece) : Resolver.step ⟨(ps.raw name, scope) :: (o, scope) :: above, true, found⟩
        (.stop (ps.raw name)) = some ⟨(o, scope) :: above, true, .stop :: found⟩ := by
      simp [Resolver.step]
    rw [tokens, List.foldlM_cons, hps.step_start hname hattrs]
    simp only [Option.bind_eq_bind, Option.bind_some]
    rw [List.foldlM_append, ihi hinner]
    simp only [Option.bind_eq_bind, Option.bind_some]
    rw [List.foldlM_cons, hstop]
    simpa [pieces] using ihr hrest o above _

/-! ## The root -/

/-- The tokens of a root, its declarations included. -/
def Element.tokens (e : Escapes) (ps : Prefixes) (root : Element) : List Token :=
  .start (ps.raw root.name) (ps.declared ++ root.attrs.map ps.rawAttr) ::
    (root.inner.tokens e ps ++ [.stop (ps.raw root.name)])

theorem Content.append_done (k : Content) : k.append .done = k := by
  induction k with
  | done => rfl
  | char c rest ih => rw [append, ih]
  | element name attrs inner rest _ ih => rw [append, ih]

theorem Content.ofPieces_pieces (k : Content) : ofPieces k.pieces = some k := by
  rw [ofPieces, prepend_pieces, append_done]

/-- **The tokens of a root make it up.** -/
theorem Element.ofTokens (hps : ps.Binds legal scope) {root : Element} (hr : root.Writable ps legal) :
    Content.ofTokens (root.tokens e ps) = some root.content := by
  have hdeclare : Scope.initial.declare (ps.declared ++ root.attrs.map ps.rawAttr) = some scope := by
    rw [Scope.declare_append, hps.declare]
    refine scope.declare_of_own fun a h => ?_
    obtain ⟨b, hb, rfl⟩ := List.mem_map.mp h
    exact hps.declared?_raw (hr.attrs.name b hb) (hr.attrs.own b hb)
  have hattrs : scope.attributes (ps.declared ++ root.attrs.map ps.rawAttr) = some root.attrs := by
    rw [scope.attributes_declared fun a h => Prefixes.declared?_declared h]
    exact hps.attributes_raw hr.attrs.name hr.attrs.own
  have hstart : Resolver.step {} (.start (ps.raw root.name) (ps.declared ++ root.attrs.map ps.rawAttr)) =
      some ⟨[(ps.raw root.name, scope)], true, [.start root.name root.attrs]⟩ := by
    simp only [Resolver.step, Resolver.scope, hdeclare, hps.element_raw hr.name, hattrs, if_pos hr.attrs.nodup]
    rfl
  have hstop (found : List Piece) : Resolver.step ⟨[(ps.raw root.name, scope)], true, found⟩
      (.stop (ps.raw root.name)) = some ⟨[], true, .stop :: found⟩ := by
    simp [Resolver.step]
  have hpieces : (Piece.stop :: (root.inner.pieces.reverse ++ [.start root.name root.attrs])).reverse =
      root.content.pieces := by
    simp [Element.content, Content.pieces]
  unfold Content.ofTokens Element.tokens
  rw [List.foldlM_cons, hstart]
  simp only [Option.bind_eq_bind, Option.bind_some]
  rw [List.foldlM_append, Content.resolves hps hr.inner]
  simp only [Option.bind_eq_bind, Option.bind_some, List.foldlM_cons, hstop, List.foldlM_nil]
  simp only [Option.pure_def, List.isEmpty_nil, Bool.and_self, if_true, hpieces]
  exact Content.ofPieces_pieces _

/-- The characters of a root as it is written, behind the declaration. -/
def Element.chars (e : Escapes) (ps : Prefixes) (root : Element) : List Char :=
  wrap (ps.write root.name) (ps.declarations e ++ writeAttrs e ps root.attrs) (root.inner.write e ps)

theorem Element.chars_eq (hps : ps.Binds legal scope) {root : Element} (hr : root.Writable ps legal) :
    root.chars e ps = wrap (ps.raw root.name).chars
      ((ps.declared ++ root.attrs.map ps.rawAttr).flatMap (RawName.writeAttr e)) (root.inner.write e ps) := by
  rw [chars, hps.write_eq hr.name, Prefixes.declarations_eq, hps.writeAttrs_eq e hr.attrs.name, List.flatMap_append]

theorem Element.clean_chars (hps : ps.Binds legal scope) (he : e.Faithful legal) {root : Element}
    (hr : root.Writable ps legal) : Clean (root.chars e ps) := by
  rw [chars, hps.write_eq hr.name, Prefixes.declarations_eq]
  exact clean_wrap (hps.clean_raw hr.name) (clean_append.mpr ⟨hps.clean_declared he, hr.attrs.clean hps he⟩)
    (Content.clean_write hps he hr.inner)

theorem Element.nodup_declared (hps : ps.Binds legal scope) {root : Element} (hr : root.Writable ps legal) :
    ((ps.declared ++ root.attrs.map ps.rawAttr).map (·.1)).Nodup := by
  have hdeclared : (ps.declared.map (·.1)).Nodup := by
    have hmap : ps.declared.map (·.1) = (ps.map (·.1)).map (RawName.mk "xmlns") := by simp [Prefixes.declared]
    rw [hmap]
    exact hps.nodup.map_on fun a _ b _ h => (RawName.mk.inj h).2
  rw [List.map_append, List.nodup_append]
  refine ⟨hdeclared, (hr.attrs.raw hps).2, fun n hn n' hn' heq => ?_⟩
  obtain ⟨a, ha, rfl⟩ := List.mem_map.mp hn
  obtain ⟨b, hb, rfl⟩ := List.mem_map.mp hn'
  obtain ⟨c, hc, rfl⟩ := List.mem_map.mp hb
  have hsome := Prefixes.declared?_declared ha
  rw [heq, Prefixes.rawAttr, hps.declared?_raw (hr.attrs.name c hc) (hr.attrs.own c hc)] at hsome
  cases hsome

theorem Element.ofChars_chars (hps : ps.Binds legal scope) (he : e.Faithful legal) {root : Element}
    (hr : root.Writable ps legal) : Token.ofChars .none (root.chars e ps) = some (root.tokens e ps) := by
  have hplain : ∀ a ∈ ps.declared ++ root.attrs.map ps.rawAttr, a.1.Plain ∧ ∀ c ∈ a.2.toList, legal c := by
    intro a ha
    rcases List.mem_append.mp ha with ha | ha
    · obtain ⟨p, hp, rfl⟩ := List.mem_map.mp ha
      have hxmlns : isPlainName "xmlns".toList = true := by decide
      exact ⟨⟨.inr hxmlns, hps.plain p hp⟩, hps.legal p hp⟩
    · exact (hr.attrs.raw hps).1 a ha
  have hread := Scan.reads_wrap he (hps.plain_raw hr.name) hplain (Element.nodup_declared hps hr)
    (Content.reads hps he hr.inner) 0 []
  rw [← Element.chars_eq hps hr] at hread
  unfold Token.ofChars
  rw [hread]
  simp [Scan.finish, Element.tokens]

end Names

/-! ## The declaration -/

theorem untilMark_append {cs : List Char} (h : '?' ∉ cs) (rest : List Char) :
    untilMark (cs ++ '?' :: '>' :: rest) = some cs := by
  induction cs with
  | nil => rfl
  | cons c cs ih =>
    have hc : c ≠ '?' := fun heq => h (heq ▸ List.mem_cons_self)
    rw [List.cons_append, untilMark]
    · rw [ih fun hx => h (List.mem_cons_of_mem _ hx)]
      rfl
    · intro x hx
      exact absurd hx hc

/-- What stands in the declaration between its marks. -/
def Document.declarationBody : List Char := " version=\"1.0\" encoding=\"utf-8\"".toList

theorem Prolog.ofChars?_declaration (rest : List Char) :
    Prolog.ofChars? (Document.declaration ++ rest) = some ({ encoding := some "utf-8" }, 38) := by
  have hsplit : Document.declaration ++ rest =
      '<' :: '?' :: 'x' :: 'm' :: 'l' :: ' ' :: (Document.declarationBody.tail ++ '?' :: '>' :: rest) := by
    have h : Document.declaration =
        '<' :: '?' :: 'x' :: 'm' :: 'l' :: ' ' :: (Document.declarationBody.tail ++ ['?', '>']) := by decide
    rw [h]
    simp
  have hbody : ' ' :: (Document.declarationBody.tail ++ '?' :: '>' :: rest) =
      Document.declarationBody ++ '?' :: '>' :: rest := by
    have h : Document.declarationBody = ' ' :: Document.declarationBody.tail := by decide
    rw [h]
    rfl
  have hread : Prolog.ofBody? Document.declarationBody = some { encoding := some "utf-8" } := by decide
  have hlength : Document.declarationBody.length + 7 = 38 := by decide
  have hspace : isSpace ' ' = true := by decide
  rw [hsplit, Prolog.ofChars?, if_pos hspace, hbody, untilMark_append (by decide)]
  simp only [hread, Option.map_some, hlength]

theorem Encoding.decode_octets (s : String) : Encoding.utf8.decode (octets s) = some s.toList := by
  have hbytes : (⟨(octets s).toArray⟩ : ByteArray) = s.toByteArray := by
    rw [octets_eq]
  have hread : String.fromUTF8? s.toByteArray = some s := dif_pos s.isValidUTF8
  simp only [Encoding.decode, hbytes, hread, Option.map_some]

/-- **Behind the declaration characters are found as they are**, unless no document may hold one of them. -/
theorem decodeDocument_declared (cs : List Char) :
    decodeDocument (octets (String.ofList (Document.declaration ++ cs))) =
      .ok (if cs.all isXmlChar then some (cs, false) else none) := by
  have hsplit : octets (String.ofList (Document.declaration ++ cs)) =
      octets (String.ofList Document.declaration) ++ octets (String.ofList cs) := by
    rw [String.ofList_append, octets_append]
  generalize hrest : octets (String.ofList cs) = rest at hsplit
  have hbegin : octets (String.ofList Document.declaration) =
      60 :: 63 :: (octets (String.ofList Document.declaration)).drop 2 := by decide +kernel
  have hguess : Family.guess (octets (String.ofList Document.declaration) ++ rest) =
      (.octets, octets (String.ofList Document.declaration) ++ rest) := by
    rw [hbegin]
    rfl
  have hpeek : Family.octets.peek (octets (String.ofList Document.declaration) ++ rest) =
      Document.declaration ++ rest.map fun b => Char.ofNat b.toNat := by
    have hmap : (octets (String.ofList Document.declaration)).map (fun b => Char.ofNat b.toNat) =
        Document.declaration := by decide +kernel
    rw [Family.peek, List.map_append, hmap]
  have hdrop : (octets (String.ofList Document.declaration) ++ rest).drop (38 * Family.octets.width) = rest :=
    List.drop_left' (by decide +kernel)
  have hnamed : Encoding.named .octets "utf-8" = .ok (some .utf8) := by decide
  have hdecode : Encoding.utf8.decode rest = some cs := by
    rw [← hrest, Encoding.decode_octets, String.toList_ofList]
  rw [hsplit]
  unfold decodeDocument
  rw [hguess]
  simp only [hpeek, Prolog.ofChars?_declaration, hnamed, hdrop, hdecode]

/-! ## Documents -/

section Documents

variable {ps : Prefixes} {legal : Char → Prop} {scope : Scope} {e : Escapes}

theorem Doctype.locate_element {c : Char} (h : isNameStart c = true) (fuel : Nat) (before rest : List Char) :
    Doctype.locate fuel before ('<' :: c :: rest) = none := by
  have hbang : c ≠ '!' := Scan.ne_of_isNameStart h (by simp)
  have hmark : c ≠ '?' := Scan.ne_of_isNameStart h (by simp)
  cases fuel with
  | zero => rfl
  | succ fuel =>
    unfold Doctype.locate
    split
    · rename_i heq; cases heq; exact absurd rfl hbang
    · rename_i heq; cases heq; exact absurd rfl hmark
    · rename_i heq; cases heq; exact absurd rfl hbang
    · rename_i heq
      cases heq
      exact if_neg (by decide)
    · rfl

theorem Document.read_declared (cs : List Char) :
    Document.read (octets (String.ofList (declaration ++ cs))) =
      .ok (if cs.all isXmlChar then (ofChars false (normalizeLines cs)).bind fun k => k.elements.head? else none) := by
  unfold Document.read
  rw [decodeDocument_declared]
  cases cs.all isXmlChar <;> rfl

/-- **A document reads back as its root.** -/
theorem Document.read_write (hps : ps.Binds legal scope) (he : e.Faithful legal) {root : Element}
    (hr : root.Writable ps legal) : Document.read (octets (Document.write e ps root)) = .ok (some root) := by
  have hclean := root.clean_chars hps he hr
  have hcr : '\r' ∉ root.chars e ps := by
    intro hmem
    have h := hclean _ hmem
    simp [isClean] at h
  have hlocate (fuel : Nat) : Doctype.locate fuel [] (root.chars e ps) = none := by
    obtain ⟨c, cs, hchars, hc, -⟩ := (hps.plain_raw hr.name).spelled
    rw [root.chars_eq hps hr, wrap, hchars]
    split <;> exact Doctype.locate_element hc _ _ _
  have hread : Document.ofChars false (root.chars e ps) = some root.content := by
    unfold Document.ofChars
    rw [hlocate]
    simp only
    rw [root.ofChars_chars hps he hr]
    exact root.ofTokens hps hr
  have hchars : (root.chars e ps).all isXmlChar = true :=
    List.all_eq_true.mpr fun c hc => isXmlChar_of_isClean (hclean c hc)
  rw [show Document.write e ps root = String.ofList (declaration ++ root.chars e ps) from rfl, read_declared,
    if_pos hchars, normalizeLines_eq_self hcr, hread]
  rfl

end Documents

end MailboxSync.Xml
