import MailboxSync.Proofs.Doctypes
import MailboxSync.Proofs.Envelopes
import MailboxSync.Proofs.LineEnds
import MailboxSync.Proofs.Receiving

/-!
# The texts of replies

Whatever octets a server sends: if they are a document, every text found in it could stand in a document again.  So a
token, a folder or an id that came with a reply can be written into a request.

* `Content.Admitted`, `Element.Admitted` — content whose texts and attribute values may stand in a document;
* `Document.admitted_of_read` — **the root of every document is such an element**;
* `Response.legal_of_ofBody` — so are the texts of a response found in it;
* `Http.Exchange.legal_of_outcome` — **so are those of a reply over HTTP.**
-/

namespace MailboxSync

open Xml Soap

namespace Xml

/-! ## Names resolved -/

def Piece.Admitted : Piece → Prop
  | .char c => isXmlChar c = true
  | .start _ attrs => AttrsAdmitted attrs
  | .stop => True

/-- Resolving names leaves the values of attributes as they are. -/
theorem Scope.admitted_of_attributes {scope : Scope} {attrs : List RawAttr} {attrs' : List Attr}
    (ha : AttrsAdmitted attrs) (h : scope.attributes attrs = some attrs') : AttrsAdmitted attrs' := by
  induction attrs generalizing attrs' with
  | nil =>
    cases h
    exact attrsAdmitted_nil
  | cons a attrs ih =>
    obtain ⟨name, value⟩ := a
    obtain ⟨hvalue, hrest⟩ := attrsAdmitted_cons.mp ha
    have hcons {n : Name} (h : (scope.attributes attrs).map ((n, value) :: ·) = some attrs') :
      AttrsAdmitted attrs' := by
      obtain ⟨as, has, rfl⟩ := Option.map_eq_some_iff.mp h
      exact attrsAdmitted_cons.mpr ⟨hvalue, ih hrest has⟩
    unfold attributes at h
    split at h
    · exact ih hrest h
    · split at h
      · exact hcons h
      · split at h
        · cases h
        · exact hcons h

/-- **One token.** -/
theorem Resolver.admitted_of_step {r r' : Resolver} {t : Token} (hr : ∀ p ∈ r.found, p.Admitted) (ht : t.Admitted)
    (h : r.step t = some r') : ∀ p ∈ r'.found, p.Admitted := by
  cases t with
  | char c =>
    simp only [step] at h
    split_ifs at h
    · exact Option.some.inj h ▸ hr
    · cases h
      exact List.forall_mem_cons.mpr ⟨ht, hr⟩
  | inside =>
    simp only [step] at h
    split_ifs at h
    exact Option.some.inj h ▸ hr
  | stop name =>
    simp only [step] at h
    split at h
    · split_ifs at h
      cases h
      exact List.forall_mem_cons.mpr ⟨trivial, hr⟩
    · cases h
  | start name attrs =>
    simp only [step] at h
    split at h
    · cases h
    · split at h
      · cases h
      · split at h
        · rename_i hattrs
          split_ifs at h
          cases h
          exact List.forall_mem_cons.mpr ⟨Scope.admitted_of_attributes ht hattrs, hr⟩
        · cases h

/-! ## Content -/

/-- Content of admitted texts and attribute values. -/
def Content.Admitted : Content → Prop
  | .done => True
  | .char c rest => isXmlChar c = true ∧ rest.Admitted
  | .element _ attrs inner rest => AttrsAdmitted attrs ∧ inner.Admitted ∧ rest.Admitted

/-- An element of such. -/
structure Element.Admitted (e : Element) : Prop where
  attrs : AttrsAdmitted e.attrs
  inner : e.inner.Admitted

namespace Content

variable {k : Content}

theorem Admitted.leading (h : k.Admitted) : Xml.Admitted k.leading := by
  induction k with
  | done => exact admitted_nil
  | char c rest ih => exact admitted_cons.mpr ⟨h.1, ih h.2⟩
  | element name attrs inner rest => exact admitted_nil

theorem Admitted.elements (h : k.Admitted) : ∀ e ∈ k.elements, e.Admitted := by
  induction k with
  | done => exact List.forall_mem_nil _
  | char c rest ih => exact ih h.2
  | element name attrs inner rest _ ih => exact List.forall_mem_cons.mpr ⟨⟨h.1, h.2.1⟩, ih h.2.2⟩

theorem admitted_of_before {p : Piece} (hp : p.Admitted) {above above' : List Content} {k' : Content} (hk : k.Admitted)
    (ha : ∀ a ∈ above, a.Admitted) (h : p.before (k, above) = some (k', above')) :
    k'.Admitted ∧ ∀ a ∈ above', a.Admitted := by
  cases p with
  | char c =>
    cases h
    exact ⟨⟨hp, hk⟩, ha⟩
  | stop =>
    cases h
    exact ⟨trivial, List.forall_mem_cons.mpr ⟨hk, ha⟩⟩
  | start name attrs =>
    cases above with
    | nil => cases h
    | cons next above =>
      cases h
      exact ⟨⟨hp, hk, ha _ List.mem_cons_self⟩, fun a hmem => ha a (List.mem_cons_of_mem _ hmem)⟩

theorem admitted_of_prepend {ps : List Piece} (hps : ∀ p ∈ ps, p.Admitted) {s : Content × List Content}
    (h : prepend ps (.done, []) = some s) : s.1.Admitted ∧ ∀ a ∈ s.2, a.Admitted := by
  induction ps generalizing s with
  | nil =>
    cases h
    exact ⟨trivial, List.forall_mem_nil _⟩
  | cons p ps ih =>
    rw [prepend_cons] at h
    obtain ⟨⟨k, above⟩, hrest, hbefore⟩ := Option.bind_eq_some_iff.mp h
    obtain ⟨hk, ha⟩ := ih (fun q hq => hps q (List.mem_cons_of_mem _ hq)) hrest
    exact admitted_of_before (hps p List.mem_cons_self) hk ha hbefore

/-- **The content of admitted tokens is admitted.** -/
theorem admitted_of_ofTokens {tokens : List Token} (ht : ∀ t ∈ tokens, t.Admitted)
    (h : ofTokens tokens = some k) : k.Admitted := by
  unfold ofTokens at h
  split at h
  · rename_i r hresolve
    have hr : ∀ p ∈ r.found, p.Admitted :=
      foldlM_induction (P := fun r : Resolver => ∀ p ∈ r.found, p.Admitted)
        (fun _ _ t hmem hr hstep => Resolver.admitted_of_step hr (ht t hmem) hstep) (List.forall_mem_nil _) hresolve
    split_ifs at h
    unfold ofPieces at h
    split at h
    · rename_i hprepend
      cases h
      exact (admitted_of_prepend (fun p hp => hr p (List.mem_reverse.mp hp)) hprepend).1
    · cases h
  · cases h

end Content

namespace Element

variable {e e' : Element} {name : Name}

theorem Admitted.text (h : e.Admitted) : Xml.Legal (isXmlChar · = true) e.text := by
  unfold Xml.Legal Element.text
  rw [String.toList_ofList]
  exact h.inner.leading

theorem Admitted.elements (h : e.Admitted) : ∀ c ∈ e.elements, c.Admitted := h.inner.elements

theorem Admitted.children (h : e.Admitted) (name : Name) : ∀ c ∈ e.children name, c.Admitted :=
  fun c hc => h.elements c (List.mem_of_mem_filter hc)

theorem Admitted.child? (h : e.Admitted) (hc : e.child? name = some e') : e'.Admitted :=
  h.elements e' (List.mem_of_find?_eq_some hc)

theorem Admitted.attr? (h : e.Admitted) {value : String} (hv : e.attr? name = some value) :
    Xml.Legal (isXmlChar · = true) value := by
  obtain ⟨before, after, heq, -⟩ := List.lookup_eq_some_iff.mp hv
  exact h.attrs (name, value) (heq ▸ List.mem_append_right _ List.mem_cons_self)

end Element

/-! ## Documents -/

theorem Document.admitted_of_ofChars {standalone : Bool} {cs : List Char} (hcs : Admitted cs) {k : Content}
    (h : ofChars standalone cs = some k) : k.Admitted := by
  unfold ofChars at h
  split at h
  · obtain ⟨tokens, htokens, hk⟩ := Option.bind_eq_some_iff.mp h
    exact Content.admitted_of_ofTokens (Token.admitted_of_ofChars Declarations.admitted_none hcs htokens) hk
  · rename_i hlocate
    obtain ⟨hbefore, hafter⟩ := Doctype.admitted_of_locate admitted_nil hcs hlocate
    split at h
    · cases h
    · rename_i hread
      obtain ⟨hd, hrest⟩ := Doctype.admitted_of_read hafter hread
      obtain ⟨tokens, htokens, hk⟩ := Option.bind_eq_some_iff.mp h
      exact Content.admitted_of_ofTokens
        (Token.admitted_of_ofChars hd.toDeclarations (admitted_append.mpr ⟨hbefore, hrest⟩) htokens) hk

theorem admitted_of_decodeDocument {bytes : List UInt8} {cs : List Char} {standalone : Bool}
    (h : decodeDocument bytes = .ok (some (cs, standalone))) : Admitted cs := by
  unfold decodeDocument at h
  dsimp only at h
  split at h
  · cases h
  · split at h
    · cases h
    · cases h
    · split at h
      · split_ifs at h with hall
        · cases h
          exact List.all_eq_true.mp hall
        · cases h
      · cases h

/-- **Whatever octets a document is read from, its texts and values could stand in a document.** -/
theorem Document.admitted_of_read {bytes : List UInt8} {root : Element} (h : Document.read bytes = .ok (some root)) :
    root.Admitted := by
  unfold Document.read at h
  split at h
  · cases h
  · cases h
  · rename_i cs standalone hdecode
    have hcs := admitted_of_decodeDocument hdecode
    have hlines : Admitted (normalizeLines cs) := by
      intro c hc
      rcases mem_of_mem_normalizeLines hc with hc | rfl
      · exact hcs c hc
      · decide
    obtain ⟨k, hk, hroot⟩ := Option.bind_eq_some_iff.mp (Except.ok.inj h)
    exact (admitted_of_ofChars hlines hk).elements root (List.mem_of_head? hroot)

end Xml

/-! ## Responses -/

section Responses

variable {e : Element}

theorem legal_of_childText? {name : Name} {s : String} (he : e.Admitted) (h : childText? e name = some s) :
    Xml.Legal (isXmlChar · = true) s := by
  obtain ⟨c, hc, rfl⟩ := Option.map_eq_some_iff.mp h
  exact (he.child? hc).text

theorem legal_of_id? {s : String} (he : e.Admitted) (h : id? e = some s) : Xml.Legal (isXmlChar · = true) s := by
  unfold id? at h
  split at h
  · rename_i hattr
    split_ifs at h
    cases h
    exact he.attr? hattr
  · cases h

theorem legal_of_childId {name : Name} {s : String} (he : e.Admitted) (h : (e.child? name).bind id? = some s) :
    Xml.Legal (isXmlChar · = true) s := by
  obtain ⟨c, hc, hid⟩ := Option.bind_eq_some_iff.mp h
  exact legal_of_id? (he.child? hc) hid

theorem legal_of_itemIds {s : String} (he : e.Admitted) (h : s ∈ itemIds e) : Xml.Legal (isXmlChar · = true) s := by
  obtain ⟨item, hitem, hid⟩ := List.mem_filterMap.mp h
  exact legal_of_childId (he.elements item hitem) hid

theorem legal_of_folderIds {s : String} (he : e.Admitted) (h : s ∈ folderIds e) :
    Xml.Legal (isXmlChar · = true) s := by
  obtain ⟨folder, hfolder, hid⟩ := List.mem_filterMap.mp h
  exact legal_of_childId (he.elements folder hfolder) hid

theorem Changes.legal_of_ofElement (he : e.Admitted) :
    ∀ id ∈ (ofElement e).created ++ (ofElement e).updated ++ (ofElement e).deleted,
      Xml.Legal (isXmlChar · = true) id := by
  intro id hid
  simp only [ofElement, List.mem_append, List.mem_flatMap, List.mem_filterMap] at hid
  rcases hid with (⟨change, hchange, hid⟩ | ⟨change, hchange, hid⟩) | ⟨change, hchange, hid⟩
  · exact legal_of_itemIds (he.children _ change hchange) hid
  · exact legal_of_itemIds (he.children _ change hchange) hid
  · exact legal_of_childId (he.children _ change hchange) hid

theorem admitted_of_messageElements {tag : String} (he : e.Admitted) : ∀ m ∈ messageElements e tag, m.Admitted := by
  intro m hm
  obtain ⟨ms, hms, hm⟩ := List.mem_flatMap.mp hm
  exact (he.children _ ms hms).children _ m hm

/-- **The texts of a response are those of its document.** -/
theorem Response.legal_of_ofBody {op : Operation} {r : Response} (he : e.Admitted) (h : ofBody op e = some r) :
    r.Legal (isXmlChar · = true) := by
  cases op with
  | find =>
    obtain ⟨c, hc, rfl⟩ := Option.map_eq_some_iff.mp h
    intro m hm
    obtain ⟨me, hme, rfl⟩ := List.mem_map.mp hm
    have hadmitted := admitted_of_messageElements (he.child? hc) me hme
    refine ⟨fun s hs => legal_of_childText? hadmitted hs, fun s hs => legal_of_childText? hadmitted hs,
      fun ids hids id hid => ?_⟩
    obtain ⟨folders, hfolders, rfl⟩ := Option.map_eq_some_iff.mp hids
    obtain ⟨root, hroot, hchild⟩ := List.exists_of_findSome?_eq_some hfolders
    exact legal_of_folderIds ((hadmitted.children _ root hroot).child? hchild) hid
  | sync =>
    obtain ⟨c, hc, rfl⟩ := Option.map_eq_some_iff.mp h
    intro m hm
    obtain ⟨me, hme, rfl⟩ := List.mem_map.mp hm
    have hadmitted := admitted_of_messageElements (he.child? hc) me hme
    refine ⟨fun s hs => legal_of_childText? hadmitted hs, fun s hs => legal_of_childText? hadmitted hs,
      fun s hs => legal_of_childText? hadmitted hs, fun changes hchanges id hid => ?_⟩
    obtain ⟨ce, hce, rfl⟩ := Option.map_eq_some_iff.mp hchanges
    exact Changes.legal_of_ofElement (hadmitted.child? hce) id hid

end Responses

theorem admitted_of_readBody {bytes : ByteArray} {body : Element} (h : readBody bytes = .ok body) : body.Admitted := by
  unfold readBody at h
  split at h
  · cases h
  · cases h
  · rename_i hread
    split_ifs at h
    split at h
    · rename_i hbody
      cases h
      exact (Document.admitted_of_read hread).child? hbody
    · cases h

/-- **The texts of a response over HTTP could be written into a request.** -/
theorem Http.Exchange.legal_of_outcome {request : Request} {x : Exchange} {r : Response}
    (h : x.outcome request = .ok (some r)) : r.Legal (isXmlChar · = true) := by
  cases x with
  | replied status contentType body =>
    simp only [outcome] at h
    split at h
    · cases h
    · split_ifs at h
      cases hbody : readBody body with
      | error trouble => simp [hbody, Except.bind] at h
      | ok element =>
        simp only [hbody, Except.bind] at h
        have helement := admitted_of_readBody hbody
        cases request with
        | find q => exact Response.legal_of_ofBody helement (Except.ok.inj h)
        | sync q => exact Response.legal_of_ofBody helement (Except.ok.inj h)
        | other typeName => cases h
  | _ => cases h

end MailboxSync
