import MailboxSync.Proofs.Envelopes
import MailboxSync.Proofs.LineEnds

/-!
# Tokens in envelopes

What a reader of documents finds of the token in the envelope of a sync request.

* `Xml.asRead` — a text with its line ends normalized;
* `sentToken?` — the text of the token's element, the empty token for an envelope without one;
* `sentToken?_write` — **it is the token as a reader takes it**, if the user's name can stand in a document;
* `sentToken?_eq_some_iff` — **so it is the token itself exactly if it holds no carriage return.**
-/

namespace MailboxSync

open Xml Soap

/-! ## Texts as they are read -/

/-- A text as a reader of documents takes it, its line ends normalized. -/
def Xml.asRead (s : String) : String := String.ofList (normalizeLines s.toList)

theorem Xml.asRead_empty : asRead "" = "" := by simp [asRead, normalizeLines]

theorem Xml.asRead_eq_self_iff {s : String} : asRead s = s ↔ '\r' ∉ s.toList := by
  rw [← normalizeLines_eq_self_iff, asRead, ← String.toList_inj, String.toList_ofList]

theorem childText?_normalized (e : Element) (name : Name) :
    childText? e.normalized name = (childText? e name).map asRead := by
  unfold childText?
  rw [Element.child?_normalized, Option.map_map, Option.map_map]
  exact congrArg (fun f => Option.map f (e.child? name)) (funext Element.normalized_text)

/-! ## Texts that cannot be written -/

/-- The characters of a content at all depths. -/
def Xml.Content.texts : Content → List Char
  | .done => []
  | .char c rest => c :: rest.texts
  | .element _ _ inner rest => inner.texts ++ rest.texts

theorem Xml.Content.texts_ofText (cs : List Char) : (ofText cs).texts = cs := by
  induction cs with
  | nil => rfl
  | cons c cs ih => exact congrArg (c :: ·) ih

theorem Xml.Content.texts_ofElements (es : List Element) : (ofElements es).texts = es.flatMap (·.inner.texts) := by
  induction es with
  | nil => rfl
  | cons e es ih => exact congrArg (e.inner.texts ++ ·) ih

theorem Xml.subset_wrap (name attrs inner : List Char) : inner ⊆ wrap name attrs inner := by
  intro c hc
  have hne : inner.isEmpty = false := by
    cases inner with
    | nil => cases hc
    | cons => rfl
  simp [wrap, hne, hc]

/-- A character that no document may hold is written as it is. -/
theorem Xml.Content.mem_write {c : Char} (hc : isXmlChar c = false) (ps : Prefixes) {k : Content} (h : c ∈ k.texts) :
    c ∈ k.write .plain ps := by
  induction k with
  | done => cases h
  | char d rest ih =>
    rcases List.mem_cons.mp h with rfl | h
    · have hmarks : isXmlChar '&' = true ∧ isXmlChar '<' = true ∧ isXmlChar '>' = true := by decide
      have hself : Escapes.plain.text c = [c] := by
        have hne {d : Char} (hd : isXmlChar d = true) : c ≠ d := by
          rintro rfl
          rw [hd] at hc
          cases hc
        simp [Escapes.plain, escapeMarkup, hne hmarks.1, hne hmarks.2.1, hne hmarks.2.2]
      exact List.mem_append_left _ (hself.symm ▸ List.mem_cons_self)
    · exact List.mem_append_right _ (ih h)
  | element name attrs inner rest ihi ihr =>
    rcases List.mem_append.mp h with h | h
    · exact List.mem_append_left _ (subset_wrap _ _ _ (ihi h))
    · exact List.mem_append_right _ (ihr h)

/-- **A document with such a character in it is not read at all.** -/
theorem Xml.Document.read_barred {c : Char} (hc : isXmlChar c = false) (ps : Prefixes) {root : Element}
    (h : c ∈ root.inner.texts) : Document.read (octets (Document.write .plain ps root)) = .ok none := by
  have hmem : c ∈ root.chars .plain ps := subset_wrap _ _ _ (Content.mem_write hc ps h)
  have hall : (root.chars .plain ps).all isXmlChar = false := by
    rw [List.all_eq_false]
    exact ⟨c, hmem, by simp [hc]⟩
  rw [show Document.write .plain ps root = String.ofList (declaration ++ root.chars .plain ps) from rfl, read_declared,
    hall]
  rfl

/-! ## The token -/

/-- The text of the token in an envelope, as a reader of documents finds it.  An envelope that has no element for it
carries the empty token. -/
def sentToken? (envelope : String) : Option Token :=
  match Document.read (octets envelope) with
  | .ok (some root) =>
    ((root.child? (soap "Body")).bind (·.child? (msg "SyncFolderItems"))).map fun e =>
      (childText? e (msg "SyncState")).getD ""
  | _ => none

variable {user : User} {r : SyncRequest} {text : String}

theorem Request.eq_of_write_sync (h : (Request.sync r).write user = .ok text) :
    text = Document.write .plain prefixes (envelope [headerElement user] [r.element]) := by
  by_cases hfits : Decimal.fits r.limit = true
  · rw [write, toEnvelope_sync hfits] at h
    exact (Except.ok.inj h).symm
  · rw [write_of_not_fits (by simpa [fits] using hfits)] at h
    cases h

/-- **A reader finds the token with its line ends normalized.** -/
theorem sentToken?_write (hu : Xml.Legal (isXmlChar · = true) user) (hf : Xml.Legal (isXmlChar · = true) r.folder)
    (ht : Xml.Legal (isXmlChar · = true) r.token) (hs : Xml.Legal (isXmlChar · = true) r.shape)
    (h : (Request.sync r).write user = .ok text) : sentToken? text = some (asRead r.token) := by
  have hlegal : ∀ c, isClean c = true → isXmlChar c = true := fun _ => isXmlChar_of_isClean
  have hwritable : (envelope [headerElement user] [r.element]).Writable prefixes (isXmlChar · = true) :=
    writable_envelope (by simpa using writable_headerElement hu)
      (by simpa using SyncRequest.writable_element hlegal hf ht hs)
  have hread := Document.read_plain (binds hlegal) hwritable
  have hbody : (envelope [headerElement user] [r.element]).child? (soap "Body") =
      some (node (soap "Body") [r.element] []) := child?_body _ (by simp [headerElement]) _
  have hsync : (node (soap "Body") [r.element] []).child? (msg "SyncFolderItems") = some r.element := by
    simp [Element.child?, SyncRequest.element]
  obtain rfl := Request.eq_of_write_sync h
  unfold sentToken?
  rw [hread]
  simp only [Element.child?_normalized, hbody, Option.map_some, Option.bind_some, hsync, childText?_normalized]
  rw [← r.childText?_token]
  cases childText? r.element (msg "SyncState") with
  | none => exact congrArg some asRead_empty.symm
  | some token => rfl

theorem sentToken?_barred (hu : ¬Xml.Legal (isXmlChar · = true) user)
    (h : (Request.sync r).write user = .ok text) : sentToken? text = none := by
  unfold Xml.Legal at hu
  push Not at hu
  obtain ⟨c, hc, hbarred⟩ := hu
  have hmem : c ∈ (envelope [headerElement user] [r.element]).inner.texts := by
    simp [envelope, headerElement, node, leaf, Content.texts_ofElements, Content.texts_ofText, hc]
  obtain rfl := Request.eq_of_write_sync h
  unfold sentToken?
  rw [Document.read_barred (by simpa using hbarred) prefixes hmem]

/-- **A reader finds the very token exactly if it can read the user's name and the token has no carriage return.** -/
theorem sentToken?_eq_some_iff (hf : Xml.Legal (isXmlChar · = true) r.folder)
    (ht : Xml.Legal (isXmlChar · = true) r.token) (hs : Xml.Legal (isXmlChar · = true) r.shape)
    (h : (Request.sync r).write user = .ok text) :
    sentToken? text = some r.token ↔ Xml.Legal (isXmlChar · = true) user ∧ '\r' ∉ r.token.toList := by
  by_cases hu : Xml.Legal (isXmlChar · = true) user
  · rw [sentToken?_write hu hf ht hs h, Option.some_inj, asRead_eq_self_iff]
    simp [hu]
  · rw [sentToken?_barred hu h]
    simp [hu]

end MailboxSync
