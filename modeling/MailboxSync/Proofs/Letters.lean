import MailboxSync.Proofs.SentTokens

/-!
# What stands in envelopes

* `Letter` — what an envelope says: on whose behalf, and what is asked for.  A target is named as a distinguished
  folder or as an id, and an envelope may be without a token;
* `Letter.tree` — the one shape of its document; `Letter.ofTree?` — reads it;
* `Request.letter?` — what a request says once it has been read: the line ends of texts that stand in elements are
  normalized, a distinguished folder is named in lower case, everything else is as it was given;
* `Request.write_faithful` — **the envelope of a request is a document of exactly this shape, whatever its strings
  hold**, and no other request or user has the same envelope, unless it says the same.

The carriage returns of a text in an element are the only characters a reader does not find again
(`Document.read_plain`); in attributes, where targets stand, nothing is lost.
-/

namespace MailboxSync

open Xml Soap

/-! ## Letters -/

/-- How an envelope names a target. -/
inductive Target where
  | distinguished (name : String)
  | identified (id : String)
  deriving DecidableEq, Repr

/-- What an envelope asks for. -/
inductive Enquiry where
  | find (target : Target) (traversal shape : String)
  | sync (target : Target) (token : Option Token) (limit : Int) (shape : String)
  deriving DecidableEq, Repr

/-- What an envelope says. -/
structure Letter where
  user : User
  enquiry : Enquiry
  deriving DecidableEq, Repr

/-- The element of a target: its name tells the two kinds apart. -/
def Target.tree : Target → Element
  | distinguished name => idElement (typ "DistinguishedFolderId") name
  | identified id => idElement (typ "FolderId") id

def Enquiry.tree : Enquiry → Element
  | find target traversal shape =>
    node (msg "FindFolder")
      [node (msg "FolderShape") [leaf (typ "BaseShape") shape] [],
        node (msg "ParentFolderIds") [target.tree] []]
      [(⟨"", "Traversal"⟩, traversal)]
  | sync target token limit shape =>
    node (msg "SyncFolderItems")
      ([node (msg "ItemShape") [leaf (typ "BaseShape") shape] [],
        node (msg "SyncFolderId") [target.tree] []] ++
        (token.map (leaf (msg "SyncState"))).toList ++
        [leaf (msg "MaxChangesReturned") (Decimal.ofInt limit)])
      []

/-- The root of a letter: a header that names the user, and a body with the enquiry. -/
def Letter.tree (l : Letter) : Element :=
  node (soap "Envelope")
    [node (soap "Header")
        [node (typ "ExchangeImpersonation")
          [node (typ "ConnectingSID") [leaf (typ "PrincipalName") l.user] []] []] [],
      node (soap "Body") [l.enquiry.tree] []]
    []

/-! ### Reading -/

/-- Reads a target from the element around it. -/
def Target.ofParent? (parent : Element) : Option Target :=
  match parent.child? (typ "DistinguishedFolderId") with
  | some e => (e.attr? idName).map distinguished
  | none => ((parent.child? (typ "FolderId")).bind (·.attr? idName)).map identified

def Enquiry.ofBody? (body : Element) : Option Enquiry :=
  match body.child? (msg "FindFolder") with
  | some e => do
    let target ← (e.child? (msg "ParentFolderIds")).bind Target.ofParent?
    let traversal ← e.attr? ⟨"", "Traversal"⟩
    let shape ← shape? e "FolderShape"
    some (.find target traversal shape)
  | none => do
    let e ← body.child? (msg "SyncFolderItems")
    let target ← (e.child? (msg "SyncFolderId")).bind Target.ofParent?
    let limit ← (childText? e (msg "MaxChangesReturned")).bind Decimal.int?
    let shape ← shape? e "ItemShape"
    some (.sync target (childText? e (msg "SyncState")) limit shape)

def Letter.ofTree? (root : Element) : Option Letter := do
  let user ← principal? root
  let enquiry ← (root.child? (soap "Body")).bind Enquiry.ofBody?
  some ⟨user, enquiry⟩

theorem Target.ofParent?_tree (tag : String) (t : Target) : ofParent? (node (msg tag) [t.tree] []) = some t := by
  cases t <;> simp [ofParent?, tree, Element.child?]

theorem Enquiry.ofBody?_tree (o : Enquiry) : ofBody? (node (soap "Body") [o.tree] []) = some o := by
  cases o with
  | find target traversal shape =>
    have hbody : (node (soap "Body") [(find target traversal shape).tree] []).child? (msg "FindFolder") =
        some (find target traversal shape).tree := by simp [Element.child?, tree]
    have htarget : ((find target traversal shape).tree.child? (msg "ParentFolderIds")).bind Target.ofParent? =
        some target := by simp [Element.child?, tree, Target.ofParent?_tree]
    have htraversal : (find target traversal shape).tree.attr? ⟨"", "Traversal"⟩ = some traversal := by
      simp [Element.attr?, tree, node]
    have hshape : shape? (find target traversal shape).tree "FolderShape" = some shape := by
      simp [shape?, childText?, Element.child?, tree]
    simp [ofBody?, hbody, htarget, htraversal, hshape]
  | sync target token limit shape =>
    have hnone : (node (soap "Body") [(sync target token limit shape).tree] []).child? (msg "FindFolder") = none := by
      simp [Element.child?, tree]
    have hbody : (node (soap "Body") [(sync target token limit shape).tree] []).child? (msg "SyncFolderItems") =
        some (sync target token limit shape).tree := by simp [Element.child?, tree]
    have htarget : ((sync target token limit shape).tree.child? (msg "SyncFolderId")).bind Target.ofParent? =
        some target := by simp [Element.child?, tree, Target.ofParent?_tree]
    have htoken : childText? (sync target token limit shape).tree (msg "SyncState") = token := by
      cases token <;> simp [childText?, Element.child?, tree]
    have hlimit : (childText? (sync target token limit shape).tree (msg "MaxChangesReturned")).bind Decimal.int? =
        some limit := by cases token <;> simp [childText?, Element.child?, tree, Decimal.int?_ofInt]
    have hshape : shape? (sync target token limit shape).tree "ItemShape" = some shape := by
      simp [shape?, childText?, Element.child?, tree]
    simp [ofBody?, hnone, hbody, htarget, htoken, hlimit, hshape]

/-- **A letter is read from its tree.** -/
theorem Letter.ofTree?_tree (l : Letter) : ofTree? l.tree = some l := by
  have huser : principal? l.tree = some l.user := by simp [principal?, Element.child?, tree, childText?]
  have hbody : l.tree.child? (soap "Body") = some (node (soap "Body") [l.enquiry.tree] []) := by
    simp [Element.child?, tree]
  simp [ofTree?, huser, hbody, Enquiry.ofBody?_tree]

/-! ## Requests -/

/-- The target as an envelope names it. -/
def Target.of (target : FolderId) : Target :=
  if isDistinguished target then distinguished (Text.fold target) else identified target

/-- What a request on behalf of a user says once it has been read. -/
def Request.letter? (user : User) : Request → Option Letter
  | .find r => some ⟨asRead user, .find (.of r.root) r.traversal (asRead r.shape)⟩
  | .sync r =>
    let token := if r.token = "" then none else some (asRead r.token)
    some ⟨asRead user, .sync (.of r.folder) token r.limit (asRead r.shape)⟩
  | .other _ => none

/-- A request of one of the two operations whose strings can stand in a document. -/
def Request.Legal (legal : Char → Prop) : Request → Prop
  | .find r => Xml.Legal legal r.root ∧ Xml.Legal legal r.traversal ∧ Xml.Legal legal r.shape
  | .sync r => Xml.Legal legal r.folder ∧ Xml.Legal legal r.token ∧ Xml.Legal legal r.shape
  | .other _ => False

theorem targetElement_eq_tree (target : FolderId) : targetElement target = (Target.of target).tree := by
  unfold targetElement Target.of
  split <;> rfl

/-! ### Line ends -/

@[simp] theorem normalized_node (name : Name) (children : List Element) (attrs : List Attr) :
    (node name children attrs).normalized = node name (children.map Element.normalized) attrs := by
  have hinner : (Content.ofElements children).normalized = Content.ofElements (children.map Element.normalized) := by
    induction children with
    | nil => rfl
    | cons c cs ih => exact congrArg (Content.element c.name c.attrs c.inner.normalized) ih
  exact congrArg (Element.mk name attrs) hinner

@[simp] theorem normalized_idElement (name : Name) (id : String) :
    (idElement name id).normalized = idElement name id := rfl

@[simp] theorem normalized_leaf (name : Name) (text : String) :
    (leaf name text).normalized = leaf name (asRead text) := by
  have hinner (cs : List Char) : (Content.ofText cs).normalized = Content.ofText (normalizeLines cs) := by
    induction cs with
    | nil => rfl
    | cons c cs ih =>
      have hcons : Content.ofText (c :: cs) = .char c (Content.ofText cs) := rfl
      by_cases hc : c = '\r'
      · subst hc
        rw [hcons, normalizeLines_cr, Content.normalized, Content.leading_ofText, ih]
        by_cases hhead : cs.head? = some '\n' <;> simp [hhead, Content.ofText]
      · rw [hcons, normalizeLines_cons hc, Content.normalized, if_pos hc, ih]
        rfl
  rw [Element.normalized, leaf, leaf, hinner, asRead, String.toList_ofList]

@[simp] theorem normalized_target (t : Target) : t.tree.normalized = t.tree := by cases t <;> rfl

@[simp] theorem asRead_ofInt (n : Int) : asRead (Decimal.ofInt n) = Decimal.ofInt n :=
  asRead_eq_self_iff.mpr (Decimal.clean_ofInt n).cr_not_mem

/-- **What a reader finds of an envelope is the tree of its letter.** -/
theorem Request.normalized_toEnvelope {user : User} {r : Request} {l : Letter} (h : r.letter? user = some l)
    (hfits : r.fits = true) :
    ∃ root, r.toEnvelope user = .ok root ∧ root.normalized = l.tree := by
  cases r with
  | find r =>
    cases h
    refine ⟨_, rfl, ?_⟩
    simp [envelope, headerElement, FindRequest.element, shapeElement, targetElement_eq_tree, Letter.tree, Enquiry.tree]
  | sync r =>
    cases h
    refine ⟨_, Request.toEnvelope_sync hfits user, ?_⟩
    by_cases ht : r.token = "" <;>
      simp [envelope, headerElement, SyncRequest.element, shapeElement, targetElement_eq_tree, Letter.tree,
        Enquiry.tree, ht]
  | other typeName => cases h

theorem Request.writable_of_legal {user : User} {r : Request} {root : Element}
    (hu : Xml.Legal (isXmlChar · = true) user) (hr : r.Legal (isXmlChar · = true)) (hfits : r.fits = true)
    (h : r.toEnvelope user = .ok root) : root.Writable prefixes (isXmlChar · = true) := by
  have hlegal : ∀ c, isClean c = true → isXmlChar c = true := fun _ => isXmlChar_of_isClean
  have hheader : ∀ c ∈ [headerElement user], c.Writable prefixes (isXmlChar · = true) := by
    simpa using writable_headerElement hu
  cases r with
  | find r =>
    cases h
    obtain ⟨hroot, htraversal, hshape⟩ := hr
    exact writable_envelope hheader (by simpa using FindRequest.writable_element hlegal hroot htraversal hshape)
  | sync r =>
    rw [Request.toEnvelope_sync hfits] at h
    cases h
    obtain ⟨hfolder, htoken, hshape⟩ := hr
    exact writable_envelope hheader (by simpa using SyncRequest.writable_element hlegal hfolder htoken hshape)
  | other typeName => exact hr.elim

theorem Request.read_write {user : User} {r : Request} (hu : Xml.Legal (isXmlChar · = true) user)
    (hr : r.Legal (isXmlChar · = true)) (hfits : r.fits = true) :
    ∃ text l, r.write user = .ok text ∧ r.letter? user = some l ∧
      Document.read (octets text) = .ok (some l.tree) := by
  obtain ⟨l, hl⟩ : ∃ l, r.letter? user = some l := by
    cases r with
    | find r => exact ⟨_, rfl⟩
    | sync r => exact ⟨_, rfl⟩
    | other typeName => exact hr.elim
  obtain ⟨root, hroot, htree⟩ := Request.normalized_toEnvelope hl hfits
  have hread := Document.read_plain (binds fun _ => isXmlChar_of_isClean) (Request.writable_of_legal hu hr hfits hroot)
  rw [htree] at hread
  exact ⟨_, l, by rw [Request.write, hroot]; rfl, hl, hread⟩

/-- **An envelope says what its request says, whatever the strings hold.**  If its number is not too long the envelope
of a legal request is a document, its tree has the shape of a letter, and the letter read from it is the request's.  So
another request or user has the same envelope only if the letter is the same.  With a longer number there is no
envelope. -/
theorem Request.write_faithful {user : User} {r : Request} (hu : Xml.Legal (isXmlChar · = true) user)
    (hr : r.Legal (isXmlChar · = true)) :
    (r.fits = true → ∃ text l, r.write user = .ok text ∧ r.letter? user = some l ∧
        Document.read (octets text) = .ok (some l.tree) ∧ Letter.ofTree? l.tree = some l ∧
        ∀ user' (r' : Request), Xml.Legal (isXmlChar · = true) user' → r'.Legal (isXmlChar · = true) →
          r'.write user' = .ok text → r'.letter? user' = some l) ∧
      (r.fits = false → r.write user = .error .numberTooLong) := by
  refine ⟨fun hfits => ?_, fun hfits => Request.write_of_not_fits hfits user⟩
  obtain ⟨text, l, hwrite, hl, hread⟩ := Request.read_write hu hr hfits
  refine ⟨text, l, hwrite, hl, hread, l.ofTree?_tree, fun user' r' hu' hr' hwrite' => ?_⟩
  cases hfits' : r'.fits with
  | false =>
    rw [Request.write_of_not_fits hfits'] at hwrite'
    cases hwrite'
  | true =>
    obtain ⟨text', l', htext', hl', hread'⟩ := Request.read_write hu' hr' hfits'
    obtain rfl : text = text' := Except.ok.inj (hwrite'.symm.trans htext')
    have htree : l.tree = l'.tree := Option.some.inj (Except.ok.inj (hread.symm.trans hread'))
    have hletter : some l = some l' := l.ofTree?_tree.symm.trans (htree ▸ l'.ofTree?_tree)
    rw [hl', hletter]

/-- A request full of markup, quotes and line ends. -/
def crowded : Request := .sync { folder := "]]>\r\n\t\"'", token := "a\r\nb\rc\n]]>", limit := -1, shape := "<&lt;>" }

/-- Of all of it only the carriage returns in the texts of elements are not found again. -/
theorem crowded_write_faithful :
    Xml.Legal (isXmlChar · = true) "u<\r>" ∧ crowded.Legal (isXmlChar · = true) ∧
      ∃ text, crowded.write "u<\r>" = .ok text ∧ Document.read (octets text) = .ok (some (Letter.tree
        ⟨"u<\n>", .sync (.identified "]]>\r\n\t\"'") (some "a\nb\nc\n]]>") (-1) "<&lt;>"⟩)) := by
  have hu : Xml.Legal (isXmlChar · = true) "u<\r>" := by decide +kernel
  have hr : crowded.Legal (isXmlChar · = true) := ⟨by decide +kernel, by decide +kernel, by decide +kernel⟩
  have hletter : crowded.letter? "u<\r>" =
      some ⟨"u<\n>", .sync (.identified "]]>\r\n\t\"'") (some "a\nb\nc\n]]>") (-1) "<&lt;>"⟩ := by decide +kernel
  have hfits : crowded.fits = true := by decide +kernel
  obtain ⟨text, l, hwrite, hl, hread, -, -⟩ := (Request.write_faithful hu hr).1 hfits
  obtain rfl := Option.some.inj (hl.symm.trans hletter)
  exact ⟨hu, hr, text, hwrite, hread⟩

/-- A request for more changes than can be written. -/
def boundless : Request := .sync { folder := "a", token := "", limit := 10 ^ Decimal.maxDigits }

/-- Its strings are legal, but it has no envelope. -/
theorem boundless_unwritten :
    Xml.Legal (isXmlChar · = true) "u" ∧ boundless.Legal (isXmlChar · = true) ∧
      boundless.write "u" = .error .numberTooLong ∧ ∀ text, boundless.write "u" ≠ .ok text := by
  have hten : (10 : Int).natAbs = 10 := rfl
  have hlong : ¬boundless.fits = true := by
    rw [boundless, Request.fits, Decimal.fits_iff, Int.natAbs_pow, hten]
    exact Nat.lt_irrefl _
  have hwrite : boundless.write "u" = .error .numberTooLong :=
    Request.write_of_not_fits (Bool.eq_false_iff.mpr hlong) "u"
  refine ⟨by decide +kernel, ⟨by decide +kernel, by decide +kernel, by decide +kernel⟩, hwrite,
    fun text h => ?_⟩
  cases hwrite.symm.trans h

end MailboxSync
