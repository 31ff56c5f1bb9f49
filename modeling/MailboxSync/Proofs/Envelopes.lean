import MailboxSync.Mailbox.Script
import MailboxSync.Proofs.Documents
import MailboxSync.Proofs.Trimming
import MailboxSync.Service.Envelope
import MailboxSync.Service.Reply
import Mathlib.Algebra.Group.Int.Defs
import Mathlib.Algebra.Group.Nat.Defs

/-!
# Requests and responses as documents

* `Soap.binds` — the prefixes of the service's documents may be declared;
* `Request.read?_write` — **the service reads a request as it was made**, and the user it was made for;
* `Request.responseIn_write` — **a response is read as it was written**, its empty ids aside.

Both ask that every text is legal, so that a document can hold it, and the first that a target which is a distinguished
folder is named in lower case.
-/

namespace MailboxSync

open Xml Soap

/-- A text of legal characters. -/
def Xml.Legal (legal : Char → Prop) (s : String) : Prop := ∀ c ∈ s.toList, legal c

instance (legal : Char → Prop) [DecidablePred legal] (s : String) : Decidable (Xml.Legal legal s) :=
  List.decidableBAll legal s.toList

/-! ## Elements that can be written -/

namespace Soap

/-- The bindings inside the root of every document. -/
def scope : Scope := prefixes.reverse ++ Scope.initial

section Writable

variable {legal : Char → Prop}

theorem binds (hl : ∀ c, isClean c = true → legal c) : prefixes.Binds legal scope where
  declare := by decide +kernel
  plain := by decide +kernel
  clean := by decide +kernel
  own := by decide +kernel
  lookup := by decide +kernel
  unprefixed := by decide +kernel
  nodup := by decide +kernel
  legal p hp c hc := by
    have hclean : ∀ p ∈ prefixes, Clean p.2.toList := by decide +kernel
    exact hl c (hclean p hp c hc)

def isTag (tag : String) : Bool := isPlainName tag.toList && tag.toList.all isClean

@[simp] theorem isTag_word {tag : String} (h : tag ∈
    ["Envelope", "Header", "Body", "ExchangeImpersonation", "ConnectingSID", "PrincipalName", "FindFolder", "Traversal",
      "FolderShape", "BaseShape", "ParentFolderIds", "SyncFolderItems", "ItemShape", "SyncFolderId", "SyncState",
      "MaxChangesReturned", "FolderId", "DistinguishedFolderId", "Id", "FindFolderResponse", "SyncFolderItemsResponse",
      "ResponseMessages", "FindFolderResponseMessage", "SyncFolderItemsResponseMessage", "MessageText", "ResponseCode",
      "RootFolder", "Folders", "Folder", "Changes", "Create", "Update", "Delete", "Message", "ItemId",
      "IncludesLastItemInRange"]) : isTag tag = true := by
  revert tag
  decide +kernel

theorem writable_of_isTag {space tag : String} (hs : space ∈ prefixes.map (·.2)) (h : isTag tag = true) :
    (⟨space, tag⟩ : Name).Writable prefixes := by
  simp only [isTag, Bool.and_eq_true, List.all_eq_true] at h
  exact ⟨h.1, h.2, .inr hs⟩

theorem writable_soap {tag : String} (h : isTag tag = true) : (soap tag).Writable prefixes :=
  writable_of_isTag (by decide) h

theorem writable_typ {tag : String} (h : isTag tag = true) : (typ tag).Writable prefixes :=
  writable_of_isTag (by decide) h

theorem writable_msg {tag : String} (h : isTag tag = true) : (msg tag).Writable prefixes :=
  writable_of_isTag (by decide) h

theorem writable_noAttrs : Attrs.Writable prefixes legal [] :=
  ⟨List.forall_mem_nil _, List.forall_mem_nil _, List.forall_mem_nil _, List.nodup_nil⟩

theorem writable_attr {key value : String} (hk : isTag key = true) (hne : key ≠ "xmlns") (hv : Legal legal value) :
    Attrs.Writable prefixes legal [(⟨"", key⟩, value)] where
  name a ha := by
    obtain rfl := List.mem_singleton.mp ha
    simp only [isTag, Bool.and_eq_true, List.all_eq_true] at hk
    exact ⟨hk.1, hk.2, .inl rfl⟩
  own a ha := by
    obtain rfl := List.mem_singleton.mp ha
    simpa using hne
  legal a ha := by
    obtain rfl := List.mem_singleton.mp ha
    exact hv
  nodup := List.nodup_singleton _

theorem writable_node {name : Name} {children : List Element} {attrs : List Attr} (hn : name.Writable prefixes)
    (ha : Attrs.Writable prefixes legal attrs) (hc : ∀ c ∈ children, c.Writable prefixes legal) :
    (node name children attrs).Writable prefixes legal where
  name := hn
  attrs := ha
  inner := by
    show (Content.ofElements children).Writable prefixes legal
    induction children with
    | nil => trivial
    | cons c cs ih =>
      have h := hc c List.mem_cons_self
      exact ⟨h.name, h.attrs, h.inner, ih fun d hd => hc d (List.mem_cons_of_mem _ hd)⟩

theorem writable_leaf {name : Name} {text : String} (hn : name.Writable prefixes) (ht : Legal legal text) :
    (leaf name text).Writable prefixes legal where
  name := hn
  attrs := writable_noAttrs
  inner := by
    show (Content.ofText text.toList).Writable prefixes legal
    unfold Legal at ht
    generalize text.toList = cs at ht
    induction cs with
    | nil => trivial
    | cons c cs ih => exact ⟨ht c List.mem_cons_self, ih fun x hx => ht x (List.mem_cons_of_mem _ hx)⟩

theorem writable_idElement {name : Name} {id : String} (hn : name.Writable prefixes) (hid : Legal legal id) :
    (idElement name id).Writable prefixes legal where
  name := hn
  attrs := writable_attr (by simp) (by decide) hid
  inner := trivial

theorem writable_envelope {header body : List Element} (hh : ∀ c ∈ header, c.Writable prefixes legal)
    (hb : ∀ c ∈ body, c.Writable prefixes legal) : (envelope header body).Writable prefixes legal := by
  refine writable_node (writable_soap (by simp)) writable_noAttrs fun c hc => ?_
  rcases List.mem_append.mp hc with hc | hc
  · exact hh c hc
  · obtain rfl := List.mem_singleton.mp hc
    exact writable_node (writable_soap (by simp)) writable_noAttrs hb

end Writable

/-! ## What is found in elements -/

@[simp] theorem name_node (name : Name) (cs : List Element) (as : List Attr) : (node name cs as).name = name := rfl
@[simp] theorem name_leaf (name : Name) (text : String) : (leaf name text).name = name := rfl
@[simp] theorem name_idElement (name : Name) (id : String) : (idElement name id).name = name := rfl

@[simp] theorem elements_node (name : Name) (cs : List Element) (as : List Attr) : (node name cs as).elements = cs :=
  Content.elements_ofElements cs

@[simp] theorem text_leaf (name : Name) (text : String) : (leaf name text).text = text := by
  simp [Element.text, leaf, Content.leading_ofText]

@[simp] theorem attr?_idElement (name : Name) (id : String) : (idElement name id).attr? idName = some id := by
  simp [Element.attr?, idElement]

@[simp] theorem envelope_name (header body : List Element) : (envelope header body).name = soap "Envelope" := rfl

@[simp] theorem soap_inj {a b : String} : soap a = soap b ↔ a = b := by simp [soap]
@[simp] theorem typ_inj {a b : String} : typ a = typ b ↔ a = b := by simp [typ]
@[simp] theorem msg_inj {a b : String} : msg a = msg b ↔ a = b := by simp [msg]

end Soap

/-! ## Numbers -/

namespace Decimal

/-- An integer reads back. -/
theorem int?_ofInt (n : Int) : int? (ofInt n) = some n := by
  have hdigits (k : Nat) : ∀ c ∈ digits k, c ≠ '-' := by
    rintro c hc rfl
    have h := List.all_eq_true.mp (all_isDigit_digits k) _ hc
    exact absurd h (by decide)
  unfold int?
  by_cases hn : n < 0
  · have hlist : (ofInt n).toList = '-' :: digits n.natAbs := by simp [ofInt, hn, ofNat]
    have hneg : -(n.natAbs : Int) = n := by omega
    simp only [hlist, number?_digits]
    exact congrArg some hneg
  · have hlist : (ofInt n).toList = digits n.natAbs := by simp [ofInt, hn, ofNat]
    have hpos : (n.natAbs : Int) = n := by omega
    rw [hlist]
    split
    · rename_i cs heq
      exact absurd rfl (hdigits n.natAbs '-' (heq ▸ List.mem_cons_self))
    · simp only [number?_digits]
      exact congrArg some hpos

theorem isClean_of_isDigit {c : Char} (h : isDigit c = true) : isClean c = true := by
  simp only [isDigit, Bool.and_eq_true, decide_eq_true_eq, Char.le_def, UInt32.le_iff_toNat_le] at h
  have hlow : 48 ≤ c.toNat := h.1
  have hhigh : c.toNat ≤ 57 := h.2
  have hcr : c ≠ '\r' := by
    rintro rfl
    exact absurd hlow (by decide)
  simp [isClean, isXmlChar, isXmlCode, hcr]
  omega

theorem clean_ofInt (n : Int) : Clean (ofInt n).toList := by
  have hdigits (k : Nat) : Clean (digits k) := fun c hc =>
    isClean_of_isDigit (List.all_eq_true.mp (all_isDigit_digits k) c hc)
  have hminus : isClean '-' = true := by decide
  unfold ofInt
  split
  · simp [ofNat, hminus, hdigits]
  · simpa [ofNat] using hdigits n.natAbs

theorem length_digits_le_iff {k : Nat} (hk : 0 < k) (n : Nat) : (digits n).length ≤ k ↔ n < 10 ^ k := by
  obtain ⟨k, rfl⟩ := Nat.exists_eq_succ_of_ne_zero (Nat.ne_of_gt hk)
  clear hk
  fun_induction digits n generalizing k with
  | case1 n h =>
    have hpos : 0 < 10 ^ k := Nat.pow_pos (by decide)
    simp only [List.length_singleton, Nat.pow_succ]
    omega
  | case2 n h ih =>
    rw [List.length_append, List.length_singleton, Nat.add_le_add_iff_right]
    cases k with
    | zero => simp [digits_ne_nil, h]
    | succ k => rw [ih, Nat.div_lt_iff_lt_mul (by decide), Nat.pow_succ 10 (k + 1)]

theorem fits_iff (n : Int) : fits n = true ↔ n.natAbs < 10 ^ maxDigits := by
  have hpos : 0 < maxDigits := by decide
  rw [fits, decide_eq_true_eq, length_digits_le_iff hpos]

end Decimal

/-! ## Requests -/

/-- A target that, if it is a distinguished folder, is named in lower case. -/
def Canonical (target : FolderId) : Prop := isDistinguished target = true → Text.fold target = target

instance (target : FolderId) : Decidable (Canonical target) :=
  inferInstanceAs (Decidable (isDistinguished target = true → Text.fold target = target))

/-- A request that an envelope can hold. -/
def Request.Sendable (legal : Char → Prop) : Request → Prop
  | .find r => Legal legal r.root ∧ Canonical r.root ∧ Legal legal r.traversal ∧ Legal legal r.shape
  | .sync r =>
    Legal legal r.folder ∧ Canonical r.folder ∧ Legal legal r.token ∧ Legal legal r.shape ∧
      Decimal.fits r.limit = true
  | .other _ => False

theorem SyncRequest.fits_forPage (folder : FolderId) (token : Token) (size : Int) :
    Decimal.fits (SyncRequest.forPage folder token size).limit = true := by
  obtain ⟨hlower, hupper⟩ := clampPageSize_bounds size
  have hshort : 10 ^ 3 ≤ 10 ^ Decimal.maxDigits := Nat.pow_le_pow_right (by decide) (by decide)
  have hlimit : (SyncRequest.forPage folder token size).limit = clampPageSize size := rfl
  rw [Decimal.fits_iff, hlimit]
  unfold maxPageSize at hupper
  omega

section Requests

variable {legal : Char → Prop}

theorem targetElement_eq {target : FolderId} (h : Canonical target) :
    targetElement target =
      idElement (typ (if isDistinguished target then "DistinguishedFolderId" else "FolderId")) target := by
  unfold targetElement
  split
  · rename_i hd
    rw [h hd]
  · rfl

theorem target?_node {tag : String} {target : FolderId} (h : Canonical target) :
    target? (node (msg tag) [targetElement target] []) = some target := by
  rw [targetElement_eq h]
  unfold target? Element.child?
  split <;> simp

theorem FindRequest.ofElement?_element {r : FindRequest} (h : Canonical r.root) :
    FindRequest.ofElement? r.element = some r := by
  have hparent : r.element.child? (msg "ParentFolderIds") =
      some (node (msg "ParentFolderIds") [targetElement r.root] []) := by
    simp [Element.child?, FindRequest.element, shapeElement]
  have htraversal : r.element.attr? ⟨"", "Traversal"⟩ = some r.traversal := by
    simp [Element.attr?, FindRequest.element, node]
  have hshape : shape? r.element "FolderShape" = some r.shape := by
    simp [shape?, Element.child?, FindRequest.element, shapeElement, childText?]
  simp [FindRequest.ofElement?, hparent, target?_node h, htraversal, hshape]

theorem SyncRequest.childText?_token (r : SyncRequest) :
    (childText? r.element (msg "SyncState")).getD "" = r.token := by
  by_cases ht : r.token = ""
  · simp [childText?, Element.child?, SyncRequest.element, shapeElement, ht]
  · simp [childText?, Element.child?, SyncRequest.element, shapeElement, ht]

theorem SyncRequest.ofElement?_element {r : SyncRequest} (h : Canonical r.folder) :
    SyncRequest.ofElement? r.element = some r := by
  have hfolder : r.element.child? (msg "SyncFolderId") =
      some (node (msg "SyncFolderId") [targetElement r.folder] []) := by
    simp [Element.child?, SyncRequest.element, shapeElement]
  have hshape : shape? r.element "ItemShape" = some r.shape := by
    simp [shape?, Element.child?, SyncRequest.element, shapeElement, childText?]
  have hlimit : childText? r.element (msg "MaxChangesReturned") = some (Decimal.ofInt r.limit) := by
    by_cases ht : r.token = ""
    · simp [childText?, Element.child?, SyncRequest.element, shapeElement, ht]
    · simp [childText?, Element.child?, SyncRequest.element, shapeElement, ht]
  simp [SyncRequest.ofElement?, hfolder, target?_node h, hshape, r.childText?_token, hlimit, Decimal.int?_ofInt]

theorem principal?_envelope (user : User) (body : List Element) :
    principal? (envelope [headerElement user] body) = some user := by
  simp [principal?, Element.child?, envelope, headerElement, childText?]

theorem child?_body (header : List Element) (hh : ∀ c ∈ header, c.name ≠ soap "Body") (body : List Element) :
    (envelope header body).child? (soap "Body") = some (node (soap "Body") body []) := by
  have hfind : header.find? (·.name = soap "Body") = none := by simpa using hh
  simp [Element.child?, envelope, hfind]

/-- An envelope is read as its user and its request. -/
theorem Request.ofEnvelope?_envelope {r : Request} (h : r.Sendable legal) (user : User) :
    ∃ root, r.toEnvelope user = .ok root ∧ Request.ofEnvelope? root = some (user, r) := by
  have hheader : ∀ c ∈ [headerElement user], c.name ≠ soap "Body" := by simp [headerElement]
  cases r with
  | find r =>
    obtain ⟨-, hroot, -, -⟩ := h
    have hbody : (node (soap "Body") [r.element] []).child? (msg "FindFolder") = some r.element := by
      simp [Element.child?, FindRequest.element]
    refine ⟨_, rfl, ?_⟩
    simp [Request.ofEnvelope?, principal?_envelope, child?_body _ hheader, hbody,
      FindRequest.ofElement?_element hroot]
  | sync r =>
    obtain ⟨-, hfolder, -, -, hfits⟩ := h
    have hnone : (node (soap "Body") [r.element] []).child? (msg "FindFolder") = none := by
      simp [Element.child?, SyncRequest.element]
    have hbody : (node (soap "Body") [r.element] []).child? (msg "SyncFolderItems") = some r.element := by
      simp [Element.child?, SyncRequest.element]
    refine ⟨_, Request.toEnvelope_sync hfits user, ?_⟩
    simp [Request.ofEnvelope?, principal?_envelope, child?_body _ hheader, hnone, hbody,
      SyncRequest.ofElement?_element hfolder]
  | other typeName => exact h.elim

theorem writable_targetElement (hl : ∀ c, isClean c = true → legal c) {target : FolderId} (h : Legal legal target) :
    (targetElement target).Writable prefixes legal := by
  have hclean : ∀ folder ∈ distinguishedFolders, Clean folder.toList := by decide +kernel
  unfold targetElement
  split
  · rename_i hdistinguished
    have hmem : Text.fold target ∈ distinguishedFolders := by simpa [isDistinguished] using hdistinguished
    exact writable_idElement (writable_typ (by simp)) fun c hc => hl c (hclean _ hmem c hc)
  · exact writable_idElement (writable_typ (by simp)) h

theorem writable_shapeElement {tag shape : String} (ht : isTag tag = true) (hs : Legal legal shape) :
    (shapeElement tag shape).Writable prefixes legal := by
  refine writable_node (writable_msg ht) writable_noAttrs ?_
  simpa using writable_leaf (writable_typ (by simp)) hs

theorem FindRequest.writable_element (hl : ∀ c, isClean c = true → legal c) {r : FindRequest}
    (hroot : Legal legal r.root) (htraversal : Legal legal r.traversal) (hshape : Legal legal r.shape) :
    r.element.Writable prefixes legal := by
  have hparent : (node (msg "ParentFolderIds") [targetElement r.root] []).Writable prefixes legal :=
    writable_node (writable_msg (by simp)) writable_noAttrs (by
      simpa using writable_targetElement hl hroot)
  refine writable_node (writable_msg (by simp))
    (writable_attr (by simp) (by decide) htraversal) ?_
  simpa using ⟨writable_shapeElement (by simp) hshape, hparent⟩

theorem SyncRequest.writable_element (hl : ∀ c, isClean c = true → legal c) {r : SyncRequest}
    (hfolder : Legal legal r.folder) (htoken : Legal legal r.token) (hshape : Legal legal r.shape) :
    r.element.Writable prefixes legal := by
  have htarget : (node (msg "SyncFolderId") [targetElement r.folder] []).Writable prefixes legal :=
    writable_node (writable_msg (by simp)) writable_noAttrs (by
      simpa using writable_targetElement hl hfolder)
  have hstate : (leaf (msg "SyncState") r.token).Writable prefixes legal :=
    writable_leaf (writable_msg (by simp)) htoken
  have hlimit : (leaf (msg "MaxChangesReturned") (Decimal.ofInt r.limit)).Writable prefixes legal :=
    writable_leaf (writable_msg (by simp)) fun c hc => hl c (Decimal.clean_ofInt r.limit c hc)
  refine writable_node (writable_msg (by simp)) writable_noAttrs fun c hc => ?_
  simp only [List.cons_append, List.nil_append, List.mem_cons, List.mem_append, List.not_mem_nil, or_false] at hc
  rcases hc with rfl | rfl | hc | rfl
  · exact writable_shapeElement (by simp) hshape
  · exact htarget
  · split at hc
    · cases hc
    · obtain rfl := List.mem_singleton.mp hc
      exact hstate
  · exact hlimit

theorem writable_headerElement {user : User} (hu : Legal legal user) :
    (headerElement user).Writable prefixes legal := by
  have hleaf : (leaf (typ "PrincipalName") user).Writable prefixes legal :=
    writable_leaf (writable_typ (by simp)) hu
  have hsid : (node (typ "ConnectingSID") [leaf (typ "PrincipalName") user] []).Writable prefixes legal :=
    writable_node (writable_typ (by simp)) writable_noAttrs (by simpa using hleaf)
  exact writable_node (writable_soap (by simp)) writable_noAttrs (by
    simpa using writable_node (writable_typ (by simp)) writable_noAttrs (by simpa using hsid))

theorem Request.writable_toEnvelope (hl : ∀ c, isClean c = true → legal c) {user : User} (hu : Legal legal user)
    {r : Request} (h : r.Sendable legal) {root : Element} (hroot : r.toEnvelope user = .ok root) :
    root.Writable prefixes legal := by
  cases r with
  | find r =>
    cases hroot
    obtain ⟨hroot, -, htraversal, hshape⟩ := h
    exact writable_envelope (by simpa using writable_headerElement hu)
      (by simpa using FindRequest.writable_element hl hroot htraversal hshape)
  | sync r =>
    obtain ⟨hfolder, -, htoken, hshape, hfits⟩ := h
    rw [Request.toEnvelope_sync hfits] at hroot
    cases hroot
    exact writable_envelope (by simpa using writable_headerElement hu)
      (by simpa using SyncRequest.writable_element hl hfolder htoken hshape)
  | other typeName => exact h.elim

/-- **The service reads a request as it was made, and the user it was made for.** -/
theorem Request.read?_write {user : User} (hu : Legal (isClean · = true) user) {r : Request}
    (h : r.Sendable (isClean · = true)) :
    ∃ text, r.write user = .ok text ∧ Request.read? text.toUTF8 = some (user, r) := by
  obtain ⟨root, hroot, hread⟩ := Request.ofEnvelope?_envelope h user
  have hwritable := Request.writable_toEnvelope (fun _ hc => hc) hu h hroot
  have hdocument := Document.read_write (binds fun _ hc => hc) Escapes.plain_faithful hwritable
  refine ⟨Document.write .plain prefixes root, by rw [Request.write, hroot]; rfl, ?_⟩
  unfold Request.read?
  rw [show (Document.write .plain prefixes root).toUTF8.toList = octets (Document.write .plain prefixes root) from rfl,
    hdocument]
  exact hread

end Requests

/-! ## Responses -/

/-- A response whose texts can stand in a document. -/
def Response.Legal (legal : Char → Prop) : Response → Prop
  | .found ms => ∀ m ∈ ms, (∀ s ∈ m.code, Xml.Legal legal s) ∧ (∀ s ∈ m.text, Xml.Legal legal s) ∧
      ∀ ids ∈ m.folders, ∀ id ∈ ids, Xml.Legal legal id
  | .synced ms => ∀ m ∈ ms, (∀ s ∈ m.code, Xml.Legal legal s) ∧ (∀ s ∈ m.text, Xml.Legal legal s) ∧
      (∀ s ∈ m.token, Xml.Legal legal s) ∧
      ∀ c ∈ m.changes, ∀ id ∈ c.created ++ c.updated ++ c.deleted, Xml.Legal legal id

instance (legal : Char → Prop) [DecidablePred legal] : (r : Response) → Decidable (r.Legal legal)
  | .found ms => inferInstanceAs (Decidable (∀ m ∈ ms, (∀ s ∈ m.code, Xml.Legal legal s) ∧
      (∀ s ∈ m.text, Xml.Legal legal s) ∧ ∀ ids ∈ m.folders, ∀ id ∈ ids, Xml.Legal legal id))
  | .synced ms => inferInstanceAs (Decidable (∀ m ∈ ms, (∀ s ∈ m.code, Xml.Legal legal s) ∧
      (∀ s ∈ m.text, Xml.Legal legal s) ∧ (∀ s ∈ m.token, Xml.Legal legal s) ∧
      ∀ c ∈ m.changes, ∀ id ∈ c.created ++ c.updated ++ c.deleted, Xml.Legal legal id))

section Responses

variable {legal : Char → Prop}

/-! ### What is found -/

theorem filterMap_id (ids : List String) :
    ids.filterMap (fun id => if id = "" then none else some id) = nonempty ids := by
  induction ids with
  | nil => rfl
  | cons id ids ih => by_cases h : id = "" <;> simp [nonempty, h] at ih ⊢ <;> exact ih

theorem id?_idElement (name : Name) (id : String) :
    id? (idElement name id) = if id = "" then none else some id := by simp [id?]

theorem find?_optional (tag tag' : String) (text : Option String) :
    (optional tag text).find? (·.name = msg tag') = if tag = tag' then text.map (leaf (msg tag)) else none := by
  cases text with
  | none => simp [optional]
  | some text => by_cases h : tag = tag' <;> simp [optional, h]

theorem filter_optional (tag : String) (text : Option String) {name : Name} (h : msg tag ≠ name) :
    (optional tag text).filter (·.name = name) = [] := by
  cases text with
  | none => rfl
  | some text => simpa [optional] using h

theorem find?_toList (o : Option Element) {name : Name} (h : ∀ x ∈ o, x.name ≠ name) :
    o.toList.find? (·.name = name) = none := by
  cases o with
  | none => rfl
  | some x => simpa using h x rfl

theorem folderIds_node (name : Name) (ids : List FolderId) (as : List Attr) :
    folderIds (node name (ids.map fun id => node (typ "Folder") [idElement (typ "FolderId") id] []) as) =
      nonempty ids := by
  rw [← filterMap_id]
  simp [folderIds, List.filterMap_map, Element.child?, id?_idElement]

/-- **A message of a find response is read as it was written, empty ids aside.** -/
theorem FindMessage.ofElement_element (m : FindMessage) : FindMessage.ofElement m.element = m.trimmed := by
  have hnone (tag : String) (h : "RootFolder" ≠ tag) : (m.folders.map fun ids =>
      node (msg "RootFolder")
        [node (typ "Folders") (ids.map fun id => node (typ "Folder") [idElement (typ "FolderId") id] []) []]
        []).toList.find? (·.name = msg tag) = none := by
    refine find?_toList _ fun x hx => ?_
    obtain ⟨ids, -, rfl⟩ := Option.map_eq_some_iff.mp hx
    simpa using h
  have htext : childText? m.element (msg "MessageText") = m.text := by
    simp [childText?, Element.child?, FindMessage.element, find?_optional, hnone, Function.comp_def]
  have hcode : childText? m.element (msg "ResponseCode") = m.code := by
    simp [childText?, Element.child?, FindMessage.element, find?_optional, hnone, Function.comp_def]
  have hfolders : ((m.element.children (msg "RootFolder")).findSome? (·.child? (typ "Folders"))).map folderIds =
      m.folders.map nonempty := by
    have hskip (tag : String) (text : Option String) (h : tag ≠ "RootFolder") :=
      filter_optional tag text (show msg tag ≠ msg "RootFolder" by simpa using h)
    cases hm : m.folders with
    | none => simp [Element.children, FindMessage.element, hskip, hm]
    | some ids => simp [Element.children, FindMessage.element, hskip, hm, Element.child?, folderIds_node]
  rw [FindMessage.ofElement, hfolders, htext, hcode]
  rfl

theorem itemIds_itemChange (tag : String) (id : ItemId) :
    itemIds (itemChange tag id) = if id = "" then [] else [id] := by
  by_cases h : id = "" <;> simp [itemIds, itemChange, Element.child?, id?_idElement, h]

/-- **Changes are read as they were written, empty ids aside.** -/
theorem Changes.ofElement_element (c : Changes) : Changes.ofElement c.element = c.trimmed := by
  have hitems (tag : String) (ids : List ItemId) : (ids.map (itemChange tag)).flatMap itemIds = nonempty ids := by
    induction ids with
    | nil => rfl
    | cons id ids ih =>
      rw [List.map_cons, List.flatMap_cons, itemIds_itemChange, ih]
      by_cases h : id = "" <;> simp [nonempty, h]
  have hcreated : c.element.children (typ "Create") = c.created.map (itemChange "Create") := by
    simp [Element.children, Changes.element, List.filter_map, Function.comp_def, itemChange]
  have hupdated : c.element.children (typ "Update") = c.updated.map (itemChange "Update") := by
    simp [Element.children, Changes.element, List.filter_map, Function.comp_def, itemChange]
  have hdeleted : c.element.children (typ "Delete") =
      c.deleted.map fun id => node (typ "Delete") [idElement (typ "ItemId") id] [] := by
    simp [Element.children, Changes.element, List.filter_map, Function.comp_def, itemChange]
  have hids : (c.deleted.map fun id => node (typ "Delete") [idElement (typ "ItemId") id] []).filterMap
      (fun change => (change.child? (typ "ItemId")).bind id?) = nonempty c.deleted := by
    rw [← filterMap_id]
    simp [List.filterMap_map, Element.child?, id?_idElement]
  rw [Changes.ofElement, hcreated, hupdated, hdeleted, hitems, hitems, hids]
  rfl

theorem flagOfText_ofBool (b : Bool) : flagOfText (if b then "true" else "false") = b := by
  cases b <;> decide +kernel

/-- **A message of a sync response is read as it was written, empty ids aside.** -/
theorem SyncMessage.ofElement_element (m : SyncMessage) : SyncMessage.ofElement m.element = m.trimmed := by
  have hnone (tag : String) (h : "Changes" ≠ tag) :
      (m.changes.map Changes.element).toList.find? (·.name = msg tag) = none := by
    refine find?_toList _ fun x hx => ?_
    obtain ⟨c, -, rfl⟩ := Option.map_eq_some_iff.mp hx
    simpa [Changes.element] using h
  have htext : childText? m.element (msg "MessageText") = m.text := by
    simp [childText?, Element.child?, SyncMessage.element, find?_optional, hnone, Function.comp_def]
  have hcode : childText? m.element (msg "ResponseCode") = m.code := by
    simp [childText?, Element.child?, SyncMessage.element, find?_optional, hnone, Function.comp_def]
  have htoken : childText? m.element (msg "SyncState") = m.token := by
    simp [childText?, Element.child?, SyncMessage.element, find?_optional, hnone, Function.comp_def]
  have hlast : (childText? m.element (msg "IncludesLastItemInRange")).map flagOfText = m.last := by
    simp [childText?, Element.child?, SyncMessage.element, find?_optional, hnone, Function.comp_def, flagOfText_ofBool]
  have hchanges : (m.element.child? (msg "Changes")).map Changes.ofElement = m.changes.map Changes.trimmed := by
    cases hm : m.changes with
    | none => simp [Element.child?, SyncMessage.element, find?_optional, hm]
    | some c =>
      simp [Element.child?, SyncMessage.element, find?_optional, hm, Changes.ofElement_element,
        show c.element.name = msg "Changes" from rfl]
  rw [SyncMessage.ofElement, hcode, htoken, hlast, hchanges, htext]
  rfl

/-- **A response is read as it was written, empty ids aside.** -/
theorem Response.ofBody_element (r : Response) :
    Response.ofBody r.operation (node (soap "Body") [r.element] []) = some r.trimmed := by
  have hmessages (tag tag' : String) (es : List Element) (h : ∀ e ∈ es, e.name = msg tag') :
      messageElements (node (msg tag) [node (msg "ResponseMessages") es []] []) tag' = es := by
    simpa [messageElements, Element.children] using h
  cases r with
  | found ms =>
    have hms := hmessages "FindFolderResponse" "FindFolderResponseMessage" (ms.map FindMessage.element) (by
      simp [FindMessage.element])
    simp [ofBody, operation, element, Element.child?, hms, trimmed, FindMessage.ofElement_element, Function.comp_def]
  | synced ms =>
    have hms := hmessages "SyncFolderItemsResponse" "SyncFolderItemsResponseMessage" (ms.map SyncMessage.element) (by
      simp [SyncMessage.element])
    simp [ofBody, operation, element, Element.child?, hms, trimmed, SyncMessage.ofElement_element, Function.comp_def]

/-! ### What can be written -/

theorem writable_optional {tag : String} (ht : isTag tag = true) {text : Option String}
    (h : ∀ s ∈ text, Xml.Legal legal s) : ∀ e ∈ optional tag text, e.Writable prefixes legal := by
  cases text with
  | none => exact fun e he => nomatch he
  | some s =>
    rintro e he
    obtain rfl := List.mem_singleton.mp he
    exact writable_leaf (writable_msg ht) (h s rfl)

theorem FindMessage.writable_element {m : FindMessage} (hcode : ∀ s ∈ m.code, Xml.Legal legal s)
    (htext : ∀ s ∈ m.text, Xml.Legal legal s) (hids : ∀ ids ∈ m.folders, ∀ id ∈ ids, Xml.Legal legal id) :
    m.element.Writable prefixes legal := by
  refine writable_node (writable_msg (by simp)) writable_noAttrs fun e he => ?_
  rcases List.mem_append.mp he with he | he
  · rcases List.mem_append.mp he with he | he
    · exact writable_optional (by simp) htext e he
    · exact writable_optional (by simp) hcode e he
  · obtain ⟨ids, hsome, rfl⟩ := Option.map_eq_some_iff.mp (Option.mem_toList.mp he)
    refine writable_node (writable_msg (by simp)) writable_noAttrs fun e he => ?_
    obtain rfl := List.mem_singleton.mp he
    refine writable_node (writable_typ (by simp)) writable_noAttrs fun e he => ?_
    obtain ⟨id, hid, rfl⟩ := List.mem_map.mp he
    refine writable_node (writable_typ (by simp)) writable_noAttrs fun e he => ?_
    obtain rfl := List.mem_singleton.mp he
    exact writable_idElement (writable_typ (by simp)) (hids ids hsome id hid)

theorem writable_itemChange {tag : String} (ht : isTag tag = true) {id : ItemId} (h : Xml.Legal legal id) :
    (itemChange tag id).Writable prefixes legal := by
  refine writable_node (writable_typ ht) writable_noAttrs fun e he => ?_
  obtain rfl := List.mem_singleton.mp he
  refine writable_node (writable_typ (by simp)) writable_noAttrs fun e he => ?_
  obtain rfl := List.mem_singleton.mp he
  exact writable_idElement (writable_typ (by simp)) h

theorem Changes.writable_element {c : Changes}
    (h : ∀ id ∈ c.created ++ c.updated ++ c.deleted, Xml.Legal legal id) : c.element.Writable prefixes legal := by
  refine writable_node (writable_msg (by simp)) writable_noAttrs fun e he => ?_
  simp only [List.mem_append, List.mem_map] at he h
  rcases he with (⟨id, hid, rfl⟩ | ⟨id, hid, rfl⟩) | ⟨id, hid, rfl⟩
  · exact writable_itemChange (by simp) (h id (.inl (.inl hid)))
  · exact writable_itemChange (by simp) (h id (.inl (.inr hid)))
  · refine writable_node (writable_typ (by simp)) writable_noAttrs fun e he => ?_
    obtain rfl := List.mem_singleton.mp he
    exact writable_idElement (writable_typ (by simp)) (h id (.inr hid))

theorem SyncMessage.writable_element (hl : ∀ c, isClean c = true → legal c) {m : SyncMessage}
    (hcode : ∀ s ∈ m.code, Xml.Legal legal s) (htext : ∀ s ∈ m.text, Xml.Legal legal s)
    (htoken : ∀ s ∈ m.token, Xml.Legal legal s)
    (hids : ∀ c ∈ m.changes, ∀ id ∈ c.created ++ c.updated ++ c.deleted, Xml.Legal legal id) :
    m.element.Writable prefixes legal := by
  have hflag : ∀ s ∈ m.last.map (fun b => if b then "true" else "false"), Xml.Legal legal s := by
    intro s hs
    obtain ⟨b, -, rfl⟩ := Option.map_eq_some_iff.mp hs
    have hclean : ∀ b : Bool, Clean (if b then "true" else "false").toList := by decide +kernel
    exact fun c hc => hl c (hclean b c hc)
  refine writable_node (writable_msg (by simp)) writable_noAttrs fun e he => ?_
  simp only [List.mem_append] at he
  rcases he with (((he | he) | he) | he) | he
  · exact writable_optional (by simp) htext e he
  · exact writable_optional (by simp) hcode e he
  · exact writable_optional (by simp) htoken e he
  · exact writable_optional (by simp) hflag e he
  · obtain ⟨c, hsome, rfl⟩ := Option.map_eq_some_iff.mp (Option.mem_toList.mp he)
    exact Changes.writable_element (hids c hsome)

theorem Response.writable_element (hl : ∀ c, isClean c = true → legal c) {r : Response} (h : r.Legal legal) :
    r.element.Writable prefixes legal := by
  cases r with
  | found ms =>
    refine writable_node (writable_msg (by simp)) writable_noAttrs fun e he => ?_
    obtain rfl := List.mem_singleton.mp he
    refine writable_node (writable_msg (by simp)) writable_noAttrs fun e he => ?_
    obtain ⟨m, hm, rfl⟩ := List.mem_map.mp he
    obtain ⟨hcode, htext, hids⟩ := h m hm
    exact FindMessage.writable_element hcode htext hids
  | synced ms =>
    refine writable_node (writable_msg (by simp)) writable_noAttrs fun e he => ?_
    obtain rfl := List.mem_singleton.mp he
    refine writable_node (writable_msg (by simp)) writable_noAttrs fun e he => ?_
    obtain ⟨m, hm, rfl⟩ := List.mem_map.mp he
    obtain ⟨hcode, htext, htoken, hids⟩ := h m hm
    exact SyncMessage.writable_element hl hcode htext htoken hids

/-! ### Replies -/

theorem readBody_write {r : Option Response} (h : ∀ x ∈ r, x.Legal (isXmlChar · = true)) :
    readBody (Response.write r) = .ok (node (soap "Body") (r.map Response.element).toList []) := by
  have hwritable : (Response.toEnvelope r).Writable prefixes (isXmlChar · = true) := by
    refine writable_envelope (List.forall_mem_nil _) fun e he => ?_
    obtain ⟨x, hx, rfl⟩ := Option.map_eq_some_iff.mp (Option.mem_toList.mp he)
    exact Response.writable_element (fun _ => isXmlChar_of_isClean) (h x hx)
  have hdocument := Document.read_write (binds fun _ => isXmlChar_of_isClean) Escapes.exact_faithful hwritable
  unfold readBody
  rw [show (Response.write r).toList = octets (Document.write .exact prefixes (Response.toEnvelope r)) from rfl,
    hdocument]
  simp [Response.toEnvelope, child?_body _ (List.forall_mem_nil _)]

theorem isEmpty_of_readBody {bytes : ByteArray} {body : Element} (h : readBody bytes = .ok body) :
    bytes.isEmpty = false := by
  by_contra hempty
  have hsize : bytes.size = 0 := by simpa [ByteArray.isEmpty] using hempty
  have hnothing : Document.read ByteArray.empty.toList = .ok none := by decide +kernel
  rw [ByteArray.size_eq_zero_iff.mp hsize, readBody, hnothing] at h
  cases h

theorem Request.responseIn_eq {request : Request} {op : Operation} (hop : request.operation? = some op)
    (body : Element) : request.responseIn body = .ok (Response.ofBody op body) := by
  cases request with
  | find _ => cases hop; rfl
  | sync _ => cases hop; rfl
  | other _ => cases hop

theorem Request.responseIn_body {request : Request} {op : Operation} (hop : request.operation? = some op)
    (r : Option Response) : request.responseIn (node (soap "Body") (r.map Response.element).toList []) =
      .ok ((r.filter (·.operation = op)).map Response.trimmed) := by
  rw [responseIn_eq hop]
  cases r with
  | none => cases op <;> rfl
  | some r =>
    by_cases hkind : r.operation = op
    · subst hkind
      simpa [Option.filter] using r.ofBody_element
    · have hnone : Response.ofBody op (node (soap "Body") [r.element] []) = none := by
        cases r <;> cases op <;> simp [Response.operation] at hkind <;>
          simp [Response.ofBody, Response.element, Element.child?]
      simpa [Option.filter, hkind] using hnone

/-- **A reply is read as it was written, empty ids aside.** -/
theorem Request.responseIn_write {request : Request} {op : Operation} (hop : request.operation? = some op)
    {r : Option Response} (hr : ∀ x ∈ r, x.operation = op ∧ x.Legal (isXmlChar · = true)) :
    ∃ body, readBody (Response.write r) = .ok body ∧ request.responseIn body = .ok (r.map Response.trimmed) := by
  refine ⟨_, readBody_write fun x hx => (hr x hx).2, (Request.responseIn_body hop r).trans ?_⟩
  cases r with
  | none => rfl
  | some r => simp [Option.filter, (hr r rfl).1]

end Responses

end MailboxSync
