import Mathlib.Data.Option.Basic
import Mathlib.Logic.Relation
import MailboxSync.Proofs.Envelopes

/-!
# What is not read in a response

Of the tree of a response only some elements are read, at fixed places, and of most of these only their children.

* `Spot` — the spots of the elements that are read; `Spot.below` — where a child stands, `Spot.unread` if nothing of
  it is read;
* `Edit` — one change to a tree, at a spot or below it, that touches nothing that is read there;
* `Edit.children`, `Edit.child?` — the elements that are looked for are found again, at most edited themselves;
* `Edit.ofBody_eq` — so the response in a body stays;
* `edits_unread` — **any number of such changes, made or undone anywhere in an envelope, lead to the same body up to
  such changes, to the same response and to the same failures.**

Spots nest to a fixed depth.  So there is no induction over edits: each function of the reader has one lemma, about
edits at its spot, and uses the one about the spots below.
-/

namespace MailboxSync

open Xml Soap

/-! ## Spots -/

/-- The spots of the elements that are read. -/
inductive Spot where
  | envelope
  | body
  | response
  | messages
  | message
  | rootFolder
  | folders
  | changes
  /-- A change that holds items. -/
  | items
  /-- An element that holds an id in an element of this name. -/
  | holder (tag : String)
  | handle
  /-- An element of which the text is read. -/
  | leaf
  | unread
  deriving DecidableEq, Repr

def Operation.responseTag : Operation → String
  | .find => "FindFolderResponse"
  | .sync => "SyncFolderItemsResponse"

def Operation.messageTag : Operation → String
  | .find => "FindFolderResponseMessage"
  | .sync => "SyncFolderItemsResponseMessage"

/-- The names of the elements in a message whose text is read. -/
def Operation.leafTags : Operation → List String
  | .find => ["ResponseCode", "MessageText"]
  | .sync => ["ResponseCode", "MessageText", "SyncState", "IncludesLastItemInRange"]

def Spot.below (op : Operation) : Spot → Name → Spot
  | envelope, n => if n = soap "Body" then body else unread
  | body, n => if n = msg op.responseTag then response else unread
  | response, n => if n = msg "ResponseMessages" then messages else unread
  | messages, n => if n = msg op.messageTag then message else unread
  | message, n =>
    if n ∈ op.leafTags.map msg then leaf
    else if op = .find ∧ n = msg "RootFolder" then rootFolder
    else if op = .sync ∧ n = msg "Changes" then changes
    else unread
  | rootFolder, n => if n = typ "Folders" then folders else unread
  | folders, _ => holder "FolderId"
  | changes, n =>
    if n = typ "Create" ∨ n = typ "Update" then items else if n = typ "Delete" then holder "ItemId" else unread
  | items, _ => holder "ItemId"
  | holder tag, n => if n = typ tag then handle else unread
  | handle, _ => unread
  | leaf, _ => unread
  | unread, _ => unread

/-! ## Edits -/

def Xml.Element.before (e : Element) (k : Content) : Content := .element e.name e.attrs e.inner k

@[simp] theorem Xml.Element.elements_before (e : Element) (k : Content) : (e.before k).elements = e :: k.elements := rfl

/-- One change to an element at a spot, or to something inside it, that touches nothing that is read. -/
inductive Edit (op : Operation) : Spot → Element → Element → Prop
  /-- An element is put in among the children whose name is not read there. -/
  | insert {p : Spot} {name : Name} {attrs : List Attr} (front back : Content) (x : Element) (hp : p ≠ .leaf)
    (hx : p.below op x.name = .unread) :
    Edit op p ⟨name, attrs, front.append back⟩ ⟨name, attrs, front.append (x.before back)⟩
  /-- An attribute is added. -/
  | attr {p : Spot} {name : Name} {k : Content} (front back : List Attr) (a : Attr) (ha : a.1 ≠ idName) :
    Edit op p ⟨name, front ++ back, k⟩ ⟨name, front ++ a :: back, k⟩
  /-- The texts among the children change. -/
  | text {p : Spot} {name : Name} {attrs : List Attr} {k k' : Content} (hp : p ≠ .leaf)
    (hk : k'.elements = k.elements) : Edit op p ⟨name, attrs, k⟩ ⟨name, attrs, k'⟩
  /-- Two children of a message change places. -/
  | swap {name : Name} {attrs : List Attr} (front back : Content) (x y : Element) (hxy : x.name ≠ y.name) :
    Edit op .message ⟨name, attrs, front.append (x.before (y.before back))⟩
      ⟨name, attrs, front.append (y.before (x.before back))⟩
  /-- An element is added to a message that has one of its name.  Only of folder sections more than one is looked at. -/
  | again {name : Name} {attrs : List Attr} {k : Content} (x y : Element) (hx : x ∈ k.elements)
    (hname : y.name = x.name) (hy : y.name ≠ msg "RootFolder") :
    Edit op .message ⟨name, attrs, k⟩ ⟨name, attrs, k.append (y.before .done)⟩
  /-- A child is edited. -/
  | inside {p : Spot} {name : Name} {attrs : List Attr} {x y : Element} (front back : Content)
    (h : Edit op (p.below op x.name) x y) :
    Edit op p ⟨name, attrs, front.append (x.before back)⟩ ⟨name, attrs, front.append (y.before back)⟩

namespace Edit

variable {op : Operation} {p : Spot} {e e' : Element}

theorem name_eq (h : Edit op p e e') : e'.name = e.name := by cases h <;> rfl

theorem id?_eq (h : Edit op p e e') : id? e' = id? e := by
  have hattr : e'.attr? idName = e.attr? idName := by
    cases h with
    | attr front back a ha =>
      have hne : (idName == a.1) = false := by simpa using Ne.symm ha
      rw [Element.attr?, Element.attr?, List.lookup_append, List.lookup_append, List.lookup_cons, hne]
    | _ => rfl
  rw [id?, id?, hattr]

theorem leading_append_before (front : Content) (x y : Element) (back back' : Content) :
    (front.append (x.before back)).leading = (front.append (y.before back')).leading := by
  induction front with
  | done => rfl
  | char c rest ih => exact congrArg (c :: ·) ih
  | element => rfl

theorem text_eq (h : Edit op .leaf e e') : e'.text = e.text := by
  cases h with
  | insert _ _ _ hp _ => exact absurd rfl hp
  | attr _ _ _ _ => rfl
  | text hp _ => exact absurd rfl hp
  | inside _ _ _ => exact congrArg String.ofList (leading_append_before ..)

/-- What edits make of an element that is read: it stays, or is edited itself. -/
abbrev Kept (op : Operation) (p : Spot) : Element → Element → Prop := Relation.ReflGen (Edit op p)

theorem Kept.eq {α : Type} {f : Element → α} (h : Kept op p e e') (hf : ∀ {x y}, Edit op p x y → f y = f x) :
    f e' = f e := by
  cases h with
  | refl => rfl
  | single h => exact hf h

theorem kept_of_eq {xs ys : List Element} (h : ys = xs) : List.Forall₂ (Kept op p) xs ys :=
  h ▸ List.forall₂_same.mpr fun _ _ => .refl

theorem kept_append {front back : List Element} {x y : Element} (h : Kept op p x y) :
    List.Forall₂ (Kept op p) (front ++ x :: back) (front ++ y :: back) :=
  List.rel_append (kept_of_eq rfl) (.cons h (kept_of_eq rfl))

/-- **The children of a name that is read are found again, in their order**, except that a message may have one more. -/
theorem children_cases (h : Edit op p e e') (name : Name) (hname : p.below op name ≠ .unread) :
    List.Forall₂ (Kept op (p.below op name)) (e.children name) (e'.children name) ∨
      p = .message ∧ name ≠ msg "RootFolder" ∧ e.children name ≠ [] ∧
        ∃ y, e'.children name = e.children name ++ [y] := by
  cases h with
  | insert front back x hp hx =>
    have hne : x.name ≠ name := by
      rintro rfl
      exact hname hx
    refine .inl (kept_of_eq ?_)
    simp [Element.children, Element.elements, Content.elements_append, hne]
  | attr _ _ _ _ => exact .inl (kept_of_eq rfl)
  | text _ hk => exact .inl (kept_of_eq (by simp [Element.children, Element.elements, hk]))
  | swap front back x y hxy =>
    refine .inl (kept_of_eq ?_)
    by_cases hx : x.name = name
    · have hy : y.name ≠ name := hx ▸ hxy.symm
      simp [Element.children, Element.elements, Content.elements_append, hx, hy]
    · simp [Element.children, Element.elements, Content.elements_append, List.filter_cons, hx]
  | @again _ _ k x y hx hyx hy =>
    by_cases hyn : y.name = name
    · refine .inr ⟨rfl, hyn ▸ hy, ?_, y, ?_⟩
      · exact List.ne_nil_of_mem (List.mem_filter.mpr ⟨hx, by simp [← hyx, hyn]⟩)
      · simp [Element.children, Element.elements, Content.elements_append, Content.elements, hyn]
    · refine .inl (kept_of_eq ?_)
      simp [Element.children, Element.elements, Content.elements_append, Content.elements, hyn]
  | @inside _ _ _ x y front back h =>
    have hy : y.name = x.name := h.name_eq
    left
    by_cases hx : x.name = name
    · have hxy : Kept op (p.below op name) x y := hx ▸ .single h
      simpa [Element.children, Element.elements, Content.elements_append, hx, hy] using kept_append hxy
    · refine kept_of_eq ?_
      simp [Element.children, Element.elements, Content.elements_append, hx, hy]

theorem children (h : Edit op p e e') (name : Name) (hname : p.below op name ≠ .unread)
    (hmessage : p = .message → name = msg "RootFolder") :
    List.Forall₂ (Kept op (p.below op name)) (e.children name) (e'.children name) := by
  rcases h.children_cases name hname with h | ⟨hp, hne, -⟩
  · exact h
  · exact absurd (hmessage hp) hne

theorem child? (h : Edit op p e e') (name : Name) (hname : p.below op name ≠ .unread) :
    Option.Rel (Kept op (p.below op name)) (e.child? name) (e'.child? name) := by
  have hhead (x : Element) : x.child? name = (x.children name).head? := by
    rw [Element.children, List.head?_filter]
    rfl
  rw [hhead, hhead]
  rcases h.children_cases name hname with h | ⟨-, -, hne, y, heq⟩
  · generalize e.children name = xs, e'.children name = ys at h
    cases h with
    | nil => exact .none
    | cons h _ => exact .some h
  · rw [heq, List.head?_append_of_ne_nil _ hne]
    obtain ⟨x, xs, hxs⟩ := List.exists_cons_of_ne_nil hne
    rw [hxs]
    exact .some .refl

theorem elements (h : Edit op p e e') {q : Spot} (hq : ∀ name, p.below op name = q) (hne : q ≠ .unread) :
    List.Forall₂ (Kept op q) e.elements e'.elements := by
  -- in a message some names are not read
  have hmessage : p ≠ .message := by
    rintro rfl
    have hblank : Spot.message.below op ⟨"", ""⟩ = .unread := by cases op <;> decide +kernel
    exact hne ((hq _).symm.trans hblank)
  cases h with
  | insert _ _ _ _ hx => exact absurd ((hq _).symm.trans hx) hne
  | attr _ _ _ _ => exact kept_of_eq rfl
  | text _ hk => exact kept_of_eq hk
  | swap _ _ _ _ _ => exact absurd rfl hmessage
  | again _ _ _ _ _ => exact absurd rfl hmessage
  | @inside _ _ _ x y front back h =>
    have hxy : Kept op q x y := .single (hq x.name ▸ h)
    simpa [Element.elements, Content.elements_append] using kept_append hxy

/-! ## Readers -/

theorem map_eq {α : Type} {f : Element → α} {xs ys : List Element} (h : List.Forall₂ (Kept op p) xs ys)
    (hf : ∀ {x y}, Edit op p x y → f y = f x) : ys.map f = xs.map f := by
  induction h with
  | nil => rfl
  | cons h _ ih => rw [List.map_cons, List.map_cons, h.eq hf, ih]

theorem filterMap_eq {α : Type} {f : Element → Option α} {xs ys : List Element}
    (h : List.Forall₂ (Kept op p) xs ys) (hf : ∀ {x y}, Edit op p x y → f y = f x) :
    ys.filterMap f = xs.filterMap f := by
  rw [List.filterMap_eq_flatMap_toList, List.filterMap_eq_flatMap_toList, List.flatMap_def, List.flatMap_def,
    map_eq h fun h => congrArg Option.toList (hf h)]

theorem flatMap_eq {α : Type} {f : Element → List α} {xs ys : List Element} (h : List.Forall₂ (Kept op p) xs ys)
    (hf : ∀ {x y}, Edit op p x y → f y = f x) : ys.flatMap f = xs.flatMap f := by
  rw [List.flatMap_def, List.flatMap_def, map_eq h hf]

theorem map_child? {α : Type} {f : Element → α} (h : Edit op p e e') (name : Name)
    (hname : p.below op name ≠ .unread) (hf : ∀ {x y}, Edit op (p.below op name) x y → f y = f x) :
    (e'.child? name).map f = (e.child? name).map f := by
  have hrel := h.child? name hname
  generalize e.child? name = o, e'.child? name = o' at hrel
  cases hrel with
  | none => rfl
  | some h => exact congrArg some (h.eq hf)

theorem heldId_eq {tag : String} (h : Edit op (.holder tag) e e') :
    (e'.child? (typ tag)).bind id? = (e.child? (typ tag)).bind id? := by
  have hrel := h.child? (typ tag) (by simp [Spot.below])
  generalize e.child? (typ tag) = o, e'.child? (typ tag) = o' at hrel
  cases hrel with
  | none => rfl
  | some h => exact h.eq id?_eq

theorem folderIds_eq (h : Edit op .folders e e') : folderIds e' = folderIds e :=
  filterMap_eq (h.elements (fun _ => rfl) (by simp)) heldId_eq

theorem itemIds_eq (h : Edit op .items e e') : itemIds e' = itemIds e :=
  filterMap_eq (h.elements (fun _ => rfl) (by simp)) heldId_eq

theorem changes_eq (h : Edit op .changes e e') : Changes.ofElement e' = Changes.ofElement e := by
  have hcreate : Spot.changes.below op (typ "Create") = .items := by simp [Spot.below]
  have hupdate : Spot.changes.below op (typ "Update") = .items := by simp [Spot.below]
  have hdelete : Spot.changes.below op (typ "Delete") = .holder "ItemId" := by simp [Spot.below]
  have hcreated := h.children (typ "Create") (by simp [hcreate]) (by simp)
  have hupdated := h.children (typ "Update") (by simp [hupdate]) (by simp)
  have hdeleted := h.children (typ "Delete") (by simp [hdelete]) (by simp)
  rw [hcreate] at hcreated
  rw [hupdate] at hupdated
  rw [hdelete] at hdeleted
  rw [Changes.ofElement, Changes.ofElement, flatMap_eq hcreated itemIds_eq, flatMap_eq hupdated itemIds_eq,
    filterMap_eq hdeleted heldId_eq]

theorem childText?_eq (h : Edit op .message e e') {tag : String} (ht : tag ∈ op.leafTags) :
    childText? e' (msg tag) = childText? e (msg tag) := by
  have hleaf : Spot.message.below op (msg tag) = .leaf := by simp [Spot.below, ht]
  exact h.map_child? (msg tag) (by simp [hleaf]) fun hx => text_eq (hleaf ▸ hx)

theorem findMessage_eq (h : Edit .find .message e e') : FindMessage.ofElement e' = FindMessage.ofElement e := by
  have hroot : Spot.message.below .find (msg "RootFolder") = .rootFolder := by
    simp [Spot.below, Operation.leafTags]
  have hchildren := h.children (msg "RootFolder") (by simp [hroot]) fun _ => rfl
  rw [hroot] at hchildren
  have hfolders (x : Element) : ((x.children (msg "RootFolder")).findSome? (·.child? (typ "Folders"))).map folderIds =
      ((x.children (msg "RootFolder")).map fun r => (r.child? (typ "Folders")).map folderIds).findSome? id := by
    rw [List.map_findSome?, List.findSome?_map]
    rfl
  have hsection : ∀ {x y}, Edit .find .rootFolder x y →
      (y.child? (typ "Folders")).map folderIds = (x.child? (typ "Folders")).map folderIds := by
    intro x y hxy
    have hbelow : Spot.rootFolder.below .find (typ "Folders") = .folders := by simp [Spot.below]
    exact hxy.map_child? (typ "Folders") (by simp [hbelow]) fun hf => folderIds_eq (hbelow ▸ hf)
  rw [FindMessage.ofElement, FindMessage.ofElement, h.childText?_eq (by simp [Operation.leafTags]),
    h.childText?_eq (by simp [Operation.leafTags]), hfolders, hfolders, map_eq hchildren hsection]

theorem syncMessage_eq (h : Edit .sync .message e e') : SyncMessage.ofElement e' = SyncMessage.ofElement e := by
  have hbelow : Spot.message.below .sync (msg "Changes") = .changes := by simp [Spot.below, Operation.leafTags]
  have hchanges := h.map_child? (msg "Changes") (by simp [hbelow]) fun hx =>
    changes_eq (hbelow ▸ hx)
  have htext (tag : String) (ht : tag ∈ Operation.sync.leafTags) := h.childText?_eq ht
  rw [SyncMessage.ofElement, SyncMessage.ofElement, hchanges, htext _ (by simp [Operation.leafTags]),
    htext _ (by simp [Operation.leafTags]), htext _ (by simp [Operation.leafTags]),
    htext _ (by simp [Operation.leafTags])]

theorem map_messageElements {α : Type} {f : Element → α} (h : Edit op .response e e')
    (hf : ∀ {x y}, Edit op .message x y → f y = f x) :
    (messageElements e' op.messageTag).map f = (messageElements e op.messageTag).map f := by
  have hmessages : Spot.response.below op (msg "ResponseMessages") = .messages := by simp [Spot.below]
  have hmessage : Spot.messages.below op (msg op.messageTag) = .message := by simp [Spot.below]
  have hchildren := h.children (msg "ResponseMessages") (by simp [hmessages]) (by simp)
  rw [hmessages] at hchildren
  rw [messageElements, messageElements, List.map_flatMap, List.map_flatMap]
  refine flatMap_eq hchildren fun hx => ?_
  have hx := hx.children (msg op.messageTag) (by simp [hmessage]) (by simp)
  rw [hmessage] at hx
  exact map_eq hx hf

/-- **The response in a body stays.** -/
theorem ofBody_eq (h : Edit op .body e e') : Response.ofBody op e' = Response.ofBody op e := by
  have hbelow : Spot.body.below op (msg op.responseTag) = .response := by simp [Spot.below]
  cases op with
  | find =>
    refine h.map_child? (msg "FindFolderResponse") (by simp [Spot.below, Operation.responseTag]) fun hx => ?_
    exact congrArg Response.found ((hbelow ▸ hx).map_messageElements findMessage_eq)
  | sync =>
    refine h.map_child? (msg "SyncFolderItemsResponse") (by simp [Spot.below, Operation.responseTag])
      fun hx => ?_
    exact congrArg Response.synced ((hbelow ▸ hx).map_messageElements syncMessage_eq)

theorem body (h : Edit op .envelope e e') :
    Option.Rel (Kept op .body) (e.child? (soap "Body")) (e'.child? (soap "Body")) := by
  have hbelow : Spot.envelope.below op (soap "Body") = .body := by simp [Spot.below]
  exact hbelow ▸ h.child? (soap "Body") (by simp [hbelow])

end Edit

/-! ## Any number of edits -/

/-- Trees that edits lead to from one another, made or undone. -/
abbrev Edits (op : Operation) (p : Spot) : Element → Element → Prop := Relation.EqvGen (Edit op p)

theorem Edit.Kept.edits {op : Operation} {p : Spot} {e e' : Element} (h : Edit.Kept op p e e') : Edits op p e e' := by
  cases h with
  | refl => exact .refl _
  | single h => exact .rel _ _ h

theorem Edits.name_eq {op : Operation} {p : Spot} {e e' : Element} (h : Edits op p e e') : e'.name = e.name := by
  induction h with
  | rel _ _ h => exact h.name_eq
  | refl _ => rfl
  | symm _ _ _ ih => exact ih.symm
  | trans _ _ _ _ _ ih ih' => exact ih'.trans ih

theorem Edits.ofBody_eq {op : Operation} {b b' : Element} (h : Edits op .body b b') :
    Response.ofBody op b' = Response.ofBody op b := by
  induction h with
  | rel _ _ h => exact h.ofBody_eq
  | refl _ => rfl
  | symm _ _ _ ih => exact ih.symm
  | trans _ _ _ _ _ ih ih' => exact ih'.trans ih

theorem Edits.inside {op : Operation} {p : Spot} {name : Name} {attrs : List Attr} {x y : Element}
    (front back : Content) (h : Edits op (p.below op x.name) x y) :
    Edits op p ⟨name, attrs, front.append (x.before back)⟩ ⟨name, attrs, front.append (y.before back)⟩ := by
  generalize hq : p.below op x.name = q at h
  induction h with
  | rel x y h =>
    subst hq
    exact .rel _ _ (.inside front back h)
  | refl _ => exact .refl _
  | symm x y h ih => exact (ih (Edits.name_eq h ▸ hq)).symm
  | trans x y z h _ ih ih' => exact (ih hq).trans _ _ _ (ih' (Edits.name_eq h ▸ hq))

/-- The body is found again, at most edited itself. -/
theorem Edits.body {op : Operation} {e e' : Element} (h : Edits op .envelope e e') :
    Option.Rel (Edits op .body) (e.child? (soap "Body")) (e'.child? (soap "Body")) := by
  induction h with
  | rel x y h =>
    have hbody := h.body
    generalize x.child? (soap "Body") = o, y.child? (soap "Body") = o' at hbody
    cases hbody with
    | none => exact .none
    | some h => exact .some h.edits
  | refl x =>
    cases x.child? (soap "Body") with
    | none => exact .none
    | some b => exact .some (.refl b)
  | symm x y _ ih =>
    generalize x.child? (soap "Body") = o, y.child? (soap "Body") = o' at ih
    cases ih with
    | none => exact .none
    | some h => exact .some h.symm
  | trans x y z _ _ ih ih' =>
    generalize x.child? (soap "Body") = o, y.child? (soap "Body") = o', z.child? (soap "Body") = o'' at ih ih'
    cases ih with
    | none => exact ih'
    | some h =>
      cases ih' with
      | some h' => exact .some (h.trans _ _ _ h')

/-- **Everything else in a response is passed over.**  When edits lead from one envelope to another, the body is found
in both or in none, and from one body to the other lead edits too; a request of the operation finds the same response in
both.  So whatever the octets that are read as the two, what comes of them is the same, be it a failure. -/
theorem edits_unread {op : Operation} {root root' : Element} (h : Edits op .envelope root root') :
    Option.Rel (Edits op .body) (root.child? (soap "Body")) (root'.child? (soap "Body")) ∧
      (root'.child? (soap "Body")).map (Response.ofBody op) = (root.child? (soap "Body")).map (Response.ofBody op) ∧
      ∀ (bytes bytes' : ByteArray) (request : Request), request.operation? = some op →
        Document.read bytes.toList = .ok (some root) → Document.read bytes'.toList = .ok (some root') →
        (readBody bytes').bind request.responseIn = (readBody bytes).bind request.responseIn := by
  have hbody := h.body
  have hresponse : (root'.child? (soap "Body")).map (Response.ofBody op) =
      (root.child? (soap "Body")).map (Response.ofBody op) := by
    generalize root.child? (soap "Body") = o, root'.child? (soap "Body") = o' at hbody
    cases hbody with
    | none => rfl
    | some h => exact congrArg some h.ofBody_eq
  refine ⟨hbody, hresponse, fun bytes bytes' request hop hread hread' => ?_⟩
  have hin := Request.responseIn_eq hop
  unfold readBody
  simp only [hread, hread', h.name_eq]
  split
  · rfl
  · generalize root.child? (soap "Body") = o, root'.child? (soap "Body") = o' at hresponse
    cases o <;> cases o' <;> simp_all [Except.bind]

/-- A message with changes. -/
def bareMessage : Element :=
  node (msg "SyncFolderItemsResponseMessage")
    [leaf (msg "ResponseCode") "NoError", leaf (msg "SyncState") "a@1",
      node (msg "Changes") [itemChange "Create" "x"] []] []

/-- The same message with an attribute, elements of other names, a second code, and its parts in another order. -/
def strewnMessage : Element :=
  node (msg "SyncFolderItemsResponseMessage")
    [leaf (typ "SyncState") "b@9", leaf (msg "SyncState") "a@1", leaf (msg "ResponseCode") "NoError",
      node (msg "Changes") [node (msg "Create") [itemChange "Create" "z"] [], itemChange "Create" "x"] [],
      leaf (msg "ResponseCode") "ErrorServerBusy"] [(⟨"", "ResponseClass"⟩, "Success")]

theorem strewnMessage_edits : Edits .sync .message bareMessage strewnMessage := by
  have hchanges : Edits .sync .changes (node (msg "Changes") [itemChange "Create" "x"] [])
      (node (msg "Changes") [node (msg "Create") [itemChange "Create" "z"] [], itemChange "Create" "x"] []) :=
    .rel _ _ (.insert .done _ _ (by decide) (by decide +kernel))
  have hclass : (⟨"", "ResponseClass"⟩ : Name) ≠ idName := by decide
  refine .trans _ _ _ (.rel _ _ (.attr [] [] (_, "Success") hclass)) ?_
  refine .trans _ _ _ (.rel _ _ (.swap .done _ (leaf (msg "ResponseCode") "NoError")
    (leaf (msg "SyncState") "a@1") (by decide))) ?_
  refine .trans _ _ _ (.rel _ _ (.insert .done _ (leaf (typ "SyncState") "b@9") (by decide) (by decide +kernel))) ?_
  refine .trans _ _ _ (Edits.inside (.ofElements [leaf (typ "SyncState") "b@9", leaf (msg "SyncState") "a@1",
    leaf (msg "ResponseCode") "NoError"]) .done hchanges) ?_
  exact .rel _ _ (.again (leaf (msg "ResponseCode") "NoError") (leaf (msg "ResponseCode") "ErrorServerBusy")
    (by decide +kernel) rfl (by decide))

def replied (header : List Element) (message : Element) : Element :=
  envelope header [node (msg "SyncFolderItemsResponse") [node (msg "ResponseMessages") [message] []] []]

theorem writable_replied {header : List Element} {message : Element}
    (hh : ∀ c ∈ header, c.Writable prefixes (isXmlChar · = true))
    (hm : message.Writable prefixes (isXmlChar · = true)) :
    (replied header message).Writable prefixes (isXmlChar · = true) := by
  refine writable_envelope hh (List.forall_mem_singleton.mpr ?_)
  refine writable_node (writable_msg (by simp)) writable_noAttrs (List.forall_mem_singleton.mpr ?_)
  exact writable_node (writable_msg (by simp)) writable_noAttrs (List.forall_mem_singleton.mpr hm)

theorem writable_bareMessage : bareMessage.Writable prefixes (isXmlChar · = true) :=
  SyncMessage.writable_element (m := { token := some "a@1", changes := some ⟨["x"], [], []⟩ })
    (fun _ => isXmlChar_of_isClean) (by decide +kernel) (by decide +kernel) (by decide +kernel) (by decide +kernel)

theorem writable_strewnMessage : strewnMessage.Writable prefixes (isXmlChar · = true) := by
  have hchange (id : ItemId) (h : Legal (isXmlChar · = true) id) :=
    writable_itemChange (show isTag "Create" = true by simp) h
  have hchanges : (node (msg "Changes") [node (msg "Create") [itemChange "Create" "z"] [], itemChange "Create" "x"]
      []).Writable prefixes (isXmlChar · = true) := by
    refine writable_node (writable_msg (by simp)) writable_noAttrs ?_
    simp only [List.forall_mem_cons]
    refine ⟨writable_node (writable_msg (by simp)) writable_noAttrs ?_, hchange "x" (by decide +kernel),
      List.forall_mem_nil _⟩
    exact List.forall_mem_singleton.mpr (hchange "z" (by decide +kernel))
  refine writable_node (writable_msg (by simp)) (writable_attr (by decide +kernel) (by decide)
    (by decide +kernel)) ?_
  simp only [List.forall_mem_cons]
  exact ⟨writable_leaf (writable_typ (by simp)) (by decide +kernel),
    writable_leaf (writable_msg (by simp)) (by decide +kernel),
    writable_leaf (writable_msg (by simp)) (by decide +kernel), hchanges,
    writable_leaf (writable_msg (by simp)) (by decide +kernel), List.forall_mem_nil _⟩

/-- The replies with these messages, one with a header, are read alike. -/
theorem strewn_unread :
    Edits .sync .envelope (replied [] bareMessage) (replied [leaf (soap "Header") "Body"] strewnMessage) ∧
      ∃ bytes bytes' : ByteArray, Document.read bytes.toList = .ok (some (replied [] bareMessage)) ∧
        Document.read bytes'.toList = .ok (some (replied [leaf (soap "Header") "Body"] strewnMessage)) ∧
        (readBody bytes').bind (Request.responseIn (.sync { folder := "a", token := "", limit := 1 })) =
          .ok (some (.synced [{ token := some "a@1", changes := some ⟨["x"], [], []⟩ }])) := by
  have hreplied : Edits .sync .envelope (replied [] bareMessage) (replied [] strewnMessage) := by
    refine .inside .done .done ?_
    refine .inside .done .done ?_
    refine .inside .done .done ?_
    exact .inside .done .done strewnMessage_edits
  have h : Edits .sync .envelope (replied [] bareMessage) (replied [leaf (soap "Header") "Body"] strewnMessage) :=
    hreplied.trans _ _ _ (.rel _ _ (.insert .done _ _ (by decide) (by decide +kernel)))
  have hread (root : Element) (hroot : root.Writable prefixes (isXmlChar · = true)) :
      Document.read (Document.write .exact prefixes root).toUTF8.toList = .ok (some root) :=
    Document.read_write (binds fun _ => isXmlChar_of_isClean) Escapes.exact_faithful hroot
  have hbare := hread (replied [] bareMessage) (writable_replied (by simp) writable_bareMessage)
  have hstrewn := hread (replied [leaf (soap "Header") "Body"] strewnMessage)
    (writable_replied (by simpa using writable_leaf (writable_soap (by simp)) (by decide +kernel))
      writable_strewnMessage)
  refine ⟨h, _, _, hbare, hstrewn, ((edits_unread h).2.2 _ _ _ rfl hbare hstrewn).trans ?_⟩
  rw [readBody, hbare]
  decide +kernel

end MailboxSync
