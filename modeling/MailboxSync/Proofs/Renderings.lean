import MailboxSync.Proofs.Envelopes

/-!
# Responses in every form they are written in

One response may be written in many ways: the three kinds of changes stand in any order among one another, and the
elements around ids have any name.

* `Rendering` — a response with these choices made; `Rendering.response` — the response without them;
* `Rendering.element`, `Rendering.write` — the rendering as an element of the body, and as octets;
* `Changes.ofElement_rendered` — the ids of each kind are found in their order, whatever stands between them;
* `Response.read_rendered` — **every rendering of a response is read as the response**, its empty ids aside, by a
  request of its operation, and as nothing by one of the other.
-/

namespace MailboxSync

open Xml Soap

/-! ## Renderings -/

/-- An id with the name of the element that stands around it. -/
structure Entry where
  tag : String
  id : String
  deriving DecidableEq, Repr

/-- A message of a find response as it is written. -/
structure FindRendering where
  code : Option String := some noError
  folders : Option (List Entry) := none
  text : Option String := none
  deriving DecidableEq, Repr

/-- A message of a sync response as it is written: its changes in one list, each with the name of the item's element. -/
structure SyncRendering where
  code : Option String := some noError
  token : Option Token := none
  last : Option Bool := none
  changes : Option (List (String × Change)) := none
  text : Option String := none
  deriving DecidableEq, Repr

/-- A response as it is written. -/
inductive Rendering where
  | found (messages : List FindRendering)
  | synced (messages : List SyncRendering)
  deriving DecidableEq, Repr

def FindRendering.message (m : FindRendering) : FindMessage where
  code := m.code
  folders := m.folders.map (·.map Entry.id)
  text := m.text

def changesOf (cs : List (String × Change)) : Changes := Mailbox.page (cs.map (·.2))

def SyncRendering.message (m : SyncRendering) : SyncMessage where
  code := m.code
  token := m.token
  last := m.last
  changes := m.changes.map changesOf
  text := m.text

def Rendering.response : Rendering → Response
  | found ms => .found (ms.map FindRendering.message)
  | synced ms => .synced (ms.map SyncRendering.message)

/-! ### As elements -/

def rootElement (es : List Entry) : Element :=
  node (msg "RootFolder")
    [node (typ "Folders") (es.map fun e => node (typ e.tag) [idElement (typ "FolderId") e.id] []) []] []

def FindRendering.element (m : FindRendering) : Element :=
  node (msg "FindFolderResponseMessage")
    (optional "MessageText" m.text ++ optional "ResponseCode" m.code ++ (m.folders.map rootElement).toList) []

/-- A change as an element; a deletion holds the id itself. -/
def changeElement (c : String × Change) : Element :=
  match c.2 with
  | .created id => node (typ "Create") [node (typ c.1) [idElement (typ "ItemId") id] []] []
  | .updated id => node (typ "Update") [node (typ c.1) [idElement (typ "ItemId") id] []] []
  | .deleted id => node (typ "Delete") [idElement (typ "ItemId") id] []

def changesElement (cs : List (String × Change)) : Element := node (msg "Changes") (cs.map changeElement) []

/-- A message of a sync response as an element. -/
def SyncRendering.element (m : SyncRendering) : Element :=
  node (msg "SyncFolderItemsResponseMessage")
    (optional "MessageText" m.text ++ optional "ResponseCode" m.code ++ optional "SyncState" m.token ++
      optional "IncludesLastItemInRange" (m.last.map fun b => if b then "true" else "false") ++
      (m.changes.map changesElement).toList)
    []

def Rendering.element : Rendering → Element
  | found ms => node (msg "FindFolderResponse") [node (msg "ResponseMessages") (ms.map FindRendering.element) []] []
  | synced ms =>
    node (msg "SyncFolderItemsResponse") [node (msg "ResponseMessages") (ms.map SyncRendering.element) []] []

/-- A rendering as octets: markup and carriage returns are escaped everywhere, line feeds and tabs in attributes. -/
def Rendering.write (d : Rendering) : ByteArray :=
  (Document.write .exact prefixes (envelope [] [d.element])).toUTF8

def Rendering.Tagged : Rendering → Prop
  | found ms => ∀ m ∈ ms, ∀ es ∈ m.folders, ∀ e ∈ es, isTag e.tag = true
  | synced ms => ∀ m ∈ ms, ∀ cs ∈ m.changes, ∀ c ∈ cs, isTag c.1 = true

/-! ### Every response has one -/

/-- The changes of a response, one kind after another. -/
def Changes.listed (c : Changes) : List (String × Change) :=
  (c.created.map Change.created ++ c.updated.map Change.updated ++ c.deleted.map Change.deleted).map ("Message", ·)

theorem changesOf_listed (c : Changes) : changesOf c.listed = c := by
  simp [changesOf, Changes.listed, Mailbox.page, Function.comp_def, List.filterMap_map, Change.created?,
    Change.updated?, Change.deleted?]

theorem Response.exists_rendering (r : Response) : ∃ d : Rendering, d.response = r ∧ d.Tagged := by
  have hfolder : isTag "Folder" = true := by simp
  have hmessage : isTag "Message" = true := by simp
  cases r with
  | found ms =>
    refine ⟨.found (ms.map fun m => ⟨m.code, m.folders.map (·.map (Entry.mk "Folder")), m.text⟩), ?_, ?_⟩
    · simp [Rendering.response, FindRendering.message, Function.comp_def]
    · refine List.forall_mem_map.mpr fun m _ es hes e he => ?_
      obtain ⟨ids, -, rfl⟩ := Option.map_eq_some_iff.mp hes
      obtain ⟨id, -, rfl⟩ := List.mem_map.mp he
      exact hfolder
  | synced ms =>
    refine ⟨.synced (ms.map fun m => ⟨m.code, m.token, m.last, m.changes.map Changes.listed, m.text⟩), ?_, ?_⟩
    · simp [Rendering.response, SyncRendering.message, Function.comp_def, changesOf_listed]
    · refine List.forall_mem_map.mpr fun m _ cs hcs x hx => ?_
      obtain ⟨c, -, rfl⟩ := Option.map_eq_some_iff.mp hcs
      obtain ⟨change, -, rfl⟩ := List.mem_map.mp hx
      exact hmessage

/-! ## Reading -/

theorem folderIds_rootElement (es : List Entry) :
    ((rootElement es).child? (typ "Folders")).map folderIds = some (nonempty (es.map Entry.id)) := by
  rw [← filterMap_id]
  simp [rootElement, folderIds, Element.child?, List.filterMap_map, id?_idElement]

/-- A message of a find response is read as it was written, empty ids aside. -/
theorem FindMessage.ofElement_rendered (m : FindRendering) : FindMessage.ofElement m.element = m.message.trimmed := by
  have hnone (tag : String) (h : "RootFolder" ≠ tag) :
      (m.folders.map rootElement).toList.find? (·.name = msg tag) = none := by
    refine find?_toList _ fun x hx => ?_
    obtain ⟨es, -, rfl⟩ := Option.map_eq_some_iff.mp hx
    simpa [rootElement] using h
  have htext : childText? m.element (msg "MessageText") = m.text := by
    simp [childText?, Element.child?, FindRendering.element, find?_optional, hnone, Function.comp_def]
  have hcode : childText? m.element (msg "ResponseCode") = m.code := by
    simp [childText?, Element.child?, FindRendering.element, find?_optional, hnone, Function.comp_def]
  have hfolders : ((m.element.children (msg "RootFolder")).findSome? (·.child? (typ "Folders"))).map folderIds =
      m.folders.map fun es => nonempty (es.map Entry.id) := by
    have hskip (tag : String) (text : Option String) (h : tag ≠ "RootFolder") :=
      filter_optional tag text (show msg tag ≠ msg "RootFolder" by simpa using h)
    cases hm : m.folders with
    | none => simp [Element.children, FindRendering.element, hskip, hm]
    | some es =>
      have hname : (rootElement es).name = msg "RootFolder" := rfl
      have hids := folderIds_rootElement es
      simp [Element.children, FindRendering.element, hskip, hm, hname, ← hids]
  rw [FindMessage.ofElement, hfolders, htext, hcode]
  simp [FindRendering.message, FindMessage.trimmed, Function.comp_def]

theorem itemIds_item (tag tag' : String) (id : ItemId) :
    itemIds (node (typ tag) [node (typ tag') [idElement (typ "ItemId") id] []] []) = nonempty [id] := by
  by_cases h : id = "" <;> simp [itemIds, Element.child?, id?_idElement, nonempty, h]

theorem id?_deletion (tag : String) (id : ItemId) :
    (((node (typ tag) [idElement (typ "ItemId") id] []).child? (typ "ItemId")).bind id?).toList = nonempty [id] := by
  by_cases h : id = "" <;> simp [Element.child?, id?_idElement, nonempty, h]

theorem flatMap_children_rendered {tag : String} {read : Element → List ItemId} {kind : Change → Option ItemId}
    (h : ∀ c, (if (changeElement c).name = typ tag then read (changeElement c) else []) = nonempty (kind c.2).toList)
    (cs : List (String × Change)) :
    ((changesElement cs).children (typ tag)).flatMap read = nonempty ((cs.map (·.2)).filterMap kind) := by
  unfold Element.children changesElement
  rw [elements_node]
  induction cs with
  | nil => rfl
  | cons c cs ih =>
    have hsplit : nonempty (((c :: cs).map (·.2)).filterMap kind) =
        nonempty (kind c.2).toList ++ nonempty ((cs.map (·.2)).filterMap kind) := by
      rw [List.map_cons, List.filterMap_cons]
      cases kind c.2 with
      | none => rfl
      | some id => exact List.filter_append [id] _
    rw [hsplit, ← ih, ← h c, List.map_cons, List.filter_cons]
    split <;> simp_all

/-- **The ids of each kind are found in their order**, whatever changes stand between them. -/
theorem Changes.ofElement_rendered (cs : List (String × Change)) :
    Changes.ofElement (changesElement cs) = (changesOf cs).trimmed := by
  have hcreated : ∀ c, (if (changeElement c).name = typ "Create" then itemIds (changeElement c) else []) =
      nonempty (Change.created? c.2).toList := by
    rintro ⟨tag, change⟩
    cases change <;> simp [changeElement, Change.created?, itemIds_item, nonempty]
  have hupdated : ∀ c, (if (changeElement c).name = typ "Update" then itemIds (changeElement c) else []) =
      nonempty (Change.updated? c.2).toList := by
    rintro ⟨tag, change⟩
    cases change <;> simp [changeElement, Change.updated?, itemIds_item, nonempty]
  have hdeleted : ∀ c, (if (changeElement c).name = typ "Delete" then
      (((changeElement c).child? (typ "ItemId")).bind id?).toList else []) = nonempty (Change.deleted? c.2).toList := by
    rintro ⟨tag, change⟩
    cases change <;> simp [changeElement, Change.deleted?, id?_deletion, nonempty]
  rw [Changes.ofElement, List.filterMap_eq_flatMap_toList, flatMap_children_rendered hcreated,
    flatMap_children_rendered hupdated, flatMap_children_rendered hdeleted]
  rfl

/-- A message of a sync response is read as it was written, empty ids aside. -/
theorem SyncMessage.ofElement_rendered (m : SyncRendering) : SyncMessage.ofElement m.element = m.message.trimmed := by
  have hnone (tag : String) (h : "Changes" ≠ tag) :
      (m.changes.map changesElement).toList.find? (·.name = msg tag) = none := by
    refine find?_toList _ fun x hx => ?_
    obtain ⟨cs, -, rfl⟩ := Option.map_eq_some_iff.mp hx
    simpa [changesElement] using h
  have htext : childText? m.element (msg "MessageText") = m.text := by
    simp [childText?, Element.child?, SyncRendering.element, find?_optional, hnone, Function.comp_def]
  have hcode : childText? m.element (msg "ResponseCode") = m.code := by
    simp [childText?, Element.child?, SyncRendering.element, find?_optional, hnone, Function.comp_def]
  have htoken : childText? m.element (msg "SyncState") = m.token := by
    simp [childText?, Element.child?, SyncRendering.element, find?_optional, hnone, Function.comp_def]
  have hlast : (childText? m.element (msg "IncludesLastItemInRange")).map flagOfText = m.last := by
    simp [childText?, Element.child?, SyncRendering.element, find?_optional, hnone, Function.comp_def,
      flagOfText_ofBool]
  have hchanges : (m.element.child? (msg "Changes")).map Changes.ofElement =
      m.changes.map fun cs => (changesOf cs).trimmed := by
    cases hm : m.changes with
    | none => simp [Element.child?, SyncRendering.element, find?_optional, hm]
    | some cs =>
      simp [Element.child?, SyncRendering.element, find?_optional, hm, Changes.ofElement_rendered,
        show (changesElement cs).name = msg "Changes" from rfl]
  rw [SyncMessage.ofElement, hcode, htoken, hlast, hchanges, htext]
  simp [SyncRendering.message, SyncMessage.trimmed, Function.comp_def]

theorem Response.ofBody_rendered (op : Operation) (d : Rendering) :
    Response.ofBody op (node (soap "Body") [d.element] []) =
      if d.response.operation = op then some d.response.trimmed else none := by
  have hmessages (tag tag' : String) (es : List Element) (h : ∀ e ∈ es, e.name = msg tag') :
      messageElements (node (msg tag) [node (msg "ResponseMessages") es []] []) tag' = es := by
    simpa [messageElements, Element.children] using h
  cases d with
  | found ms =>
    have hms := hmessages "FindFolderResponse" "FindFolderResponseMessage" (ms.map FindRendering.element) (by
      simp [FindRendering.element])
    cases op <;> simp [ofBody, operation, Rendering.element, Rendering.response, Element.child?, hms, trimmed,
      FindMessage.ofElement_rendered, Function.comp_def]
  | synced ms =>
    have hms := hmessages "SyncFolderItemsResponse" "SyncFolderItemsResponseMessage" (ms.map SyncRendering.element) (by
      simp [SyncRendering.element])
    cases op <;> simp [ofBody, operation, Rendering.element, Rendering.response, Element.child?, hms, trimmed,
      SyncMessage.ofElement_rendered, Function.comp_def]

/-! ## Writing -/

section Writing

variable {legal : Char → Prop}

theorem writable_around {name inner : Name} {id : String} (hn : name.Writable prefixes) (hi : inner.Writable prefixes)
    (hid : Xml.Legal legal id) : (node name [idElement inner id] []).Writable prefixes legal :=
  writable_node hn writable_noAttrs (List.forall_mem_singleton.mpr (writable_idElement hi hid))

theorem writable_rootElement {es : List Entry} (htag : ∀ e ∈ es, isTag e.tag = true)
    (hid : ∀ e ∈ es, Xml.Legal legal e.id) : (rootElement es).Writable prefixes legal := by
  refine writable_node (writable_msg (by simp)) writable_noAttrs (List.forall_mem_singleton.mpr ?_)
  refine writable_node (writable_typ (by simp)) writable_noAttrs (List.forall_mem_map.mpr fun e he => ?_)
  exact writable_around (writable_typ (htag e he)) (writable_typ (by simp)) (hid e he)

theorem writable_changeElement {c : String × Change} (htag : isTag c.1 = true)
    (hid : ∀ id, c.2 = .created id ∨ c.2 = .updated id ∨ c.2 = .deleted id → Xml.Legal legal id) :
    (changeElement c).Writable prefixes legal := by
  have hitem (tag : String) (ht : isTag tag = true) (id : ItemId) (h : Xml.Legal legal id) :
      (node (typ tag) [node (typ c.1) [idElement (typ "ItemId") id] []] []).Writable prefixes legal := by
    refine writable_node (writable_typ ht) writable_noAttrs (List.forall_mem_singleton.mpr ?_)
    exact writable_around (writable_typ htag) (writable_typ (by simp)) h
  unfold changeElement
  split
  · rename_i id hc
    exact hitem _ (by simp) id (hid id (.inl hc))
  · rename_i id hc
    exact hitem _ (by simp) id (hid id (.inr (.inl hc)))
  · rename_i id hc
    exact writable_around (writable_typ (by simp)) (writable_typ (by simp))
      (hid id (.inr (.inr hc)))

theorem writable_changesElement {cs : List (String × Change)} (htag : ∀ c ∈ cs, isTag c.1 = true)
    (hid : ∀ id ∈ (changesOf cs).created ++ (changesOf cs).updated ++ (changesOf cs).deleted, Xml.Legal legal id) :
    (changesElement cs).Writable prefixes legal := by
  refine writable_node (writable_msg (by simp)) writable_noAttrs (List.forall_mem_map.mpr fun c hc => ?_)
  refine writable_changeElement (htag c hc) fun id heq => hid id ?_
  have hmem (kind : Change → Option ItemId) (h : kind c.2 = some id) : id ∈ (cs.map (·.2)).filterMap kind :=
    List.mem_filterMap.mpr ⟨c.2, List.mem_map_of_mem hc, h⟩
  rcases heq with heq | heq | heq
  · exact List.mem_append_left _ (List.mem_append_left _ (hmem Change.created? (by rw [heq]; rfl)))
  · exact List.mem_append_left _ (List.mem_append_right _ (hmem Change.updated? (by rw [heq]; rfl)))
  · exact List.mem_append_right _ (hmem Change.deleted? (by rw [heq]; rfl))

theorem Rendering.writable_element (hl : ∀ c, isClean c = true → legal c) {d : Rendering} (ht : d.Tagged)
    (h : d.response.Legal legal) : d.element.Writable prefixes legal := by
  cases d with
  | found ms =>
    refine writable_node (writable_msg (by simp)) writable_noAttrs (List.forall_mem_singleton.mpr ?_)
    refine writable_node (writable_msg (by simp)) writable_noAttrs (List.forall_mem_map.mpr fun m hm => ?_)
    obtain ⟨hcode, htext, hids⟩ := h m.message (List.mem_map_of_mem hm)
    refine writable_node (writable_msg (by simp)) writable_noAttrs fun e he => ?_
    simp only [List.mem_append] at he
    rcases he with (he | he) | he
    · exact writable_optional (by simp) htext e he
    · exact writable_optional (by simp) hcode e he
    · obtain ⟨es, hsome, rfl⟩ := Option.map_eq_some_iff.mp (Option.mem_toList.mp he)
      refine writable_rootElement (ht m hm es hsome) fun x hx => ?_
      exact hids (es.map Entry.id) (by simp [FindRendering.message, hsome]) x.id (List.mem_map_of_mem hx)
  | synced ms =>
    refine writable_node (writable_msg (by simp)) writable_noAttrs (List.forall_mem_singleton.mpr ?_)
    refine writable_node (writable_msg (by simp)) writable_noAttrs (List.forall_mem_map.mpr fun m hm => ?_)
    obtain ⟨hcode, htext, htoken, hids⟩ := h m.message (List.mem_map_of_mem hm)
    refine writable_node (writable_msg (by simp)) writable_noAttrs fun e he => ?_
    simp only [List.mem_append] at he
    rcases he with (((he | he) | he) | he) | he
    · exact writable_optional (by simp) htext e he
    · exact writable_optional (by simp) hcode e he
    · exact writable_optional (by simp) htoken e he
    · refine writable_optional (by simp) (fun s hs => ?_) e he
      obtain ⟨b, -, rfl⟩ := Option.map_eq_some_iff.mp hs
      have hclean : ∀ b : Bool, Clean (if b then "true" else "false").toList := by decide +kernel
      exact fun c hc => hl c (hclean b c hc)
    · obtain ⟨cs, hsome, rfl⟩ := Option.map_eq_some_iff.mp (Option.mem_toList.mp he)
      exact writable_changesElement (ht m hm cs hsome) (hids (changesOf cs) (by simp [SyncRendering.message, hsome]))

end Writing

theorem readBody_rendered {d : Rendering} (ht : d.Tagged) (h : d.response.Legal (isXmlChar · = true)) :
    readBody d.write = .ok (node (soap "Body") [d.element] []) := by
  have hlegal : ∀ c, isClean c = true → isXmlChar c = true := fun _ => isXmlChar_of_isClean
  have hwritable : (envelope [] [d.element]).Writable prefixes (isXmlChar · = true) :=
    writable_envelope (List.forall_mem_nil _) (List.forall_mem_singleton.mpr (Rendering.writable_element hlegal ht h))
  have hread := Document.read_write (binds hlegal) Escapes.exact_faithful hwritable
  unfold readBody
  rw [show d.write.toList = octets (Document.write .exact prefixes (envelope [] [d.element])) from rfl, hread]
  simp [child?_body _ (List.forall_mem_nil _)]

/-- **Every rendering of a response is read as the response.**  Every response has renderings; whichever of them the
service writes, its body is read, a request of the operation finds the response, message by message and id by id, its
empty ids aside, and a request of the other operation finds nothing. -/
theorem Response.read_rendered (r : Response) (hr : r.Legal (isXmlChar · = true)) :
    (∃ d : Rendering, d.response = r ∧ d.Tagged) ∧
      ∀ d : Rendering, d.response = r → d.Tagged → ∃ body, readBody d.write = .ok body ∧
        ∀ (request : Request) (op : Operation), request.operation? = some op →
          request.responseIn body = .ok (if r.operation = op then some r.trimmed else none) := by
  refine ⟨r.exists_rendering, ?_⟩
  rintro d rfl ht
  refine ⟨_, readBody_rendered ht hr, fun request op hop => ?_⟩
  rw [Request.responseIn_eq hop, Response.ofBody_rendered]

/-- A response with parts that are missing and parts that are empty, and with changes in no order. -/
def patchy : Rendering := .synced
  [{ code := none, token := some "", last := none, text := some "a\r<]]>\n" },
    { code := some "", token := none, last := some false
      changes := some [("Message", .deleted "d\r\n\t\""), ("CalendarItem", .created "x"), ("Message", .created ""),
        ("Message", .updated "&u"), ("Task", .created "y")] }]

/-- It is read as it was written. -/
theorem patchy_read_rendered : patchy.response.Legal (isXmlChar · = true) ∧ patchy.Tagged ∧
    ∃ body, readBody patchy.write = .ok body ∧
      Request.responseIn (.sync { folder := "a", token := "", limit := 1 }) body = .ok (some (.synced
        [{ code := none, token := some "", last := none, text := some "a\r<]]>\n" },
          { code := some "", token := none, last := some false
            changes := some ⟨["x", "y"], ["&u"], ["d\r\n\t\""]⟩ }])) ∧
      Request.responseIn (.find { root := "root" }) body = .ok none := by
  have hr : patchy.response.Legal (isXmlChar · = true) := by decide +kernel
  have ht : patchy.Tagged := by
    unfold patchy Rendering.Tagged
    decide +kernel
  obtain ⟨-, hall⟩ := patchy.response.read_rendered hr
  obtain ⟨body, hbody, hread⟩ := hall patchy rfl ht
  refine ⟨hr, ht, body, hbody, ?_, ?_⟩
  · rw [hread _ .sync rfl]
    decide +kernel
  · rw [hread _ .find rfl]
    decide +kernel

end MailboxSync
