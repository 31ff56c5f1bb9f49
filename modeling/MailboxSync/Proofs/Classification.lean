import MailboxSync.Proofs.Receiving

/-!
# How requests over HTTP fail

* `Http.Classified` — an outcome of the taxonomy: every failure has its own cause among the exchanges;
* `Exchange.Breaks` — the exchanges that lead to a fault instead: a null character in the name of a character set, a
  body that is heard of and cannot be decoded, and a document whose declaration names an encoding that will not do;
* `Http.classified_iff` — **what a request comes to is classified, except for those**; only a request that cannot be
  written never gets as far as an exchange.
-/

namespace MailboxSync

open Xml Soap

/-! ## Documents -/

/-- A document whose declaration names an encoding that will not do. -/
inductive Xml.Document.Misdeclares (bytes : List UInt8) (fault : Fault) : Prop
  | intro {family : Family} {rest : List UInt8} {prolog : Prolog} {length : Nat} {name : String}
    (hfamily : Family.guess bytes = (family, rest))
    (hprolog : Prolog.ofChars? (family.peek rest) = some (prolog, length))
    (hname : prolog.encoding = some name) (hencoding : Encoding.named family name = .error fault)

/-- **Only the name of an encoding is a fault.** -/
theorem Xml.Document.read_error_iff {bytes : List UInt8} {fault : Fault} :
    Document.read bytes = .error fault ↔ Misdeclares bytes fault := by
  have hdecode : Document.read bytes = .error fault ↔ decodeDocument bytes = .error fault := by
    unfold Document.read
    rcases decodeDocument bytes with _ | _ | _ <;> simp
  rw [hdecode]
  unfold decodeDocument
  constructor
  · intro h
    dsimp only at h
    split at h
    · cases h
    · rename_i prolog length hprolog
      split at h
      · rename_i hencoding
        obtain rfl := Except.error.inj h
        split at hencoding
        · cases hencoding
        · rename_i name hname
          exact ⟨rfl, hprolog, hname, hencoding⟩
      · cases h
      · split at h <;> cases h
  · rintro ⟨hfamily, hprolog, hname, hencoding⟩
    simp [hfamily, hprolog, hname, hencoding]

/-! ## Bodies -/

/-- The octets are an envelope, and the element is its body. -/
def Enveloped (body : ByteArray) (element : Element) : Prop :=
  ∃ root, Document.read body.toList = .ok (some root) ∧ root.name = soap "Envelope" ∧
    root.child? (soap "Body") = some element

/-- What is no envelope with a body is read as such, unless its encoding is a fault. -/
theorem readBody_cases (body : ByteArray) :
    (∃ fault, Document.Misdeclares body.toList fault ∧ readBody body = .error (.fault fault)) ∨
      (∃ reason, (¬∃ element, Enveloped body element) ∧
        readBody body = .error (.failure (.protocol reason none))) ∨
      ∃ element, Enveloped body element ∧ readBody body = .ok element := by
  unfold readBody
  rcases hread : Document.read body.toList with fault | _ | root
  · exact .inl ⟨fault, Document.read_error_iff.mp hread, rfl⟩
  · refine .inr (.inl ⟨_, ?_, rfl⟩)
    rintro ⟨element, root, hroot, -, -⟩
    cases hread.symm.trans hroot
  · have hunique {element : Element} (h : Enveloped body element) :
        root.name = soap "Envelope" ∧ root.child? (soap "Body") = some element := by
      obtain ⟨root', hroot, hname, hbody⟩ := h
      obtain rfl := Option.some.inj (Except.ok.inj (hread.symm.trans hroot))
      exact ⟨hname, hbody⟩
    by_cases hname : root.name = soap "Envelope"
    · cases hbody : root.child? (soap "Body") with
      | none =>
        refine .inr (.inl ⟨.noBody, ?_, by simp [hname, hbody]⟩)
        rintro ⟨element, h⟩
        cases hbody.symm.trans (hunique h).2
      | some element => exact .inr (.inr ⟨element, ⟨root, hread, hname, hbody⟩, by simp [hname, hbody]⟩)
    · refine .inr (.inl ⟨.notAnEnvelope root.name.text, ?_, by simp [hname]⟩)
      rintro ⟨element, h⟩
      exact hname (hunique h).1

theorem Enveloped.iff_eq {body : ByteArray} {element element' : Element} (h : Enveloped body element) :
    Enveloped body element' ↔ element' = element := by
  constructor
  · intro h'
    obtain ⟨root, hroot, -, hbody⟩ := h
    obtain ⟨root', hroot', -, hbody'⟩ := h'
    obtain rfl := Option.some.inj (Except.ok.inj (hroot.symm.trans hroot'))
    exact Option.some.inj (hbody'.symm.trans hbody)
  · rintro rfl
    exact h

/-- The name of the element that holds the response of an operation. -/
def Operation.responseName : Operation → Name
  | .find => msg "FindFolderResponse"
  | .sync => msg "SyncFolderItemsResponse"

theorem Request.responseIn_cases {request : Request} {op : Operation} (h : request.operation? = some op)
    (element : Element) :
    (element.child? op.responseName = none ∧ request.responseIn element = .ok none) ∨
      ∃ e r, element.child? op.responseName = some e ∧ r.operation = op ∧
        request.responseIn element = .ok (some r) := by
  cases request with
  | find q =>
    cases h
    cases hchild : element.child? (msg "FindFolderResponse") with
    | none => exact .inl ⟨hchild, by simp [responseIn, Response.ofBody, hchild]⟩
    | some e => exact .inr ⟨e, _, hchild, rfl, by simp only [responseIn, Response.ofBody, hchild]; rfl⟩
  | sync q =>
    cases h
    cases hchild : element.child? (msg "SyncFolderItemsResponse") with
    | none => exact .inl ⟨hchild, by simp [responseIn, Response.ofBody, hchild]⟩
    | some e => exact .inr ⟨e, _, hchild, rfl, by simp only [responseIn, Response.ofBody, hchild]; rfl⟩
  | other typeName => cases h

namespace Http

/-! ## Requests -/

/-- An exchange without a reply. -/
inductive Exchange.Unanswered : Exchange → Prop
  | timedOut (detail : String) : Unanswered (.timedOut detail)
  | unreachable (detail : String) : Unanswered (.unreachable detail)

/-- What a request of an operation may come to, and what from. -/
structure Classified (op : Operation) (x : Exchange) (o : Reply.Outcome) : Prop where
  /-- A response is of the request's own kind. -/
  kind : ∀ r, o = .ok (some r) → r.operation = op
  /-- Nothing but a failure is raised. -/
  failure : ∀ trouble, o = .error trouble → ∃ failure, trouble = .failure failure
  unanswered : (∃ reason, o = .error (.failure (.transport reason none))) ↔ x.Unanswered
  status : ∀ status, (∃ reason, o = .error (.failure (.transport reason (some status)))) ↔
    (∃ contentType body, x = .replied status contentType body) ∧ status ≠ 200
  empty : (∃ reason, o = .error (.failure (.emptyResponse reason))) ↔
    ∃ contentType body, x = .replied 200 contentType body ∧ body.isEmpty = true
  malformed : (∃ reason code, o = .error (.failure (.protocol reason code))) ↔
    ∃ contentType body, x = .replied 200 contentType body ∧ body.isEmpty = false ∧
      ¬∃ element, Enveloped body element
  missing :
    o = .ok none ↔ ∃ contentType body element, x = .replied 200 contentType body ∧ body.isEmpty = false ∧
    Enveloped body element ∧ element.child? op.responseName = none

/-- Replies that lead to a fault. -/
inductive Exchange.Breaks (listener : Option Level) : Exchange → Prop
  /-- The name of the character set holds a null character. -/
  | null {status : Int} {text name : String} {body : ByteArray} (hname : namedCharset? text = some name)
    (hnull : '\x00' ∈ name.toList) : Breaks listener (.replied status (some text) body)
  /-- Somebody hears of a body that is garbled. -/
  | garbled {x : Exchange} {level : Level} {fault : Fault} (hgarbled : x.Garbled level fault)
    (hhears : hears listener level = true) : Breaks listener x
  /-- The declaration of the document names an encoding that will not do. -/
  | encoding {contentType : Option String} {body : ByteArray} {fault : Fault} (hbody : body.isEmpty = false)
    (hfault : Document.Misdeclares body.toList fault) : Breaks listener (.replied 200 contentType body)

variable {listener : Option Level} {request : Request} {op : Operation} {x : Exchange}

theorem Exchange.Breaks.fault (h : x.Breaks listener) (request : Request) : ∃ fault,
    x.noteFault listener = some fault ∨ x.noteFault listener = none ∧
      x.outcome request = .error (.fault fault) := by
  cases hnote : x.noteFault listener with
  | some fault => exact ⟨fault, .inl rfl⟩
  | none =>
    cases h with
    | null hname hnull =>
      obtain ⟨fault, hcharset⟩ := responseCharset_error_iff.mpr ⟨_, _, rfl, hname, hnull⟩
      exact ⟨fault, .inr ⟨rfl, by simp [Exchange.outcome, hcharset]⟩⟩
    | garbled hgarbled hhears => cases hnote.symm.trans (Exchange.noteFault_eq_some_iff.mpr ⟨_, hgarbled, hhears⟩)
    | @encoding contentType body fault hbody hfault =>
      have hread : readBody body = .error (.fault fault) := by
        rw [readBody, Document.read_error_iff.mpr hfault]
      cases hcharset : responseCharset contentType with
      | error fault' => exact ⟨fault', .inr ⟨rfl, by simp [Exchange.outcome, hcharset]⟩⟩
      | ok r => exact ⟨fault, .inr ⟨rfl, by simp [Exchange.outcome, hcharset, hbody, hread, Except.bind]⟩⟩

/-- What an exchange comes to is classified unless it breaks. -/
theorem Exchange.outcome_classified (hop : request.operation? = some op) (hraised : ∀ trouble, x ≠ .raised trouble)
    (h : ¬x.Breaks listener) : Classified op x (x.outcome request) := by
  cases x with
  | timedOut detail =>
    constructor <;> simp [outcome, Exchange.Unanswered.timedOut]
  | unreachable detail =>
    constructor <;> simp [outcome, Exchange.Unanswered.unreachable]
  | raised trouble => exact absurd rfl (hraised trouble)
  | replied status contentType body =>
    have hanswered : ¬(replied status contentType body).Unanswered := by
      intro h
      cases h
    cases hcharset : responseCharset contentType with
    | error fault =>
      obtain ⟨text, name, rfl, hname, hnull⟩ := responseCharset_error_iff.mp ⟨fault, hcharset⟩
      exact absurd (.null hname hnull) h
    | ok r =>
      by_cases hs : status = 200
      · subst hs
        cases hb : body.isEmpty with
        | true => constructor <;> simp [outcome, hcharset, hb, hanswered, and_assoc]
        | false =>
          obtain ⟨fault, hfault, -⟩ | ⟨reason, hnone, hread⟩ | ⟨element, hsome, hread⟩ :=
            readBody_cases body
          · exact absurd (.encoding hb hfault) h
          · rw [not_exists] at hnone
            constructor <;> simp [outcome, hcharset, hb, hanswered, hread, Except.bind, hnone, and_assoc]
          · obtain ⟨hmissing, hresponse⟩ | ⟨e, r, hfound, hkind, hresponse⟩ :=
              Request.responseIn_cases hop element
            · constructor <;>
                simp [outcome, hcharset, hb, hanswered, hread, Except.bind, hresponse, hsome.iff_eq,
                  hmissing, and_assoc]
            · constructor <;>
                simp [outcome, hcharset, hb, hanswered, hread, Except.bind, hresponse, hsome.iff_eq, hfound, hkind,
                  and_assoc]
      · constructor <;> simp [outcome, hcharset, hs, hanswered]

/-- **What a request comes to is classified, except for a reply that breaks.**  A request whose number is too long is
not posted, and comes to a fault. -/
theorem classified_iff (hop : request.operation? = some op) (listener : Option Level) (url : String) (user : User)
    {post : String → Exchange} (hraised : ∀ envelope trouble, post envelope ≠ .raised trouble) :
    (request.fits = true → ∃ envelope, request.write user = .ok envelope ∧
        (Classified op (post envelope) (send listener url user request post).1 ↔
          ¬(post envelope).Breaks listener)) ∧
      (request.fits = false → (send listener url user request post).1 = .error (.fault .numberTooLong)) := by
  refine ⟨fun hfits => ?_, fun hfits => by rw [send, Request.write_of_not_fits hfits]⟩
  obtain ⟨envelope, hwrite⟩ := write_of_operation hop hfits user
  refine ⟨envelope, hwrite, ?_⟩
  rw [send_outcome hwrite post]
  constructor
  · intro hclassified hbreaks
    obtain ⟨fault, hnote | ⟨hnote, houtcome⟩⟩ := hbreaks.fault request
    · rw [hnote] at hclassified
      obtain ⟨failure, h⟩ := hclassified.failure _ rfl
      cases h
    · rw [hnote, houtcome] at hclassified
      obtain ⟨failure, h⟩ := hclassified.failure _ rfl
      cases h
  · intro hbreaks
    cases hnote : (post envelope).noteFault listener with
    | some fault =>
      obtain ⟨level, hgarbled, hhears⟩ := Exchange.noteFault_eq_some_iff.mp hnote
      exact absurd (.garbled hgarbled hhears) hbreaks
    | none => exact Exchange.outcome_classified hop (hraised envelope) hbreaks

/-- What a request comes to when the server replies with a document. -/
def askDocument (listener : Option Level) (document : String) : Reply.Outcome :=
  (send listener "https://example.com/ews" "u" (.find { root := "inbox" }) fun _ =>
    .replied 200 none document.toUTF8).1

/-- A page that is no envelope is a failure, also for those who hear all of it. -/
theorem page_classified :
    Classified .find (.replied 200 none "<html/>".toUTF8) (askDocument (some .trace) "<html/>") := by
  have hop : (Request.find { root := "inbox" }).operation? = some .find := rfl
  have hreplied : ∀ (envelope : String) trouble, Exchange.replied 200 none "<html/>".toUTF8 ≠ .raised trouble := by
    intro envelope trouble h
    cases h
  obtain ⟨envelope, -, hiff⟩ := (classified_iff hop (some .trace) "https://example.com/ews" "u" hreplied).1 rfl
  refine hiff.mpr ?_
  rintro (_ | ⟨⟨hcharset, hcodec, -, hrefuses, -⟩, -⟩ | ⟨-, hfault⟩)
  · cases hcharset
    obtain rfl := Charset.Entry.charset.inj (Option.some.inj (hcodec.symm.trans lookup_defaultCharset))
    cases hrefuses
  · have hread : (Document.read "<html/>".toUTF8.toList).isOk = true := by decide +kernel
    rw [Document.read_error_iff.mpr hfault] at hread
    cases hread

/-- A document in an encoding that nobody knows is a fault, even when nobody listens. -/
theorem unknownEncoding_not_classified :
    askDocument none "<?xml version=\"1.0\" encoding=\"foo\"?><a/>" = .error (.fault (.unknownEncoding "foo")) ∧
      ¬Classified .find (.replied 200 none "<?xml version=\"1.0\" encoding=\"foo\"?><a/>".toUTF8)
        (askDocument none "<?xml version=\"1.0\" encoding=\"foo\"?><a/>") := by
  have hread : readBody "<?xml version=\"1.0\" encoding=\"foo\"?><a/>".toByteArray =
      .error (.fault (.unknownEncoding "foo")) := by decide +kernel
  have hbody : "<?xml version=\"1.0\" encoding=\"foo\"?><a/>".toByteArray.isEmpty = false := by decide +kernel
  have hfault : askDocument none "<?xml version=\"1.0\" encoding=\"foo\"?><a/>" =
      .error (.fault (.unknownEncoding "foo")) := by
    have hop : (Request.find { root := "inbox" }).operation? = some .find := rfl
    obtain ⟨envelope, hwrite⟩ := write_of_operation hop rfl "u"
    rw [askDocument, send_outcome hwrite, Exchange.noteFault_none]
    simp [Exchange.outcome, responseCharset, hbody, hread, Except.bind]
  refine ⟨hfault, fun h => ?_⟩
  obtain ⟨failure, heq⟩ := h.failure _ hfault
  cases heq

end Http

end MailboxSync
