import MailboxSync.Proofs.Receiving

/-!
# Who listens

A request may come to something else when somebody listens, since a note can ask for a body that is garbled.

* `Http.listening_iff` — **what a request comes to is the same for all listeners, except for a garbled reply**;
* `Http.listening_differs` — there are such replies.
-/

namespace MailboxSync.Http

variable {request : Request} {op : Operation}

/-- **What a request comes to is the same for all listeners, except for a garbled reply**: one whose body is refused by
its character set, with a fault to which the request does not come anyway.  A request whose number is too long is not
posted, and nobody hears of it. -/
theorem listening_iff (hop : request.operation? = some op) (url : String) (user : User) (post : String → Exchange) :
    (request.fits = true → ∃ envelope, request.write user = .ok envelope ∧
        ((∀ listener, (send listener url user request post).1 = (send none url user request post).1) ↔
          ∀ level fault, (post envelope).Garbled level fault →
            (send none url user request post).1 = .error (.fault fault))) ∧
      (request.fits = false →
        ∀ listener, send listener url user request post = send none url user request post) := by
  refine ⟨fun hfits => ?_, fun hfits listener => by simp only [send, Request.write_of_not_fits hfits]⟩
  obtain ⟨envelope, hwrite⟩ := write_of_operation hop hfits user
  refine ⟨envelope, hwrite, ?_⟩
  simp only [send_outcome hwrite post, Exchange.noteFault_none]
  constructor
  · intro hsame level fault hgarbled
    have hhears : hears (some .trace) level = true := by cases level <;> rfl
    have heq := hsame (some .trace)
    rw [Exchange.noteFault_eq_some_iff.mpr ⟨level, hgarbled, hhears⟩] at heq
    exact heq.symm
  · intro hown listener
    cases hnote : (post envelope).noteFault listener with
    | none => rfl
    | some fault =>
      obtain ⟨level, hgarbled, -⟩ := Exchange.noteFault_eq_some_iff.mp hnote
      exact (hown level fault hgarbled).symm

/-- What a request comes to when the server replies with an internal error. -/
def askFailing (listener : Option Level) (contentType : String) (body : ByteArray) : Reply.Outcome :=
  (send listener "https://example.com/ews" "u" (.find { root := "inbox" }) fun _ =>
    .replied 500 (some contentType) body).1

/-- An octet that is no UTF-8 is replaced for those who hear of it, and the failure is that of the others. -/
theorem listening_replaced :
    askFailing (some .debug) "text/xml; charset=utf-8" ⟨#[255]⟩ =
      askFailing none "text/xml; charset=utf-8" ⟨#[255]⟩ := by
  have hop : (Request.find { root := "inbox" }).operation? = some .find := rfl
  obtain ⟨hiff, -⟩ := listening_iff hop "https://example.com/ews" "u" fun _ =>
    .replied 500 (some "text/xml; charset=utf-8") ⟨#[255]⟩
  obtain ⟨envelope, -, hiff⟩ := hiff rfl
  refine hiff.mpr ?_ (some .debug)
  rintro level fault ⟨hcharset, hcodec, -, hrefuses, -⟩
  have hutf8 : Charset.lookup "utf-8" = some (.charset .utf8) := by decide +kernel
  have hname : namedCharset? "text/xml; charset=utf-8" = some "utf-8" := by decide +kernel
  have hnamed := responseCharset_of_named hname (by decide) hutf8
  obtain ⟨rfl, -⟩ := Prod.mk.inj (Except.ok.inj (hnamed.symm.trans hcharset))
  obtain rfl := Charset.Entry.charset.inj (Option.some.inj (hutf8.symm.trans hcodec))
  cases hrefuses

/-- Nothing can be decoded from IDNA: who hears of the body comes to a fault, all others to a failure. -/
theorem listening_differs :
    askFailing (some .debug) "text/xml; charset=idna" "x".toUTF8 = .error (.fault (.charset (.idna "idna"))) ∧
      askFailing (some .info) "text/xml; charset=idna" "x".toUTF8 =
        .error (.failure (.transport .badStatus (some 500))) := by
  have hidna : Charset.lookup "idna" = some (.charset .idna) := by decide +kernel
  have hname : namedCharset? "text/xml; charset=idna" = some "idna" := by decide +kernel
  have hnamed := responseCharset_of_named hname (by decide) hidna
  have hdecode (bytes : List UInt8) : decodeIn "idna" bytes = .error (.charset (.idna "idna")) := by
    rw [decodeIn, hidna]
    rfl
  have hbody : "x".toByteArray.isEmpty = false := by decide +kernel
  have hop : (Request.find { root := "inbox" }).operation? = some .find := rfl
  obtain ⟨envelope, hwrite⟩ := write_of_operation hop rfl "u"
  unfold askFailing
  rw [send_outcome hwrite, send_outcome hwrite]
  simp [Exchange.noteFault, Exchange.outcome, hnamed, hbody, hdecode, hears, bodyLevel, Level.rank]

end MailboxSync.Http
