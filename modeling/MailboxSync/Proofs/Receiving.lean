import MailboxSync.Http.Transport
import MailboxSync.Mailbox.Script
import MailboxSync.Proofs.Decoding

/-!
# What a request over HTTP comes to

* `Exchange.outcome` — what an exchange comes to by itself;
* `Exchange.noteFault` — the fault that a listener brings about, by asking for a body that is garbled;
* `send_outcome` — **a request comes to the one, unless the other is in its way**.
-/

namespace MailboxSync

namespace Http

/-! ## Exchanges -/

/-- What an exchange comes to. -/
def Exchange.outcome (request : Request) : Exchange → Reply.Outcome
  | .timedOut detail => .error (.failure (.transport (.timedOut detail) none))
  | .unreachable detail => .error (.failure (.transport (.unreachable detail) none))
  | .raised trouble => .error trouble
  | .replied status contentType body =>
    match responseCharset contentType with
    | .error fault => .error (.fault fault)
    | .ok _ =>
      if status ≠ 200 then .error (.failure (.transport .badStatus (some status)))
      else if body.isEmpty then .error (.failure (.emptyResponse .emptyBody))
      else (readBody body).bind request.responseIn

/-- The level of the note that holds a body. -/
def bodyLevel (status : Int) : Level := if status = 200 then .trace else .debug

/-- The fault of noting a body. -/
def Exchange.noteFault (listener : Option Level) : Exchange → Option Fault
  | .replied status contentType body =>
    match responseCharset contentType with
    | .error _ => none
    | .ok (charset, _) =>
      if body.isEmpty || !hears listener (bodyLevel status) then none
      else
        match decodeIn charset body.toList with
        | .error fault => some fault
        | .ok _ => none
  | _ => none

/-- A reply with a body that its character set refuses, the level at which that matters, and the fault. -/
inductive Exchange.Garbled : Exchange → Level → Fault → Prop
  | intro {status : Int} {contentType : Option String} {body : ByteArray} {charset : String} {notes : List Note}
    {codec : Charset.Codec} {fault : Fault} (hcharset : responseCharset contentType = .ok (charset, notes))
    (hcodec : Charset.lookup charset = some (.charset codec)) (hbody : body.isEmpty = false)
    (hrefuses : codec.Refuses body.toList) (hfault : decodeIn charset body.toList = .error fault) :
    Garbled (.replied status contentType body) (bodyLevel status) fault

variable {listener : Option Level} {url envelope : String} {user : User} {request : Request} {op : Operation}
  {x : Exchange}

@[simp] theorem Exchange.noteFault_none (x : Exchange) : x.noteFault none = none := by
  cases x with
  | replied status contentType body =>
    simp only [noteFault]
    split
    · rfl
    · simp [hears]
  | _ => rfl

/-- **A listener brings about a fault exactly by hearing of a body that is garbled.** -/
theorem Exchange.noteFault_eq_some_iff {fault : Fault} :
    x.noteFault listener = some fault ↔ ∃ level, x.Garbled level fault ∧ hears listener level = true := by
  constructor
  · intro h
    cases x with
    | replied status contentType body =>
      simp only [noteFault] at h
      split at h
      · cases h
      · rename_i charset notes hcharset
        split at h
        · cases h
        · rename_i hnoted
          simp only [Bool.or_eq_true, Bool.not_eq_eq_eq_not, Bool.not_true, not_or, Bool.not_eq_true,
            Bool.not_eq_false] at hnoted
          split at h
          · rename_i hdecode
            obtain rfl := Option.some.inj h
            obtain ⟨codec, hcodec⟩ := responseCharset_lookup hcharset
            have hrefuses := (decodeIn_error_iff hcodec).mp ⟨_, hdecode⟩
            exact ⟨_, .intro hcharset hcodec hnoted.1 hrefuses hdecode, hnoted.2⟩
          · cases h
    | _ => cases h
  · rintro ⟨level, ⟨hcharset, hcodec, hbody, hrefuses, hfault⟩, hhears⟩
    simp [noteFault, hcharset, hbody, hhears, hfault]

/-! ## Requests -/

theorem Outcome.after_ok (ns : List Note) (rest : Outcome) : (Outcome.after (.ok ns) rest).1 = rest.1 := rfl

theorem Outcome.after_lazily (level : Level) (text : String) (rest : Outcome) :
    (Outcome.after (lazily listener level (.ok text)) rest).1 = rest.1 := by
  unfold lazily
  split <;> rfl

theorem Outcome.after_body (level : Level) (decoded : Except Fault String) (f : String → String) (rest : Outcome) :
    (Outcome.after (lazily listener level (decoded.map f)) rest).1 =
      match (if hears listener level then decoded else .ok "") with
      | .error fault => .error (.fault fault)
      | .ok _ => rest.1 := by
  unfold lazily
  split
  · cases decoded <;> rfl
  · rfl

/-- **What an exchange comes to for a listener.** -/
theorem receive_outcome : (receive listener url envelope request x).1 =
    match x.noteFault listener with
    | some fault => .error (.fault fault)
    | none => x.outcome request := by
  unfold receive
  rw [Outcome.after_lazily]
  cases x with
  | timedOut detail => rfl
  | unreachable detail => rfl
  | raised trouble => rfl
  | replied status contentType body =>
    simp only [Exchange.noteFault, Exchange.outcome]
    cases responseCharset contentType with
    | error fault => rfl
    | ok r =>
      obtain ⟨charset, notes⟩ := r
      dsimp only
      rw [Outcome.after_ok]
      unfold read
      by_cases hs : status = 200
      · cases hb : body.isEmpty with
        | true =>
          simp only [hs, ne_eq, not_true_eq_false, if_false, if_true, Bool.true_or]
          rw [Outcome.after_ok, Outcome.after_lazily]
        | false =>
          simp only [hs, ne_eq, not_true_eq_false, if_false, Bool.false_eq_true]
          rw [Outcome.after_body]
          cases hh : hears listener .trace with
          | true =>
            cases decodeIn charset body.toList with
            | error fault => simp [bodyLevel, hh]
            | ok text => cases hr : readBody body <;> simp [bodyLevel, hh, Except.bind]
          | false => cases hr : readBody body <;> simp [bodyLevel, hh, Except.bind]
      · cases hb : body.isEmpty with
        | true =>
          simp only [hs, ne_eq, not_false_eq_true, if_true, Bool.true_or]
          rw [Outcome.after_ok, Outcome.after_lazily, Outcome.after_ok]
        | false =>
          simp only [hs, ne_eq, not_false_eq_true, if_true, Bool.false_eq_true, if_false]
          rw [Outcome.after_ok, Outcome.after_lazily, Outcome.after_body]
          cases hh : hears listener .debug with
          | true => cases decodeIn charset body.toList <;> simp [bodyLevel, hs, hh]
          | false => simp [bodyLevel, hs, hh]

theorem write_of_operation (h : request.operation? = some op) (hf : request.fits = true) (user : User) :
    ∃ envelope, request.write user = .ok envelope := by
  cases request with
  | find r => exact ⟨_, rfl⟩
  | sync r => exact ⟨_, congrArg _ (Request.toEnvelope_sync hf user)⟩
  | other typeName => cases h

/-- **What a request that can be written comes to.** -/
theorem send_outcome (h : request.write user = .ok envelope) (post : String → Exchange) :
    (send listener url user request post).1 =
      match (post envelope).noteFault listener with
      | some fault => .error (.fault fault)
      | none => (post envelope).outcome request := by
  rw [send, h]
  exact receive_outcome

end Http

end MailboxSync
