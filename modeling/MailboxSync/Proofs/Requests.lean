import MailboxSync.Proofs.Serving

/-!
# The requests a service gets

* `Journal.requests` — the requests among events, each with its user;
* `World.Leads.remote_eq` — deeds leave the service in the state it is in after their requests (`Transport.after`), so
  the reply to each of them is known;
* `World.Acts.cancel_eq` — what a run does by itself leaves the cancel event set if it was or one of these replies
  sets it (`Transport.trips`);
* `World.Leads.cancelled` — a cancel event that is set stays set;
* `World.Unthreatened` — there is no cancel event, or no reply to whatever is asked sets it.
-/

namespace MailboxSync

/-- The request an event is, with the user it was made for. -/
def Event.request? : Event → Option (User × Request)
  | asked user request _ => some (user, request)
  | _ => none

namespace Journal

variable {es es' : List Event}

def requests (es : List Event) : List (User × Request) := es.filterMap Event.request?

@[simp] theorem requests_nil : requests [] = [] := rfl

@[simp] theorem requests_append : requests (es ++ es') = requests es ++ requests es' := List.filterMap_append ..

theorem requests_asked (user : User) (request : Request) (o : Reply.Outcome) :
    requests [.asked user request o] = [(user, request)] := rfl

theorem requests_savedToken (user : User) (folder : FolderId) (token : Token) :
    requests [.savedToken user folder token] = [] := rfl

theorem requests_savedWatermark (user : User) (instant : Instant) : requests [.savedWatermark user instant] = [] := rfl

theorem requests_deeds (es : List Event) : requests (deeds es) = requests es := filterMap_deeds (fun _ => rfl) es

theorem mem_requests {user : User} {request : Request} :
    (user, request) ∈ requests es ↔ ∃ o, Event.asked user request o ∈ es := by
  simp only [requests, List.mem_filterMap]
  constructor
  · rintro ⟨ev, hev, h⟩
    cases ev with
    | asked u r o =>
      cases h
      exact ⟨o, hev⟩
    | _ => cases h
  · rintro ⟨o, ho⟩
    exact ⟨_, ho, rfl⟩

end Journal

open Journal

theorem Transport.after_append {τ : Type} (t : Transport τ) (s : τ) (asked asked' : List (User × Request)) :
    t.after s (asked ++ asked') = t.after (t.after s asked) asked' := by
  induction asked generalizing s with
  | nil => rfl
  | cons x asked ih => exact ih _

section Trips

variable {τ : Type} {t : Transport τ} {s : τ}

/-- Whether a reply to one of these requests sets the cancel event. -/
def Transport.trips (t : Transport τ) (s : τ) : List (User × Request) → Bool
  | [] => false
  | (user, request) :: rest => (t.send s user request).1.cancels || t.trips (t.send s user request).2 rest

theorem Transport.trips_append (asked asked' : List (User × Request)) :
    t.trips s (asked ++ asked') = (t.trips s asked || t.trips (t.after s asked) asked') := by
  induction asked generalizing s with
  | nil => rfl
  | cons x asked ih => simp only [List.cons_append, trips, after, ih, Bool.or_assoc]

theorem Transport.trips_of_calm
    (h : ∀ asked user request, (t.send (t.after s asked) user request).1.cancels = false)
    (asked : List (User × Request)) : t.trips s asked = false := by
  induction asked generalizing s with
  | nil => rfl
  | cons x asked ih =>
    have hfirst : (t.send s x.1 x.2).1.cancels = false := h [] x.1 x.2
    rw [trips, hfirst, Bool.false_or]
    exact ih fun asked' => h (x :: asked')

end Trips

namespace World

variable {τ ς : Type} {e : Env τ ς} {w w' : World τ ς} {ds : List Event}

/-! ## The cancel event -/

theorem cancelled_iff : w.cancelled = true ↔ w.cancel = some true := by simp [cancelled]

@[simp] theorem ask_cancel (t : Transport τ) (user : User) (request : Request) (w : World τ ς) :
    (w.ask t user request).2.cancel =
      if (t.send w.remote user request).1.cancels then w.cancel.map fun _ => true else w.cancel := by
  simp only [ask, noteAll_cancel]
  split <;> rfl

theorem writeToken_cancel {s : Stores ς} {user : User} {folder : FolderId} {token : Token}
    (h : w.writeToken s user folder token = (.ok (), w')) : w'.cancel = w.cancel := by
  unfold writeToken at h
  split at h <;> cases h
  exact noteAll_cancel _ _

theorem writeWatermark_cancel {s : Stores ς} {user : User} {instant : Instant}
    (h : w.writeWatermark s user instant = (.ok (), w')) : w'.cancel = w.cancel := by
  unfold writeWatermark at h
  split at h <;> cases h
  exact noteAll_cancel _ _

namespace Leads

theorem remote_eq (h : w.Leads e ds w') : w'.remote = e.transport.after w.remote (requests ds) := by
  induction h with
  | refl => rfl
  | note _ _ ih => exact ih
  | ask _ user request ih =>
    rw [ask_remote, ih, requests_append, Transport.after_append]
    rfl
  | writeToken _ hw ih =>
    obtain ⟨_, -, hremote, -⟩ := writeToken_ok hw
    rw [hremote, ih, requests_append, requests_savedToken, List.append_nil]
  | writeWatermark _ hw ih =>
    obtain ⟨_, -, hremote, -⟩ := writeWatermark_ok hw
    rw [hremote, ih, requests_append, requests_savedWatermark, List.append_nil]
  | trip _ ih => exact ih

theorem cancel_isSome (h : w.Leads e ds w') : w'.cancel.isSome = w.cancel.isSome := by
  induction h with
  | refl => rfl
  | note _ _ ih => exact ih
  | ask _ user request ih =>
    rw [ask_cancel, ← ih]
    split
    · exact Option.isSome_map
    · rfl
  | writeToken _ hw ih => rw [writeToken_cancel hw, ih]
  | writeWatermark _ hw ih => rw [writeWatermark_cancel hw, ih]
  | trip _ ih => rw [World.trip, Option.isSome_map, ih]

theorem cancel_eq_none (h : w.Leads e ds w') (hc : w.cancel = none) : w'.cancel = none := by
  have hsome := h.cancel_isSome
  rw [hc] at hsome
  exact Option.isNone_iff_eq_none.mp (by simpa using hsome)

theorem cancelled (h : w.Leads e ds w') (hc : w.cancelled = true) : w'.cancelled = true := by
  rw [cancelled_iff] at hc ⊢
  induction h with
  | refl => exact hc
  | note _ _ ih => exact ih
  | ask _ user request ih =>
    rw [ask_cancel, ih]
    split <;> rfl
  | writeToken _ hw ih => rw [writeToken_cancel hw, ih]
  | writeWatermark _ hw ih => rw [writeWatermark_cancel hw, ih]
  | trip _ ih => rw [World.trip, ih]; rfl

theorem uncancelled (h : w.Leads e ds w') (hc : w'.cancelled = false) : w.cancelled = false := by
  by_contra hne
  rw [h.cancelled (by simpa using hne)] at hc
  cases hc

end Leads

theorem Acts.cancel_eq (h : w.Acts e ds w') :
    w'.cancel = w.cancel.map (· || e.transport.trips w.remote (requests ds)) := by
  induction h with
  | refl => simp [Transport.trips]
  | note _ _ ih => exact ih
  | ask ha user request ih =>
    rw [ask_cancel, ih, ha.leads.remote_eq, requests_append, Transport.trips_append, requests_asked, Transport.trips,
      Transport.trips, Bool.or_false]
    generalize (e.transport.send _ user request).1.cancels = trips
    cases trips <;> cases w.cancel <;> simp
  | writeToken _ hw ih => rw [writeToken_cancel hw, ih, requests_append, requests_savedToken, List.append_nil]
  | writeWatermark _ hw ih =>
    rw [writeWatermark_cancel hw, ih, requests_append, requests_savedWatermark, List.append_nil]

/-- Nobody cancels: there is no cancel event, or it is not set and no reply to whatever is asked sets it. -/
def Unthreatened (t : Transport τ) (w : World τ ς) : Prop :=
  w.cancel = none ∨
    w.cancel = some false ∧ ∀ asked user request, (t.send (t.after w.remote asked) user request).1.cancels = false

theorem Unthreatened.acts (hu : w.Unthreatened e.transport) (h : w.Acts e ds w') : w'.Unthreatened e.transport := by
  rcases hu with hnone | ⟨hfalse, hcalm⟩
  · exact .inl (by rw [h.cancel_eq, hnone]; rfl)
  · refine .inr ⟨by rw [h.cancel_eq, hfalse, Transport.trips_of_calm hcalm]; rfl, fun asked user request => ?_⟩
    rw [h.leads.remote_eq, ← Transport.after_append]
    exact hcalm _ user request

theorem Unthreatened.uncancelled (hu : w.Unthreatened e.transport) (h : w.Acts e ds w') : w'.cancelled = false := by
  rcases hu.acts h with hnone | ⟨hfalse, -⟩
  · simp [World.cancelled, hnone]
  · simp [World.cancelled, hfalse]

end World

end MailboxSync
