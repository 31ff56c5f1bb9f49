import MailboxSync.Sync.Run

/-!
# What a journal says

* `Journal.deeds` — the events that are no notes; `exchanges`, `savedTokens` and `savedWatermarks` read a journal
  and see its deeds only;
* `World.Acts e w ds w'` — `w'` comes from `w` by requests, writes and notes, of which `ds` are the deeds in order of
  time.  That is all a run does by itself;
* `World.Leads e w ds w'` — the same, and the caller may have cancelled in between.  Every run leads from its first
  world to its last, so what requests, writes, notes and a cancel preserve is preserved by every run.
-/

namespace MailboxSync

abbrev SyncExchange := SyncRequest × Reply.Outcome

namespace Event

def isNote : Event → Bool
  | noted _ => true
  | _ => false

/-- The sync exchange about a user's folder, if the event is one. -/
def exchange? (user : User) (folder : FolderId) : Event → Option SyncExchange
  | asked u (.sync r) outcome => if u = user ∧ r.folder = folder then some (r, outcome) else none
  | _ => none

/-- The token written for a user's folder, if the event is such a write. -/
def savedToken? (user : User) (folder : FolderId) : Event → Option Token
  | savedToken u f token => if u = user ∧ f = folder then some token else none
  | _ => none

/-- The watermark written, with its user, if the event is such a write. -/
def savedWatermark? : Event → Option (User × Instant)
  | savedWatermark u instant => some (u, instant)
  | _ => none

end Event

namespace Journal

def deeds (es : List Event) : List Event := es.filter (!·.isNote)

def exchanges (user : User) (folder : FolderId) (es : List Event) : List SyncExchange :=
  es.filterMap (Event.exchange? user folder)

def savedTokens (user : User) (folder : FolderId) (es : List Event) : List Token :=
  es.filterMap (Event.savedToken? user folder)

def savedWatermarks (es : List Event) : List (User × Instant) := es.filterMap Event.savedWatermark?

def marks (user : User) (es : List Event) : List Instant :=
  (savedWatermarks es).filterMap fun x => if x.1 = user then some x.2 else none

variable {user : User} {folder : FolderId} {es es' : List Event}

@[simp] theorem deeds_append : deeds (es ++ es') = deeds es ++ deeds es' := List.filter_append ..

@[simp] theorem deeds_notes (ns : List Note) : deeds (ns.map .noted) = [] := by
  induction ns with
  | nil => rfl
  | cons n ns ih => exact ih

@[simp] theorem exchanges_nil : exchanges user folder [] = [] := rfl
@[simp] theorem savedTokens_nil : savedTokens user folder [] = [] := rfl
@[simp] theorem savedWatermarks_nil : savedWatermarks [] = [] := rfl

@[simp] theorem exchanges_append :
    exchanges user folder (es ++ es') = exchanges user folder es ++ exchanges user folder es' :=
  List.filterMap_append ..

@[simp] theorem savedTokens_append :
    savedTokens user folder (es ++ es') = savedTokens user folder es ++ savedTokens user folder es' :=
  List.filterMap_append ..

@[simp] theorem savedWatermarks_append : savedWatermarks (es ++ es') = savedWatermarks es ++ savedWatermarks es' :=
  List.filterMap_append ..

theorem marks_append : marks user (es ++ es') = marks user es ++ marks user es' := by simp [marks]

theorem marks_asked (u : User) (r : Request) (o : Reply.Outcome) : marks user [.asked u r o] = [] := rfl

theorem marks_savedToken (u : User) (f : FolderId) (token : Token) : marks user [.savedToken u f token] = [] := rfl

theorem marks_of_nil (h : savedWatermarks es = []) : marks user es = [] := by simp [marks, h]

theorem marks_saved (u : User) (i : Instant) : marks user [.savedWatermark u i] = if u = user then [i] else [] := by
  have h : savedWatermarks [.savedWatermark u i] = [(u, i)] := rfl
  unfold marks
  rw [h]
  split <;> rename_i hu <;> simp [hu]

theorem filterMap_deeds {α : Type} {f : Event → Option α} (hf : ∀ n, f (.noted n) = none) (es : List Event) :
    (deeds es).filterMap f = es.filterMap f := by
  rw [deeds, List.filterMap_filter]
  refine congrArg (es.filterMap ·) (funext fun ev => ?_)
  cases ev with
  | noted n => simp [Event.isNote, hf]
  | _ => rfl

theorem exchanges_deeds (es : List Event) : exchanges user folder (deeds es) = exchanges user folder es :=
  filterMap_deeds (fun _ => rfl) es

theorem savedTokens_deeds (es : List Event) : savedTokens user folder (deeds es) = savedTokens user folder es :=
  filterMap_deeds (fun _ => rfl) es

theorem savedWatermarks_deeds (es : List Event) : savedWatermarks (deeds es) = savedWatermarks es :=
  filterMap_deeds (fun _ => rfl) es

theorem mem_savedTokens {token : Token} :
    token ∈ savedTokens user folder es ↔ Event.savedToken user folder token ∈ es := by
  simp only [savedTokens, List.mem_filterMap]
  constructor
  · rintro ⟨ev, hev, h⟩
    cases ev with
    | savedToken u f t =>
      simp only [Event.savedToken?, Option.ite_none_right_eq_some, Option.some.injEq] at h
      obtain ⟨⟨rfl, rfl⟩, rfl⟩ := h
      exact hev
    | _ => simp [Event.savedToken?] at h
  · exact fun h => ⟨_, h, by simp [Event.savedToken?]⟩

theorem mem_exchanges {r : SyncRequest} {o : Reply.Outcome} :
    (r, o) ∈ exchanges user folder es ↔ Event.asked user (.sync r) o ∈ es ∧ r.folder = folder := by
  simp only [exchanges, List.mem_filterMap]
  constructor
  · rintro ⟨ev, hev, h⟩
    unfold Event.exchange? at h
    split at h
    · simp only [Option.ite_none_right_eq_some, Option.some.injEq, Prod.mk.injEq] at h
      obtain ⟨⟨rfl, rfl⟩, rfl, rfl⟩ := h
      exact ⟨hev, rfl⟩
    · cases h
  · rintro ⟨hev, rfl⟩
    exact ⟨_, hev, by simp [Event.exchange?]⟩

/-- No sync request, and nothing written. -/
structure Quiet (es : List Event) : Prop where
  exchanges : ∀ u f, Journal.exchanges u f es = []
  savedTokens : ∀ u f, Journal.savedTokens u f es = []
  savedWatermarks : Journal.savedWatermarks es = []

theorem Quiet.nil : Quiet [] := ⟨fun _ _ => rfl, fun _ _ => rfl, rfl⟩

theorem Quiet.find (user : User) (r : FindRequest) (o : Reply.Outcome) : Quiet [.asked user (.find r) o] :=
  ⟨fun _ _ => rfl, fun _ _ => rfl, rfl⟩

theorem Quiet.append (h : Quiet es) (h' : Quiet es') : Quiet (es ++ es') :=
  ⟨fun u f => by simp [h.exchanges, h'.exchanges], fun u f => by simp [h.savedTokens, h'.savedTokens],
    by simp [h.savedWatermarks, h'.savedWatermarks]⟩

end Journal

theorem snoc_eq_append {α : Type} {xs ys zs : List α} {x : α} (h : xs ++ [x] = ys ++ zs) :
    (ys = xs ++ [x] ∧ zs = []) ∨ ∃ rest, zs = rest ++ [x] ∧ xs = ys ++ rest := by
  rcases List.eq_nil_or_concat zs with rfl | ⟨rest, z, rfl⟩
  · exact .inl ⟨by simpa using h.symm, rfl⟩
  · rw [List.concat_eq_append, ← List.append_assoc] at h
    obtain ⟨rfl, hx⟩ := List.append_inj' h rfl
    exact .inr ⟨rest, by rw [hx, List.concat_eq_append], rfl⟩

namespace World

variable {τ ς : Type} {e : Env τ ς} {w w' w'' : World τ ς} {ds ds' : List Event}

/-! ## What the ways to touch the world do to its parts -/

@[simp] theorem record_stores (w : World τ ς) (ev : Event) : (w.record ev).stores = w.stores := rfl
@[simp] theorem record_remote (w : World τ ς) (ev : Event) : (w.record ev).remote = w.remote := rfl
@[simp] theorem record_cancel (w : World τ ς) (ev : Event) : (w.record ev).cancel = w.cancel := rfl
@[simp] theorem record_events (w : World τ ς) (ev : Event) : (w.record ev).events = w.events ++ [ev] := by
  simp [record, events]

@[simp] theorem noteAll_events (w : World τ ς) (ns : List Note) :
    (w.noteAll ns).events = w.events ++ ns.map .noted := by
  simp [events, noteAll_journal]

@[simp] theorem ask_fst (t : Transport τ) (user : User) (request : Request) (w : World τ ς) :
    (w.ask t user request).1 = (t.send w.remote user request).1.outcome := rfl

@[simp] theorem ask_stores (t : Transport τ) (user : User) (request : Request) (w : World τ ς) :
    (w.ask t user request).2.stores = w.stores := by
  simp only [ask, noteAll_stores]
  split <;> rfl

@[simp] theorem ask_remote (t : Transport τ) (user : User) (request : Request) (w : World τ ς) :
    (w.ask t user request).2.remote = (t.send w.remote user request).2 := by
  simp only [ask, noteAll_remote]
  split <;> rfl

theorem ask_events (t : Transport τ) (user : User) (request : Request) (w : World τ ς) :
    (w.ask t user request).2.events =
      w.events ++ .asked user request (w.ask t user request).1 ::
        (t.send w.remote user request).1.notes.map .noted := by
  simp only [ask, noteAll_events]
  split <;> simp [trip, events, record]

theorem writeToken_ok {s : Stores ς} {user : User} {folder : FolderId} {token : Token}
    (h : w.writeToken s user folder token = (.ok (), w')) :
    ∃ notes, s.saveToken w.stores user folder token = .ok (w'.stores, notes) ∧ w'.remote = w.remote ∧
      w'.events = w.events ++ .savedToken user folder token :: notes.map .noted := by
  unfold writeToken at h
  split at h
  · cases h
  · rename_i stores notes hs
    cases h
    exact ⟨notes, by simp [hs], by simp, by simp [events, record, noteAll_journal]⟩

theorem writeWatermark_ok {s : Stores ς} {user : User} {instant : Instant}
    (h : w.writeWatermark s user instant = (.ok (), w')) :
    ∃ notes, s.saveWatermark w.stores user (.ofInstant instant) = .ok (w'.stores, notes) ∧ w'.remote = w.remote ∧
      w'.events = w.events ++ .savedWatermark user instant :: notes.map .noted := by
  unfold writeWatermark at h
  split at h
  · cases h
  · rename_i stores notes hs
    cases h
    exact ⟨notes, by simp [hs], by simp, by simp [events, record, noteAll_journal]⟩

/-! ## From one world to another -/

/-- `w'` comes from `w` by requests, writes and notes; `ds` are the deeds among them, oldest first. -/
inductive Acts (e : Env τ ς) (w : World τ ς) : List Event → World τ ς → Prop
  | refl : Acts e w [] w
  | note {ds : List Event} {w' : World τ ς} (h : Acts e w ds w') (n : Note) : Acts e w ds (w'.record (.noted n))
  | ask {ds : List Event} {w' : World τ ς} (h : Acts e w ds w') (user : User) (request : Request) :
    Acts e w (ds ++ [.asked user request (w'.ask e.transport user request).1]) (w'.ask e.transport user request).2
  | writeToken {ds : List Event} {w' w'' : World τ ς} {user : User} {folder : FolderId} {token : Token}
    (h : Acts e w ds w') (hw : w'.writeToken e.stores user folder token = (.ok (), w'')) :
    Acts e w (ds ++ [.savedToken user folder token]) w''
  | writeWatermark {ds : List Event} {w' w'' : World τ ς} {user : User} {instant : Instant}
    (h : Acts e w ds w') (hw : w'.writeWatermark e.stores user instant = (.ok (), w'')) :
    Acts e w (ds ++ [.savedWatermark user instant]) w''

/-- The same, but the caller may cancel in between. -/
inductive Leads (e : Env τ ς) (w : World τ ς) : List Event → World τ ς → Prop
  | refl : Leads e w [] w
  | note {ds : List Event} {w' : World τ ς} (h : Leads e w ds w') (n : Note) : Leads e w ds (w'.record (.noted n))
  | ask {ds : List Event} {w' : World τ ς} (h : Leads e w ds w') (user : User) (request : Request) :
    Leads e w (ds ++ [.asked user request (w'.ask e.transport user request).1]) (w'.ask e.transport user request).2
  | writeToken {ds : List Event} {w' w'' : World τ ς} {user : User} {folder : FolderId} {token : Token}
    (h : Leads e w ds w') (hw : w'.writeToken e.stores user folder token = (.ok (), w'')) :
    Leads e w (ds ++ [.savedToken user folder token]) w''
  | writeWatermark {ds : List Event} {w' w'' : World τ ς} {user : User} {instant : Instant}
    (h : Leads e w ds w') (hw : w'.writeWatermark e.stores user instant = (.ok (), w'')) :
    Leads e w (ds ++ [.savedWatermark user instant]) w''
  | trip {ds : List Event} {w' : World τ ς} (h : Leads e w ds w') : Leads e w ds w'.trip

namespace Acts

theorem leads (h : Acts e w ds w') : Leads e w ds w' := by
  induction h with
  | refl => exact .refl
  | note _ n ih => exact ih.note n
  | ask _ user request ih => exact ih.ask user request
  | writeToken _ hw ih => exact ih.writeToken hw
  | writeWatermark _ hw ih => exact ih.writeWatermark hw

theorem trans (h : Acts e w ds w') (h' : Acts e w' ds' w'') : Acts e w (ds ++ ds') w'' := by
  induction h' with
  | refl => simpa using h
  | note _ n ih => exact ih.note n
  | ask _ user request ih => simpa using ih.ask user request
  | writeToken _ hw ih => simpa using ih.writeToken hw
  | writeWatermark _ hw ih => simpa using ih.writeWatermark hw

theorem noteAll (h : Acts e w ds w') (ns : List Note) : Acts e w ds (w'.noteAll ns) := by
  induction ns generalizing w' with
  | nil => exact h
  | cons n ns ih => exact ih (h.note n)

end Acts

namespace Leads

theorem trans (h : Leads e w ds w') (h' : Leads e w' ds' w'') : Leads e w (ds ++ ds') w'' := by
  induction h' with
  | refl => simpa using h
  | note _ n ih => exact ih.note n
  | ask _ user request ih => simpa using ih.ask user request
  | writeToken _ hw ih => simpa using ih.writeToken hw
  | writeWatermark _ hw ih => simpa using ih.writeWatermark hw
  | trip _ ih => exact ih.trip

/-- Deeds come one after another. -/
theorem split {ds₁ ds₂ : List Event} (h : w.Leads e (ds₁ ++ ds₂) w') :
    ∃ v, w.Leads e ds₁ v ∧ v.Leads e ds₂ w' := by
  generalize hds : ds₁ ++ ds₂ = ds at h
  induction h generalizing ds₂ with
  | refl =>
    obtain ⟨rfl, rfl⟩ := List.append_eq_nil_iff.mp hds
    exact ⟨w, .refl, .refl⟩
  | note _ n ih =>
    obtain ⟨v, h₁, h₂⟩ := ih hds
    exact ⟨v, h₁, h₂.note n⟩
  | ask h user request ih =>
    rcases snoc_eq_append hds.symm with ⟨rfl, rfl⟩ | ⟨rest, rfl, hrest⟩
    · exact ⟨_, h.ask user request, .refl⟩
    · obtain ⟨v, h₁, h₂⟩ := ih hrest.symm
      exact ⟨v, h₁, h₂.ask user request⟩
  | writeToken h hw ih =>
    rcases snoc_eq_append hds.symm with ⟨rfl, rfl⟩ | ⟨rest, rfl, hrest⟩
    · exact ⟨_, h.writeToken hw, .refl⟩
    · obtain ⟨v, h₁, h₂⟩ := ih hrest.symm
      exact ⟨v, h₁, h₂.writeToken hw⟩
  | writeWatermark h hw ih =>
    rcases snoc_eq_append hds.symm with ⟨rfl, rfl⟩ | ⟨rest, rfl, hrest⟩
    · exact ⟨_, h.writeWatermark hw, .refl⟩
    · obtain ⟨v, h₁, h₂⟩ := ih hrest.symm
      exact ⟨v, h₁, h₂.writeWatermark hw⟩
  | trip _ ih =>
    obtain ⟨v, h₁, h₂⟩ := ih hds
    exact ⟨v, h₁, h₂.trip⟩

theorem noteAll (h : Leads e w ds w') (ns : List Note) : Leads e w ds (w'.noteAll ns) := by
  induction ns generalizing w' with
  | nil => exact h
  | cons n ns ih => exact ih (h.note n)

/-- The journal grows by the deeds, with notes between them. -/
theorem events_eq (h : Leads e w ds w') : ∃ es, w'.events = w.events ++ es ∧ Journal.deeds es = ds := by
  induction h with
  | refl => exact ⟨[], by simp, rfl⟩
  | note _ n ih =>
    obtain ⟨es, hes, hd⟩ := ih
    exact ⟨es ++ [.noted n], by simp [hes], by simpa [hd] using Journal.deeds_notes [n]⟩
  | ask _ user request ih =>
    obtain ⟨es, hes, hd⟩ := ih
    exact ⟨_, by rw [ask_events, hes, List.append_assoc], by
      rw [Journal.deeds_append, hd]; congr 1; exact congrArg _ (Journal.deeds_notes _)⟩
  | writeToken _ hw ih =>
    obtain ⟨es, hes, hd⟩ := ih
    obtain ⟨ns, -, -, hev⟩ := writeToken_ok hw
    exact ⟨_, by rw [hev, hes, List.append_assoc], by
      rw [Journal.deeds_append, hd]; congr 1; exact congrArg _ (Journal.deeds_notes _)⟩
  | writeWatermark _ hw ih =>
    obtain ⟨es, hes, hd⟩ := ih
    obtain ⟨ns, -, -, hev⟩ := writeWatermark_ok hw
    exact ⟨_, by rw [hev, hes, List.append_assoc], by
      rw [Journal.deeds_append, hd]; congr 1; exact congrArg _ (Journal.deeds_notes _)⟩
  | trip _ ih => exact ih

theorem stores_eq (h : Leads e w ds w') (ht : ∀ u f, Journal.savedTokens u f ds = [])
    (hm : Journal.savedWatermarks ds = []) : w'.stores = w.stores := by
  induction h with
  | refl => rfl
  | note _ n ih => exact ih ht hm
  | ask _ user request ih =>
    simp only [Journal.savedTokens_append, Journal.savedWatermarks_append, List.append_eq_nil_iff] at ht hm
    rw [ask_stores]
    exact ih (fun u f => (ht u f).1) hm.1
  | @writeToken _ _ _ user folder token _ _ _ =>
    have := ht user folder
    simp [Journal.savedTokens, Event.savedToken?] at this
  | writeWatermark _ _ _ => simp [Journal.savedWatermarks, Event.savedWatermark?] at hm
  | trip _ ih => exact ih ht hm

end Leads

/-- The events of `w'` that are not yet in `w`. -/
def eventsSince (w w' : World τ ς) : List Event := w'.events.drop w.events.length

theorem Leads.deeds_eventsSince (h : Leads e w ds w') : Journal.deeds (w.eventsSince w') = ds := by
  obtain ⟨es, hes, hd⟩ := h.events_eq
  rw [eventsSince, hes, List.drop_left, hd]

theorem Leads.exchanges_eventsSince (h : Leads e w ds w') (user : User) (folder : FolderId) :
    Journal.exchanges user folder (w.eventsSince w') = Journal.exchanges user folder ds := by
  rw [← Journal.exchanges_deeds, h.deeds_eventsSince]

theorem Leads.savedTokens_eventsSince (h : Leads e w ds w') (user : User) (folder : FolderId) :
    Journal.savedTokens user folder (w.eventsSince w') = Journal.savedTokens user folder ds := by
  rw [← Journal.savedTokens_deeds, h.deeds_eventsSince]

theorem Leads.savedWatermarks_eventsSince (h : Leads e w ds w') :
    Journal.savedWatermarks (w.eventsSince w') = Journal.savedWatermarks ds := by
  rw [← Journal.savedWatermarks_deeds, h.deeds_eventsSince]

end World

end MailboxSync
