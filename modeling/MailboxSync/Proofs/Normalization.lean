import MailboxSync.Proofs.Reckoning
import MailboxSync.Proofs.Run
import MailboxSync.Proofs.Stores

/-!
# Stamps on one clock

A stamp is a valid date-time with an offset or without one (`Stamp.fields_ofFields`, `Stamp.ext_fields`).  The instant
it denotes is `Stamp.denoted`: the microseconds counted before its date-time less its offset, where a naive reading
is taken as UTC.

* `Stamp.normalized` — the same instant on a clock that shows UTC, unless it lies outside the calendar;
* `Backend.givenMark` — the stamp a backend holds as a user's watermark, before it is normalized;
* `Stamp.normalization_exact` — the instant stays what it is and nothing but the ends of the calendar is in the way;
  comparing normalized stamps field by field compares instants, and so does moving a watermark.
-/

namespace MailboxSync

open Calendar

/-! ## The ends of the calendar -/

namespace Calendar

/-- The first date-time and the last one. -/
def first : Fields := ⟨1, 1, 1, 0, 0, 0, 0⟩
def last : Fields := ⟨9999, 12, 31, 23, 59, 59, 999999⟩

/-- A number of microseconds from the first date-time to the last one. -/
def Within (n : Int) : Prop := (first.elapsed : Int) ≤ n ∧ n ≤ last.elapsed

theorem within_iff {n : Int} : Within n ↔ 0 ≤ n ∧ n < span := by
  have hfirst : first.elapsed = 0 := (Fields.micros_eq_elapsed (by decide)).symm
  have hlast : last.elapsed = span - 1 := (Fields.micros_eq_elapsed (by decide)).symm
  have hspan : 0 < span := by decide
  rw [Within, hfirst, hlast]
  omega

end Calendar

/-! ## Stamps -/

namespace Stamp

variable {s t s' t' : Stamp} {i j : Instant}

def fields (s : Stamp) : Fields := .ofMicros s.wall

/-- The stamp of a wall clock that shows a date-time. -/
def ofFields (f : Fields) (h : f.Valid) (offset : Option Offset) : Stamp :=
  ⟨f.micros, Fields.micros_lt_span h, offset⟩

/-- Microseconds from the first date-time to the instant a stamp denotes. -/
def denoted (s : Stamp) : Int := s.fields.elapsed - s.offset.elim 0 (·.micros)

/-- The same instant on a clock that shows UTC. -/
def normalized (s : Stamp) : Except Fault Stamp := s.toInstant.map .ofInstant

theorem fields_valid (s : Stamp) : s.fields.Valid := Fields.ofMicros_valid s.inSpan

theorem fields_ofFields {f : Fields} (h : f.Valid) (offset : Option Offset) : (ofFields f h offset).fields = f :=
  Fields.ofMicros_micros h

theorem elapsed_fields (s : Stamp) : s.fields.elapsed = s.wall := by
  rw [← Fields.micros_eq_elapsed s.fields_valid, fields, Fields.micros_ofMicros]

theorem ext_fields (hf : s.fields = t.fields) (ho : s.offset = t.offset) : s = t := by
  have hwall : s.wall = t.wall := by rw [← elapsed_fields, ← elapsed_fields, hf]
  cases s
  cases t
  simp_all

theorem utcMicros_eq_denoted (s : Stamp) : s.utcMicros = s.denoted := by
  unfold utcMicros denoted
  rw [elapsed_fields]
  cases s.offset <;> simp

theorem toInstant_of_within (h : Within s.denoted) : ∃ i, s.toInstant = .ok i ∧ (i.micros : Int) = s.denoted := by
  obtain ⟨h₀, hspan⟩ := within_iff.1 h
  have hlt : s.denoted.toNat < span := by omega
  refine ⟨⟨_, hlt⟩, ?_, Int.toNat_of_nonneg h₀⟩
  simp only [toInstant, utcMicros_eq_denoted, Instant.ofMicros?, dif_pos hlt, if_pos h₀]

theorem toInstant_of_not_within (h : ¬ Within s.denoted) : s.toInstant = .error .dateOutOfRange := by
  rw [within_iff] at h
  unfold toInstant Instant.ofMicros?
  rw [utcMicros_eq_denoted]
  split
  · rename_i i hi
    split at hi
    · split at hi
      · omega
      · cases hi
    · cases hi
  · rfl

theorem denoted_of_toInstant (h : s.toInstant = .ok i) : (i.micros : Int) = s.denoted := by
  by_cases hw : Within s.denoted
  · obtain ⟨j, hj, hm⟩ := toInstant_of_within hw
    cases h.symm.trans hj
    exact hm
  · rw [toInstant_of_not_within hw] at h
    cases h

theorem denoted_ofInstant (i : Instant) : (ofInstant i).denoted = i.micros :=
  (denoted_of_toInstant (toInstant_ofInstant i)).symm

theorem normalized_ofInstant (i : Instant) : (ofInstant i).normalized = .ok (ofInstant i) := by
  rw [normalized, toInstant_ofInstant]
  rfl

theorem toInstant_of_normalized (h : s.normalized = .ok t) : ∃ i, s.toInstant = .ok i ∧ t = ofInstant i := by
  cases hi : s.toInstant with
  | ok i =>
    rw [normalized, hi] at h
    exact ⟨i, rfl, (Except.ok.inj h).symm⟩
  | error fault =>
    rw [normalized, hi] at h
    cases h

theorem normalized_of_within (h : Within s.denoted) : ∃ t, s.normalized = .ok t ∧ t.offset = some .zero ∧
    t.denoted = s.denoted ∧ t.normalized = .ok t := by
  obtain ⟨i, hi, hm⟩ := toInstant_of_within h
  refine ⟨ofInstant i, by rw [normalized, hi]; rfl, rfl, ?_, normalized_ofInstant i⟩
  rw [denoted_ofInstant, hm]

theorem normalized_of_not_within (h : ¬ Within s.denoted) : s.normalized = .error .dateOutOfRange := by
  rw [normalized, toInstant_of_not_within h]
  rfl

theorem fields_ofInstant_lt_iff (i j : Instant) :
    (ofInstant i).fields.toList < (ofInstant j).fields.toList ↔ i < j := by
  rw [← Fields.micros_lt_iff (fields_valid _) (fields_valid _), fields, fields, Fields.micros_ofMicros,
    Fields.micros_ofMicros]
  rfl

/-- **Normalized stamps are compared as the instants of the stamps they come from.** -/
theorem normalized_compare (hs : s.normalized = .ok s') (ht : t.normalized = .ok t') :
    (s'.fields.toList < t'.fields.toList ↔ s.denoted < t.denoted) ∧
      (s'.fields = t'.fields ↔ s.denoted = t.denoted) := by
  obtain ⟨i, hi, rfl⟩ := toInstant_of_normalized hs
  obtain ⟨j, hj, rfl⟩ := toInstant_of_normalized ht
  have hlt : i < j ↔ s.denoted < t.denoted := by
    rw [← denoted_of_toInstant hi, ← denoted_of_toInstant hj]
    exact Int.ofNat_lt.symm
  refine ⟨(fields_ofInstant_lt_iff i j).trans hlt, fun h => ?_, fun h => ?_⟩
  · have hij : ofInstant i = ofInstant j := ext_fields h rfl
    rw [← denoted_of_toInstant hi, ← denoted_of_toInstant hj, ← denoted_ofInstant, ← denoted_ofInstant, hij]
  · rw [← denoted_of_toInstant hi, ← denoted_of_toInstant hj, Int.ofNat_inj] at h
    rw [fields, fields]
    exact congrArg Fields.ofMicros h

end Stamp

/-! ## Watermarks as they are given -/

namespace Backend

variable {b : Backend} {p p' : Progress} {user : User} {t : Stamp} {notes : List Note}

/-- The stamp held as the watermark of a user. -/
def givenMark (b : Backend) (p : Progress) (user : User) : Except Fault Stamp :=
  match b.watermarks with
  | .memory => .ok (.ofInstant (p.memory.watermarks.watermark user))
  | .database => (p.database.watermark? user).map (·.getD (.ofInstant .epoch))
  | .nowhere => .ok (.ofInstant .epoch)

/-- A watermark is read as the instant of the stamp that is held. -/
theorem watermark_of_givenMark (h : b.givenMark p user = .ok t) :
    b.stores.watermark p user = t.toInstant.map fun i => (i, []) := by
  unfold givenMark at h
  unfold stores
  cases hw : b.watermarks with
  | memory =>
    rw [hw] at h
    cases h
    rw [Stamp.toInstant_ofInstant]
    rfl
  | database =>
    simp only [hw] at h
    simp only [Database.stores]
    cases hd : p.database.watermark? user with
    | error fault =>
      rw [hd] at h
      cases h
    | ok held =>
      rw [hd] at h
      obtain rfl : held.getD (.ofInstant .epoch) = t := Except.ok.inj h
      cases held with
      | none =>
        rw [Option.getD_none, Stamp.toInstant_ofInstant]
        rfl
      | some _ => rfl
  | nowhere =>
    rw [hw] at h
    cases h
    rw [Stamp.toInstant_ofInstant]
    rfl

theorem saveWatermark_of_givenMark (h : b.givenMark p user = .ok t) (i : Instant) :
    ∃ p' notes, b.stores.saveWatermark p user (.ofInstant i) = .ok (p', notes) := by
  unfold givenMark at h
  unfold stores
  cases hw : b.watermarks with
  | memory => simp [Memory.stores, WatermarkTable.save, Stamp.toInstant_ofInstant, Except.map]
  | database =>
    rw [hw] at h
    cases ht : p.database.watermarks with
    | none => simp [Database.watermark?, Database.watermarkTable, ht, Except.map] at h
    | some table =>
      simp [Database.stores, Stamp.toInstant_ofInstant, Database.putWatermarkText, Database.watermarkTable, ht,
        Except.map]
  | nowhere => exact ⟨_, _, rfl⟩

/-- What is held of a stamp that was written is the stamp normalized. -/
theorem givenMark_of_saveWatermark (hb : b.watermarks ≠ .nowhere)
    (h : b.stores.saveWatermark p user t = .ok (p', notes)) : b.givenMark p' user = t.normalized := by
  unfold stores at h
  unfold givenMark Stamp.normalized
  cases hi : t.toInstant with
  | error fault =>
    cases hw : b.watermarks with
    | memory => simp [hw, Memory.stores, WatermarkTable.save, hi, Except.map] at h
    | database => simp [hw, Database.stores, hi, Except.map] at h
    | nowhere => exact absurd hw hb
  | ok i =>
    cases hw : b.watermarks with
    | memory =>
      simp only [hw, Memory.stores, WatermarkTable.save, hi, Except.map, Except.ok.injEq, Prod.mk.injEq] at h
      obtain ⟨rfl, -⟩ := h
      simp [WatermarkTable.watermark, Table.get?_put, Except.map]
    | database =>
      simp only [hw, Database.stores, hi, Database.putWatermarkText, Database.watermarkTable] at h
      cases ht : p.database.watermarks with
      | none => simp [ht, Except.map] at h
      | some table =>
        simp only [ht, Except.map, Except.ok.injEq, Prod.mk.injEq] at h
        obtain ⟨rfl, -⟩ := h
        simp [Database.watermark?, Database.watermarkTable, Table.get?_put, Iso.toStamp_ofInstant, Except.map]
    | nowhere => exact absurd hw hb

end Backend

/-! ## Moving the watermark -/

section Advancing

variable {τ : Type} {b : Backend} {e : Env τ Progress} {user : User} {w : World τ Progress} {s t : Stamp}

/-- Of two instants in the calendar the later one is written. -/
theorem advanceWatermark_of_within (he : e.stores = b.stores) (ht : b.givenMark w.stores user = .ok t)
    (hs : Within s.denoted) (hw : Within t.denoted) : ∃ i w', advanceWatermark e user (some s) w = (.ok i, w') ∧
      w.Acts e [.savedWatermark user i] w' ∧ (if s.denoted < t.denoted then t else s).toInstant = .ok i := by
  obtain ⟨i, hi, him⟩ := Stamp.toInstant_of_within hs
  obtain ⟨j, hj, hjm⟩ := Stamp.toInstant_of_within hw
  have hread := Backend.watermark_of_givenMark ht
  rw [hj] at hread
  obtain ⟨ds, ha, hl⟩ := advanceWatermark_advances e user (some s) w
  have hstamp : e.stampOf (some s) = .ok i := hi
  generalize advanceWatermark e user (some s) w = r at ha hl
  obtain ⟨result, w'⟩ := r
  cases ha with
  | unstamped hn =>
    rw [hstamp] at hn
    cases hn
  | unread hr =>
    rw [he, hread] at hr
    cases hr
  | @unsaved _ next hsave =>
    obtain ⟨p', notes, hok⟩ := Backend.saveWatermark_of_givenMark ht next
    rw [he, hok] at hsave
    cases hsave
  | saved hn hr hsave =>
    rw [hstamp] at hn
    cases hn
    rw [he, hread] at hr
    cases hr
    refine ⟨_, w', rfl, hl, ?_⟩
    have hlt : i < j ↔ s.denoted < t.denoted := by
      rw [← him, ← hjm]
      exact Int.ofNat_lt.symm
    unfold Instant.later
    by_cases h : i < j
    · rw [if_pos (hlt.1 h), if_pos h, hj]
    · rw [if_neg (mt hlt.2 h), if_neg h, hi]

theorem advanceWatermark_of_not_within (he : e.stores = b.stores) (ht : b.givenMark w.stores user = .ok t)
    (h : ¬ Within s.denoted ∨ ¬ Within t.denoted) :
    advanceWatermark e user (some s) w = (.error .dateOutOfRange, w) := by
  have hread := Backend.watermark_of_givenMark ht
  by_cases hs : Within s.denoted
  · obtain ⟨i, hi, -⟩ := Stamp.toInstant_of_within hs
    rw [Stamp.toInstant_of_not_within (h.resolve_left (not_not_intro hs))] at hread
    simp [advanceWatermark, Env.stampOf, hi, World.readWatermark, he, hread, Except.map]
  · simp [advanceWatermark, Env.stampOf, Stamp.toInstant_of_not_within hs]

end Advancing

/-! ## Exactness -/

/-- **Normalizing is exact and keeps the order.**  Valid date-times with any offset or none are all there is to
normalize; what comes out shows UTC and denotes the same instant, and fails exactly outside the calendar; a second
time changes nothing; results compare field by field as the instants do, whatever the offsets; and moving a watermark
keeps the stamp of the later instant, whatever the offset of the stamp that was held or written before. -/
theorem Stamp.normalization_exact :
    (∀ (f : Fields) (o : Option Offset), f.Valid → ∃! s : Stamp, s.fields = f ∧ s.offset = o) ∧
    (∀ s : Stamp, s.fields.Valid) ∧
    (∀ s : Stamp, Within s.denoted →
      ∃ t, s.normalized = .ok t ∧ t.offset = some .zero ∧ t.denoted = s.denoted ∧ t.normalized = .ok t) ∧
    (∀ s : Stamp, ¬ Within s.denoted → s.normalized = .error .dateOutOfRange) ∧
    (∀ s t s' t' : Stamp, s.normalized = .ok s' → t.normalized = .ok t' →
      (s'.fields.toList < t'.fields.toList ↔ s.denoted < t.denoted) ∧
        (s'.fields = t'.fields ↔ s.denoted = t.denoted)) ∧
    (∀ (b : Backend) (p p' : Progress) (user : User) (t : Stamp) (notes : List Note), b.watermarks ≠ .nowhere →
      b.stores.saveWatermark p user t = .ok (p', notes) → b.givenMark p' user = t.normalized) ∧
    ∀ {τ : Type} (b : Backend) (e : Env τ Progress) (user : User) (w : World τ Progress) (s t : Stamp),
      e.stores = b.stores → b.givenMark w.stores user = .ok t →
      (Within s.denoted → Within t.denoted → ∃ i w', advanceWatermark e user (some s) w = (.ok i, w') ∧
        w.Acts e [.savedWatermark user i] w' ∧ (if s.denoted < t.denoted then t else s).toInstant = .ok i) ∧
      (¬ Within s.denoted ∨ ¬ Within t.denoted →
        advanceWatermark e user (some s) w = (.error .dateOutOfRange, w)) := by
  refine ⟨fun f o hf => ?_, fields_valid, fun s => normalized_of_within, fun s => normalized_of_not_within,
    fun s t s' t' => normalized_compare, fun b p p' user t notes => Backend.givenMark_of_saveWatermark, ?_⟩
  · exact ⟨ofFields f hf o, ⟨fields_ofFields hf o, rfl⟩,
      fun s ⟨hs, ho⟩ => ext_fields (hs.trans (fields_ofFields hf o).symm) ho⟩
  · intro τ b e user w s t he ht
    exact ⟨advanceWatermark_of_within he ht, advanceWatermark_of_not_within he ht⟩

/-- Late on a leap day an hour behind UTC, and on the next morning five and a half hours ahead: the clock that shows
more is the earlier one, by a microsecond. -/
def leapEvening : Stamp :=
  .ofFields ⟨2024, 2, 29, 23, 30, 0, 1⟩ (by decide) (some ⟨-3600000000, by decide, by decide⟩)
def nextMorning : Stamp :=
  .ofFields ⟨2024, 3, 1, 6, 0, 0, 0⟩ (by decide) (some ⟨19800000000, by decide, by decide⟩)

/-- The first reading of a clock that is a microsecond ahead. -/
def tooEarly : Stamp := .ofFields first (by decide) (some ⟨1, by decide, by decide⟩)

/-- A database somebody wrote the evening into. -/
def heldEvening : World Unit Progress where
  remote := ()
  stores := { database := { watermarks := some (Table.empty.put "u" "2024-02-29T23:30:00.000001-01:00") } }

/-- A run over that database, in which no request is answered. -/
def unanswered : Env Unit Progress where
  transport := ⟨fun t _ _ => ({ outcome := .ok none }, t)⟩
  stores := Backend.database.stores
  config := default

/-- The evening is the first of March in UTC and stays when the morning comes; before the first date-time there is
nothing. -/
theorem leapEvening_normalization_exact :
    (∃ t, leapEvening.normalized = .ok t ∧ t.fields = ⟨2024, 3, 1, 0, 30, 0, 1⟩ ∧ t.normalized = .ok t) ∧
    tooEarly.normalized = .error .dateOutOfRange ∧
    ∃ i w', advanceWatermark unanswered "u" (some nextMorning) heldEvening = (.ok i, w') ∧
      leapEvening.toInstant = .ok i := by
  have hevening : Within leapEvening.denoted := within_iff.2 (by rw [← Stamp.utcMicros_eq_denoted]; decide +kernel)
  have hmorning : Within nextMorning.denoted := within_iff.2 (by rw [← Stamp.utcMicros_eq_denoted]; decide +kernel)
  have hearly : ¬ Within tooEarly.denoted := by rw [within_iff, ← Stamp.utcMicros_eq_denoted]; decide +kernel
  have hlt : nextMorning.denoted < leapEvening.denoted := by
    rw [← Stamp.utcMicros_eq_denoted, ← Stamp.utcMicros_eq_denoted]
    decide +kernel
  obtain ⟨-, -, hok, herror, -, -, hadvance⟩ := Stamp.normalization_exact
  obtain ⟨i, w', hrun, -, hi⟩ := (hadvance .database unanswered "u" heldEvening nextMorning leapEvening rfl
    (by decide +kernel)).1 hmorning hevening
  rw [if_pos hlt] at hi
  obtain ⟨t, ht, -, -, hidem⟩ := hok leapEvening hevening
  refine ⟨⟨t, ht, ?_, hidem⟩, herror tooEarly hearly, i, w', hrun, hi⟩
  have hinstant : leapEvening.normalized = .ok (.ofInstant ⟨63844849800000001, by decide⟩) := by decide +kernel
  cases ht.symm.trans hinstant
  decide +kernel

end MailboxSync
