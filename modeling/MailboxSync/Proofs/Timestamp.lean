import MailboxSync.Proofs.Calendar
import MailboxSync.Proofs.Octets
import Mathlib.Data.List.Basic

/-!
# Timestamps read back

An instant written as text reads back as the stamp of that instant (`toStamp_ofInstant`), which denotes it
(`Stamp.toInstant_ofInstant`).  The text is `YYYY-MM-DDTHH:MM:SS`, a fraction unless it is zero, and `+00:00`: the
pieces are read in this order, each lemma leaving the octets of the pieces after it.
-/

namespace MailboxSync

namespace Iso

open Calendar

/-! ## Digits -/

theorem toNat_digit {d : Nat} (h : d < 10) : (Char.ofNat (48 + d)).toNat = 48 + d := by
  interval_cases d <;> rfl

theorem octets_digits_succ (width n : Nat) :
    octets (digits (width + 1) n) = octets (digits width (n / 10)) ++ [UInt8.ofNat (48 + n % 10)] := by
  have hnat : (Char.ofNat (48 + n % 10)).toNat = 48 + n % 10 := toNat_digit (Nat.mod_lt n (by decide))
  rw [digits, octets_push (by omega), hnat]

theorem length_octets_digits (width n : Nat) : (octets (digits width n)).length = width := by
  induction width generalizing n with
  | zero => simp [digits]
  | succ width ih => simp [octets_digits_succ, ih]

theorem isDigit_ofNat {d : Nat} (h : d < 10) :
    isDigit (UInt8.ofNat (48 + d)) ∧ (UInt8.ofNat (48 + d)).toNat - 48 = d := by
  interval_cases d <;> decide

theorem isDigit_of_mem {width n : Nat} {b : UInt8} (h : b ∈ octets (digits width n)) : isDigit b := by
  induction width generalizing n with
  | zero => simp [digits] at h
  | succ width ih =>
    rw [octets_digits_succ, List.mem_append, List.mem_singleton] at h
    obtain h | rfl := h
    · exact ih h
    · exact (isDigit_ofNat (Nat.mod_lt n (by decide))).1

theorem number_add (a b : Nat) (bs : List UInt8) (acc : Nat) :
    number (a + b) bs acc = (number a bs acc).bind fun (value, r) => number b r value := by
  induction a generalizing bs acc with
  | zero => simp [number]
  | succ a ih =>
    rw [Nat.add_right_comm]
    cases bs with
    | nil => rfl
    | cons c bs =>
      simp only [number]
      split
      · exact ih bs _
      · rfl

/-- **Digits that were written read back as the number they were cut from.** -/
theorem number_digits (width n : Nat) (rest : List UInt8) (acc : Nat) :
    number width (octets (digits width n) ++ rest) acc = some (acc * 10 ^ width + n % 10 ^ width, rest) := by
  induction width generalizing n rest with
  | zero => simp [digits, number, Nat.mod_one]
  | succ width ih =>
    obtain ⟨hdigit, hvalue⟩ := isDigit_ofNat (Nat.mod_lt n (by decide : 10 > 0))
    rw [octets_digits_succ, List.append_assoc, number_add, ih]
    simp only [Option.bind_some, List.singleton_append, number, hdigit, if_true, hvalue]
    have hacc : acc * (10 * 10 ^ width) = acc * 10 ^ width * 10 := by rw [Nat.mul_comm 10, Nat.mul_assoc]
    rw [Nat.pow_succ, Nat.mul_comm (10 ^ width) 10, Nat.mod_mul, hacc, Nat.add_mul, Nat.mul_comm (n / 10 % _)]
    congr 2
    omega

theorem number_digits_of_lt {width n : Nat} (h : n < 10 ^ width) (rest : List UInt8) :
    number width (octets (digits width n) ++ rest) 0 = some (n, rest) := by
  rw [number_digits, Nat.mod_eq_of_lt h, Nat.zero_mul, Nat.zero_add]

theorem ne_of_isDigit {b c : UInt8} (hb : isDigit b) (hc : isDigit c = false) : b ≠ c := by
  rintro rfl
  rw [hb] at hc
  cases hc

/-! ## The text of an instant -/

def fractionOctets (micro : Nat) : List UInt8 := if micro = 0 then [] else 46 :: octets (digits 6 micro)

def clockOctets (f : Fields) : List UInt8 :=
  octets (digits 2 f.hour) ++ 58 :: (octets (digits 2 f.minute) ++ 58 :: (octets (digits 2 f.second) ++
    fractionOctets f.micro))

def dateOctets (f : Fields) : List UInt8 :=
  octets (digits 4 f.year) ++ 45 :: (octets (digits 2 f.month) ++ 45 :: octets (digits 2 f.day))

def utcOctets : List UInt8 := [43, 48, 48, 58, 48, 48]

theorem octets_ofInstant (i : Instant) : octets (ofInstant i) =
    dateOctets (.ofMicros i.micros) ++ 84 :: (clockOctets (.ofMicros i.micros) ++ utcOctets) := by
  have hutc : octets (offset .zero) = utcOctets := by decide +kernel
  have hpoint : octets "." = [46] := by decide +kernel
  have hfraction (n : Nat) : octets (fraction n) = fractionOctets n := by
    unfold fraction fractionOctets
    split
    · exact octets_empty
    · rw [octets_append, hpoint]
      rfl
  have hhyphen : octets "-" = [45] := by decide +kernel
  have hcolon : octets ":" = [58] := by decide +kernel
  have ht : octets "T" = [84] := by decide +kernel
  simp [ofInstant, ofStamp, Stamp.ofInstant, wall, dateOctets, clockOctets, hutc, hfraction, hhyphen, hcolon, ht]

/-! ## Reading it -/

theorem octets_digits_two (n : Nat) : ∃ a b, octets (digits 2 n) = [a, b] ∧ isDigit a ∧ isDigit b := by
  obtain ⟨a, b, h⟩ := List.length_eq_two.1 (length_octets_digits 2 n)
  have hmem : ∀ c ∈ [a, b], isDigit c := fun c hc => isDigit_of_mem (h ▸ hc)
  exact ⟨a, b, h, hmem a (by simp), hmem b (by simp)⟩

theorem length_dateOctets (f : Fields) : (dateOctets f).length = 10 := by simp [dateOctets, length_octets_digits]

theorem dateLength_dateOctets (f : Fields) (rest : List UInt8) : dateLength (dateOctets f ++ rest) = 10 := by
  obtain ⟨a, b, h, ha, -⟩ := octets_digits_two f.month
  have hlen : (dateOctets f ++ rest).length ≠ 7 := by simp [length_dateOctets]; omega
  have hfour : (dateOctets f ++ rest).getD 4 0 = hyphen := by
    simp [dateOctets, List.getD_eq_getElem?_getD, length_octets_digits, hyphen]
  have hfive : (dateOctets f ++ rest).getD 5 0 = a := by
    simp [dateOctets, List.getD_eq_getElem?_getD, List.getElem?_append_right, length_octets_digits, h]
  have hweek : a ≠ letterW := ne_of_isDigit ha rfl
  simp only [dateLength, if_neg hlen, hfour, hfive, if_true, if_neg hweek]

theorem date_dateOctets {f : Fields} (hf : f.Valid) (rest : List UInt8) :
    date (dateOctets f ++ rest) 10 = some (f.year, f.month, f.day) := by
  obtain ⟨-, hy, -, hm, -, hd, -⟩ := hf
  have hd : f.day < 10 ^ 2 := by
    simp only [daysInMonth] at hd
    split at hd <;> [split at hd; split at hd] <;> omega
  obtain ⟨a, b, h, ha, -⟩ := octets_digits_two f.month
  have hweek : a ≠ letterW := ne_of_isDigit ha rfl
  have hm2 : f.month < 10 ^ 2 := by omega
  have hmonth : number 2 (a :: b :: 45 :: (octets (digits 2 f.day) ++ rest)) 0 =
      some (f.month, 45 :: (octets (digits 2 f.day) ++ rest)) := by
    rw [← number_digits_of_lt hm2, h]
    rfl
  simp only [date, dateOctets, List.append_assoc, List.cons_append, number_digits_of_lt (by omega : f.year < 10 ^ 4), h,
    List.nil_append, Option.bind_eq_bind, Option.bind_some, List.head?_cons, List.tail_cons, hyphen,
      decide_true, if_true]
  simp [hweek, hmonth, number_digits_of_lt hd]

theorem dropWhile_clockOctets (f : Fields) :
    (clockOctets f ++ utcOctets).dropWhile (fun b => b ≠ 43 && b ≠ 45 && b ≠ 90) = utcOctets := by
  have hdigits : ∀ width n b, b ∈ octets (digits width n) → (b ≠ 43 && b ≠ 45 && b ≠ 90) = true := by
    intro width n b hb
    have hd := isDigit_of_mem hb
    simp [ne_of_isDigit (c := 43) hd rfl, ne_of_isDigit (c := 45) hd rfl, ne_of_isDigit (c := 90) hd rfl]
  rw [List.dropWhile_append_of_pos]
  · rfl
  · intro b hb
    simp only [clockOctets, fractionOctets, List.mem_append, List.mem_cons] at hb
    obtain hb | rfl | hb | rfl | hb | hb := hb
    · exact hdigits _ _ _ hb
    · decide
    · exact hdigits _ _ _ hb
    · decide
    · exact hdigits _ _ _ hb
    · split at hb
      · cases hb
      · obtain rfl | hb := List.mem_cons.1 hb
        · decide
        · exact hdigits _ _ _ hb

theorem readPairs_fraction {micro : Nat} (h : micro < perSecond) {second : Nat} (hs : second < 60) (parts : List Nat) :
    readPairs 1 parts (some true) (octets (digits 2 second) ++ (fractionOctets micro ++ utcOctets)) 6 =
      some ⟨parts ++ [second], micro, true⟩ := by
  have hlt : micro < 10 ^ 6 := h
  rw [readPairs, number_digits_of_lt (by omega)]
  by_cases hz : micro = 0
  · simp [fractionOctets, hz, utcOctets, goesOn]
  · have hlen : (octets (digits 6 micro)).length = 6 := length_octets_digits 6 micro
    simp only [fractionOctets, if_neg hz, Option.bind_eq_bind, Option.bind_some, List.cons_append, List.headD_cons,
      List.length_cons, List.length_append, hlen, utcOctets, List.tail_cons]
    simp [colon, readFraction, hlen, number_digits_of_lt hlt, goesOn, isDigit]

theorem readPairs_pair {n : Nat} (hn : n < 60) {colons : Option Bool} (hc : colons.getD true) {rest : List UInt8}
    {stop : Nat} (hstop : stop < rest.length) (count : Nat) (parts : List Nat) :
    readPairs (count + 1) parts colons (octets (digits 2 n) ++ 58 :: rest) stop =
      readPairs count (parts ++ [n]) (some true) rest stop := by
  have hlen : ¬ (58 :: rest : List UInt8).length ≤ stop + 1 := by simp; omega
  rw [readPairs, number_digits_of_lt (by omega)]
  simp only [Option.bind_eq_bind, Option.bind_some, if_neg hlen, List.headD_cons, List.tail_cons, colon, decide_true,
    hc, Bool.and_self, if_true]

theorem readPairs_clockOctets {f : Fields} (hf : f.Valid) :
    readPairs 3 [] none (clockOctets f ++ utcOctets) 6 = some ⟨[f.hour, f.minute, f.second], f.micro, true⟩ := by
  obtain ⟨-, -, -, -, -, -, hh, hm, hs, hmicro⟩ := hf
  simp only [clockOctets, List.append_assoc, List.cons_append]
  rw [readPairs_pair (by omega) rfl, readPairs_pair hm rfl, readPairs_fraction hmicro hs]
  · rfl
  · simp [length_octets_digits, utcOctets]
    omega
  · simp [length_octets_digits, utcOctets]
    omega

theorem time_clockOctets {f : Fields} (hf : f.Valid) : time (clockOctets f ++ utcOctets) =
    some (⟨[f.hour, f.minute, f.second], f.micro, true⟩, some 0) := by
  have hshift : readPairs 3 [] none [48, 48, 58, 48, 48] 0 = some ⟨[0, 0], 0, false⟩ := by decide +kernel
  have hlen : utcOctets.length = 6 := rfl
  simp only [time, dropWhile_clockOctets, hlen, readPairs_clockOctets hf, Option.bind_eq_bind, Option.bind_some]
  simp [utcOctets, hshift, Reading.micros]

theorem build_valid {f : Fields} (hf : f.Valid) (hspan : f.micros < span) :
    build f.year f.month f.day ⟨[f.hour, f.minute, f.second], f.micro, true⟩ (some 0) =
      .ok (.ofInstant ⟨f.micros, hspan⟩) := by
  obtain ⟨hy, hy', hm, hm', hd, hd', hh, hmin, hs, -⟩ := hf
  have hzero : Offset.ofMicros? 0 = some .zero := rfl
  have hyear : (decide (f.year < 1) || decide (9999 < f.year)) = false := by simp; omega
  have hmonth : (decide (f.month < 1) || decide (12 < f.month)) = false := by simp; omega
  have hday : (decide (f.day < 1) || decide (daysInMonth f.year f.month < f.day)) = false := by simp; omega
  have hhour : ¬ 23 < f.hour := by omega
  have hminute : ¬ 59 < f.minute := by omega
  have hsecond : ¬ 59 < f.second := by omega
  simp only [build, hzero, hyear, hmonth, hday, List.getD_cons_zero, List.getD_cons_succ, Bool.false_eq_true, if_false,
    if_neg hhour, if_neg hminute, if_neg hsecond, pure_bind, dif_pos hspan]
  rfl

/-- **A timestamp that was written reads back.** -/
theorem toStamp_ofInstant (i : Instant) : toStamp (ofInstant i) = .ok (.ofInstant i) := by
  have hf := Fields.ofMicros_valid i.inSpan
  have hspan : (Fields.ofMicros i.micros).micros < span := by
    rw [Fields.micros_ofMicros]
    exact i.inSpan
  have hbuild := build_valid hf hspan
  have htext : (ofInstant i).toUTF8.toList = _ := octets_ofInstant i
  have hcut : (dateOctets (.ofMicros i.micros) ++ 84 :: (clockOctets (.ofMicros i.micros) ++ utcOctets)).drop 10 =
      84 :: (clockOctets (.ofMicros i.micros) ++ utcOctets) := List.drop_left' (length_dateOctets _)
  have hlen : (dateOctets (.ofMicros i.micros) ++ 84 :: (clockOctets (.ofMicros i.micros) ++ utcOctets)).length =
      11 + (clockOctets (.ofMicros i.micros) ++ utcOctets).length := by
    rw [List.length_append, length_dateOctets, List.length_cons]
    omega
  have hlong : ¬ 11 + (clockOctets (.ofMicros i.micros) ++ utcOctets).length < 7 := by omega
  have hrest : 10 < 11 + (clockOctets (.ofMicros i.micros) ++ utcOctets).length := by omega
  have hascii : (84 : UInt8) < 128 := by decide
  simp only [toStamp, htext, hlen, if_neg hlong, dateLength_dateOctets, date_dateOctets hf, if_pos hrest, hcut,
    dropSeparator, if_pos hascii, List.drop_succ_cons, List.drop_zero, time_clockOctets hf, hbuild]
  simp [Stamp.ofInstant, Fields.micros_ofMicros]

end Iso

theorem Stamp.toInstant_ofInstant (i : Instant) : (Stamp.ofInstant i).toInstant = .ok i := by
  have hmicros : (Stamp.ofInstant i).utcMicros = i.micros := by simp [utcMicros, ofInstant, Offset.zero]
  have hsome : Instant.ofMicros? (i.micros : Int) = some i := by
    simp [Instant.ofMicros?, i.inSpan]
  rw [toInstant, hmicros, hsome]

end MailboxSync
