import Mathlib.Data.List.TakeWhile
import MailboxSync.Http.ContentType

/-!
# What cannot be decoded

* `Codec.decode_error_iff` — with replacement, three character sets refuse octets: two of them all, the third some;
* `responseCharset_some` — what a content type comes to; the character set is one of the registry
  (`responseCharset_lookup`);
* `decodeIn_error_iff`, `decodeIn_default` — what that means for a body.
-/

namespace MailboxSync

open Charset

/-! ## Character sets -/

/-- Octets that a character set refuses in spite of replacement. -/
inductive Charset.Codec.Refuses : Codec → List UInt8 → Prop
  | undefined (bytes : List UInt8) : Refuses .undefined bytes
  | idna (bytes : List UInt8) : Refuses .idna bytes
  /-- An octet beyond ASCII with no hyphen after it. -/
  | punycode (before : List UInt8) {b : UInt8} {after : List UInt8} (hb : 128 ≤ b) (ha : 45 ∉ after) :
    Refuses .punycode (before ++ b :: after)

/-- The octets after the last hyphen are the end of all octets, as far back as there is none. -/
theorem Charset.mem_afterHyphen_iff {bytes : List UInt8} {b : UInt8} (hb : 128 ≤ b) :
    b ∈ (bytes.reverse.takeWhile (· ≠ 45)).reverse ↔
      ∃ before after, bytes = before ++ b :: after ∧ 45 ∉ after := by
  have hne : b ≠ 45 := by
    rintro rfl
    exact absurd hb (by decide)
  rw [List.mem_reverse]
  constructor
  · intro h
    obtain ⟨s, t, hst⟩ := List.append_of_mem h
    have hnone : 45 ∉ s := fun hs => by
      have hmem : (45 : UInt8) ∈ bytes.reverse.takeWhile (· ≠ 45) := hst ▸ List.mem_append_left _ hs
      simpa using List.mem_takeWhile_imp hmem
    have hsplit : bytes.reverse = s ++ b :: (t ++ bytes.reverse.dropWhile (· ≠ 45)) := by
      calc bytes.reverse = bytes.reverse.takeWhile (· ≠ 45) ++ bytes.reverse.dropWhile (· ≠ 45) :=
            List.takeWhile_append_dropWhile.symm
        _ = s ++ b :: (t ++ bytes.reverse.dropWhile (· ≠ 45)) := by rw [hst]; simp
    exact ⟨(t ++ bytes.reverse.dropWhile (· ≠ 45)).reverse, s.reverse,
      List.reverse_inj.mp (hsplit.trans (by simp)), by simpa using hnone⟩
  · rintro ⟨before, after, rfl, ha⟩
    have hall : ∀ c ∈ after.reverse, decide (c ≠ 45) = true := by
      intro c hc
      simp only [decide_eq_true_eq]
      rintro rfl
      exact ha (List.mem_reverse.mp hc)
    rw [List.reverse_append, List.reverse_cons, List.append_assoc, List.takeWhile_append_of_pos hall]
    simp [hne]

/-- **Octets cannot be decoded exactly if the character set refuses them.** -/
theorem Charset.Codec.decode_error_iff {codec : Codec} (name : String) {bytes : List UInt8} :
    (∃ problem, codec.decode name bytes = .error problem) ↔ codec.Refuses bytes := by
  constructor
  · rintro ⟨problem, h⟩
    cases codec with
    | undefined => exact .undefined bytes
    | idna => exact .idna bytes
    | punycode =>
      simp only [decode, decodePunycode] at h
      split at h
      · rename_i i hi
        obtain ⟨hlt, hhigh, -⟩ := List.findIdx?_eq_some_iff_getElem.mp hi
        have hb : 128 ≤ (bytes.reverse.takeWhile (· ≠ 45)).reverse[i] := by simpa using hhigh
        obtain ⟨before, after, hbytes, ha⟩ := (mem_afterHyphen_iff hb).mp (List.getElem_mem hlt)
        exact hbytes ▸ .punycode before hb ha
      · cases h
    | utf8Signed => simp only [decode] at h; split at h <;> cases h
    | _ => cases h
  · rintro (_ | _ | ⟨before, hb, ha⟩)
    · exact ⟨_, rfl⟩
    · exact ⟨_, rfl⟩
    · simp only [decode, decodePunycode]
      split
      · exact ⟨_, rfl⟩
      · rename_i hnone
        have hmem := (mem_afterHyphen_iff hb).mpr ⟨before, _, rfl, ha⟩
        have hlow := List.findIdx?_eq_none_iff.mp hnone _ hmem
        simp [hb] at hlow

/-! ## Content types -/

def namedCharset? (text : String) : Option String :=
  (Text.splitAt ';' (String.ofList (text.toList.filter (· ≠ ' ')))).findSome? charsetOfPart?

/-- What a content type comes to, by the name in it. -/
theorem responseCharset_some (text : String) : ∃ notes, responseCharset (some text) =
    match namedCharset? text with
    | none => .ok (defaultCharset, notes)
    | some name =>
      if '\x00' ∈ name.toList then .error .embeddedNull
      else
        match lookup name with
        | some (.charset _) => .ok (name, [])
        | _ => .ok (defaultCharset, notes) := by
  have hnone : namedCharset? "" = none := by decide +kernel
  unfold responseCharset
  split
  · rename_i heq
    cases heq
  · rename_i heq
    obtain rfl := Option.some.inj heq
    exact ⟨_, by rw [hnone]⟩
  · rename_i text' _ heq
    obtain rfl := Option.some.inj heq
    unfold namedCharset?
    dsimp only
    cases (Text.splitAt ';' (String.ofList (text.toList.filter (· ≠ ' ')))).findSome? charsetOfPart? with
    | none => exact ⟨_, rfl⟩
    | some name =>
      simp only [String.contains_char_eq, decide_eq_true_eq]
      split
      · exact ⟨[], rfl⟩
      · rcases lookup name with _ | codec | _
        · exact ⟨_, rfl⟩
        · exact ⟨[], rfl⟩
        · exact ⟨_, rfl⟩

theorem lookup_defaultCharset : lookup defaultCharset = some (.charset .utf8) := by decide +kernel

/-- The character set of a response can be found in the registry. -/
theorem responseCharset_lookup {contentType : Option String} {name : String} {notes : List Note}
    (h : responseCharset contentType = .ok (name, notes)) : ∃ codec, lookup name = some (.charset codec) := by
  cases contentType with
  | none =>
    cases h
    exact ⟨_, lookup_defaultCharset⟩
  | some text =>
    obtain ⟨notes', heq⟩ := responseCharset_some text
    rw [heq] at h
    split at h
    · cases h
      exact ⟨_, lookup_defaultCharset⟩
    · split at h
      · cases h
      · split at h
        · rename_i codec hfound
          cases h
          exact ⟨codec, hfound⟩
        · cases h
          exact ⟨_, lookup_defaultCharset⟩

theorem responseCharset_error_iff {contentType : Option String} :
    (∃ fault, responseCharset contentType = .error fault) ↔
      ∃ text name, contentType = some text ∧ namedCharset? text = some name ∧ '\x00' ∈ name.toList := by
  cases contentType with
  | none => simp [responseCharset]
  | some text =>
    obtain ⟨notes, heq⟩ := responseCharset_some text
    rw [heq]
    cases hname : namedCharset? text with
    | none => simp [hname]
    | some name =>
      by_cases hnull : '\x00' ∈ name.toList
      · simp [hnull, hname]
      · simp only [hnull, if_false]
        split <;> simp [hnull, hname]

theorem responseCharset_of_named {text name : String} {codec : Codec} (hname : namedCharset? text = some name)
    (hnull : '\x00' ∉ name.toList) (hc : lookup name = some (.charset codec)) :
    responseCharset (some text) = .ok (name, []) := by
  obtain ⟨notes, heq⟩ := responseCharset_some text
  simp only [heq, hname, hnull, if_false, hc]

/-! ## Bodies -/

theorem decodeIn_error_iff {name : String} {codec : Codec} (hc : lookup name = some (.charset codec))
    {bytes : List UInt8} : (∃ fault, decodeIn name bytes = .error fault) ↔ codec.Refuses bytes := by
  rw [← Codec.decode_error_iff name, decodeIn, hc]
  dsimp only
  cases codec.decode name bytes with
  | ok cs => simp
  | error problem => simp

theorem decodeIn_default (bytes : List UInt8) : ∃ text, decodeIn defaultCharset bytes = .ok text :=
  ⟨_, by rw [decodeIn, lookup_defaultCharset]; rfl⟩

end MailboxSync
