import MailboxSync.Time.Iso

/-!
# The octets of a text

`octets s` are the octets of `s` in UTF-8, as a list.  Texts put together have their octets put together, and an ASCII
character has one octet, its code.
-/

namespace MailboxSync

def octets (s : String) : List UInt8 := s.toUTF8.toList

theorem toList_loop_eq (b : ByteArray) (start : Nat) (read : List UInt8) :
    ByteArray.toList.loop b start read = read.reverse ++ b.data.toList.drop start := by
  fun_induction ByteArray.toList.loop b start read with
  | case1 start read hlt ih =>
    have hget : b.get! start = b.data[start]! := by cases b; rfl
    have hnext : b.data.toList.drop start = b.get! start :: b.data.toList.drop (start + 1) := by
      rw [List.drop_eq_getElem_cons (by simpa using hlt), hget, getElem!_pos b.data start hlt]
      rfl
    rw [ih, hnext, List.reverse_cons, List.append_assoc]
    rfl
  | case2 start read hle =>
    rw [List.drop_eq_nil_of_le (by simpa using Nat.le_of_not_lt hle), List.append_nil]

theorem octets_eq (s : String) : octets s = s.toByteArray.data.toList := by
  simp [octets, ByteArray.toList, toList_loop_eq]

@[simp] theorem octets_empty : octets "" = [] := by simp [octets_eq]

@[simp] theorem octets_append (s t : String) : octets (s ++ t) = octets s ++ octets t := by
  simp [octets_eq, String.toByteArray_append]

theorem utf8EncodeChar_ascii {c : Char} (h : c.toNat < 128) : String.utf8EncodeChar c = [UInt8.ofNat c.toNat] := by
  have hs : c.utf8Size = 1 := by
    have : c.val ≤ 127 := by rw [UInt32.le_iff_toNat_le]; exact Nat.le_of_lt_succ h
    simp [Char.utf8Size, this]
  rw [String.utf8EncodeChar_eq_singleton hs]
  rfl

theorem octets_push {s : String} {c : Char} (h : c.toNat < 128) :
    octets (s.push c) = octets s ++ [UInt8.ofNat c.toNat] := by
  simp [octets_eq, String.toByteArray_push, List.utf8Encode_singleton, utf8EncodeChar_ascii h]

end MailboxSync
