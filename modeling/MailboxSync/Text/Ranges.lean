/-!
# Tables of ranges

A set of numbers as the sorted list of its ranges, ends included; membership is found by halving.
-/

namespace MailboxSync.Text

/-- Whether `n` lies in a range with index from `lo` to before `hi`; each unit of fuel halves the stretch. -/
def inStretch (table : Array (Nat × Nat)) (n : Nat) : (fuel lo hi : Nat) → Bool
  | 0, _, _ => false
  | fuel + 1, lo, hi =>
    if lo < hi then
      let mid := (lo + hi) / 2
      match table[mid]? with
      | none => false
      | some (a, b) =>
        if n < a then inStretch table n fuel lo mid
        else if b < n then inStretch table n fuel (mid + 1) hi
        else true
    else false

def inRanges (table : Array (Nat × Nat)) (n : Nat) : Bool := inStretch table n 32 0 table.size

end MailboxSync.Text
