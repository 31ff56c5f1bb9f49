/-!
# Tables

A finite map as the list of its entries, each key once, in the order the keys came in.  `Table.get?` is the view
everything else is described by.
-/

namespace MailboxSync

/-- Entries by key. -/
structure Table (α β : Type) where
  entries : List (α × β) := []
  deriving Repr, DecidableEq, Inhabited

namespace Table

variable {α β : Type} [DecidableEq α]

def empty : Table α β := {}

def size (t : Table α β) : Nat := t.entries.length

def find (k : α) : List (α × β) → Option β
  | [] => none
  | (k', v) :: es => if k' = k then some v else find k es

def get? (t : Table α β) (k : α) : Option β := find k t.entries

def putIn (k : α) (v : β) : List (α × β) → List (α × β)
  | [] => [(k, v)]
  | (k', v') :: es => if k' = k then (k, v) :: es else (k', v') :: putIn k v es

def put (t : Table α β) (k : α) (v : β) : Table α β := ⟨putIn k v t.entries⟩

def eraseIf (t : Table α β) (p : α → Bool) : Table α β := ⟨t.entries.filter fun e => !p e.1⟩

def countIf (t : Table α β) (p : α → Bool) : Nat := t.entries.countP fun e => p e.1

@[simp] theorem get?_empty (k : α) : (empty : Table α β).get? k = none := rfl

theorem find_putIn (k k' : α) (v : β) (es : List (α × β)) :
    find k' (putIn k v es) = if k' = k then some v else find k' es := by
  induction es with
  | nil => simp only [putIn, find, eq_comm]
  | cons e es ih => grind [putIn, find]

theorem get?_put (t : Table α β) (k k' : α) (v : β) :
    (t.put k v).get? k' = if k' = k then some v else t.get? k' := find_putIn k k' v t.entries

theorem find_filter (p : α → Bool) (k : α) (es : List (α × β)) :
    find k (es.filter fun e => !p e.1) = if p k then none else find k es := by
  induction es with
  | nil => simp [find]
  | cons e es ih => grind [find]

theorem get?_eraseIf (t : Table α β) (p : α → Bool) (k : α) :
    (t.eraseIf p).get? k = if p k then none else t.get? k := find_filter p k t.entries

end Table

end MailboxSync
