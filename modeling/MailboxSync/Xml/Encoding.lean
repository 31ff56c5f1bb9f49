import MailboxSync.Charset.Decode
import MailboxSync.Fault
import MailboxSync.Xml.Name

/-!
# The characters of a document

How the octets of a document become characters, and what its declaration says.

* `Family` — the first guess, made from the first octets: UTF-8 or one of the two orders of UTF-16;
* `Prolog.ofChars?` — reads the declaration `<?xml version=… encoding=… standalone=… ?>`, which may be missing;
* `Encoding.named` — the encoding a declaration names.  Six names are known here, all others are looked up among the
  character sets, of which only those with one octet for a character will do; a name that is none, or belongs to
  another kind of character set, is a fault;
* `decodeDocument` — all together.  Octets that are no characters, and characters no document may hold, give nothing.
-/

namespace MailboxSync.Xml

/-- The first guess at the encoding of a document. -/
inductive Family where
  | octets
  | units (big : Bool)
  deriving DecidableEq, Repr

/-- Guesses from the first octets; also gives the octets after a mark. -/
def Family.guess (bytes : List UInt8) : Family × List UInt8 :=
  match bytes with
  | 0xFE :: 0xFF :: r => (.units true, r)
  | 0xFF :: 0xFE :: r => (.units false, r)
  | 0xEF :: 0xBB :: 0xBF :: r => (.octets, r)
  | 0 :: _ :: _ => (.units true, bytes)
  | _ :: 0 :: _ => (.units false, bytes)
  | _ => (.octets, bytes)

/-- The number of octets of an ASCII character. -/
def Family.width : Family → Nat
  | .octets => 1
  | .units _ => 2

/-- The encodings of documents. -/
inductive Encoding where
  | utf8
  | ascii
  | latin1
  | utf16 (big : Bool)
  /-- One octet for a character; U+FFFD stands for none. -/
  | table (chars : Array Char)
  deriving DecidableEq, Repr

/-! ## Decoding -/

/-- Octets by twos, newest first; nothing if one is left over. -/
def pairUp (big : Bool) (bytes : List UInt8) : Option (List Nat) :=
  match bytes.foldl (fun (s : Option UInt8 × List Nat) b =>
      match s with
      | (none, us) => (some b, us)
      | (some a, us) => (none, Charset.unit big a b :: us)) (none, []) with
  | (none, us) => some us
  | (some _, _) => none

/-- The characters of units, newest first: a high surrogate joins whatever follows it by its low ten bits. -/
def joinUnits (us : List Nat) : Option (List Char) :=
  let step := fun (s : Option Nat × List Char) (u : Nat) =>
    match s with
    | (some high, cs) => some (none, Char.ofNat (0x10000 + (high - 0xD800) * 0x400 + u % 0x400) :: cs)
    | (none, cs) =>
      if Charset.isHighSurrogate u then some (some u, cs)
      else if Charset.isLowSurrogate u then none
      else some (none, Char.ofNat u :: cs)
  match us.foldlM step (none, []) with
  | some (none, cs) => some cs
  | _ => none

def Encoding.decode (e : Encoding) (bytes : List UInt8) : Option (List Char) :=
  match e with
  | .utf8 => (String.fromUTF8? ⟨bytes.toArray⟩).map String.toList
  | .ascii => bytes.mapM fun b => if b < 128 then some (Char.ofNat b.toNat) else none
  | .latin1 => some (bytes.map fun b => Char.ofNat b.toNat)
  | .utf16 big => ((pairUp big bytes).bind fun us => joinUnits us.reverse).map List.reverse
  | .table chars => bytes.mapM fun b => (chars[b.toNat]?).bind fun c => if c = Charset.replacement then none else some c

/-! ## The declaration -/

/-- The declaration of a document. -/
structure Prolog where
  encoding : Option String := none
  standalone : Bool := false
  deriving DecidableEq, Repr, Inhabited

def dropSpace (cs : List Char) : List Char := cs.dropWhile isSpace

/-- Reads ` name = "value"`; nothing inside the outer option at the end of the text. -/
def pseudoAttribute (cs : List Char) : Option (Option (String × String × List Char)) :=
  match cs with
  | [] => some none
  | c :: _ =>
    if !isSpace c then none
    else
      match dropSpace cs with
      | [] => some none
      | start =>
        let name := start.takeWhile fun c => c ≠ '=' && !isSpace c
        match dropSpace (start.dropWhile fun c => c ≠ '=' && !isSpace c) with
        | '=' :: r =>
          match dropSpace r with
          | mark :: r =>
            if name.isEmpty || !(name.all fun c => c.toNat < 128) || (mark ≠ '"' && mark ≠ '\'') then none
            else
              let value := r.takeWhile (· ≠ mark)
              match r.dropWhile (· ≠ mark) with
              | _ :: rest =>
                if value.all fun c => c.isAlphanum || c = '.' || c = '_' || c = '-' then
                  some (some (String.ofList name, String.ofList value, rest))
                else none
              | [] => none
          | [] => none
        | _ => none

def standalonePart (encoding : Option String) (found : Option (String × String × List Char)) : Option Prolog :=
  match found with
  | none => some { encoding }
  | some (name, value, rest) =>
    if name = "standalone" && (value = "yes" || value = "no") && (dropSpace rest).isEmpty then
      some { encoding, standalone := value = "yes" }
    else none

def Prolog.ofBody? (cs : List Char) : Option Prolog :=
  match pseudoAttribute cs with
  | some (some ("version", _, r)) =>
    match pseudoAttribute r with
    | some (some ("encoding", value, r)) =>
      if (value.toList.head?.map Char.isAlpha).getD false then
        (pseudoAttribute r).bind fun found => standalonePart (some value) found
      else none
    | some found => standalonePart none found
    | none => none
  | _ => none

/-- The text before the first `?>`, and whether there is one. -/
def untilMark : List Char → Option (List Char)
  | [] => none
  | '?' :: '>' :: _ => some []
  | c :: cs => (untilMark cs).map (c :: ·)

/-- Reads the declaration at the beginning of a text, and its length; without one there is nothing to read. -/
def Prolog.ofChars? (cs : List Char) : Option (Prolog × Nat) :=
  match cs with
  | '<' :: '?' :: 'x' :: 'm' :: 'l' :: c :: r =>
    if isSpace c then
      match untilMark (c :: r) with
      | some body => (Prolog.ofBody? body).map fun p => (p, body.length + 7)
      | none => none
    else some ({}, 0)
  | _ => some ({}, 0)

/-! ## The encoding -/

/-- The ASCII characters that mean nothing to the grammar. -/
def isIdle (n : Nat) : Bool :=
  n < 9 || n == 11 || n == 12 || (14 ≤ n && n < 32) || n == 0x24 || n == 0x40 || n == 0x5C || n == 0x5E ||
    n == 0x60 || n == 0x7B || n == 0x7D || n == 0x7E || n == 0x7F

/-- Whether a table will do: the characters of the grammar have their ASCII octets and no others, and none is beyond
the sixteen-bit range. -/
def fitsGrammar (chars : Array Char) : Bool :=
  (List.range chars.size).all fun i =>
    match chars[i]? with
    | none => true
    | some c =>
      let n := c.toNat
      (128 ≤ i || isIdle i || n == i) && (128 ≤ n || isIdle n || n == i) && n < 0x10000

/-- The encoding of a name, for a document whose declaration was read as `family`.  Nothing inside the fault if the
name does not fit the family, or its table not the grammar. -/
def Encoding.named (family : Family) (name : String) : Except Fault (Option Encoding) :=
  let lower := String.ofList (name.toList.map Char.toLower)
  let wide (big : Bool) : Option Encoding := if family = .units big then some (.utf16 big) else none
  if lower = "utf-8" then .ok (if family = .octets then some .utf8 else none)
  else if lower = "iso-8859-1" then .ok (if family = .octets then some .latin1 else none)
  else if lower = "us-ascii" then .ok (if family = .octets then some .ascii else none)
  else if lower = "utf-16" then
    .ok (match family with | .units big => some (.utf16 big) | .octets => none)
  else if lower = "utf-16be" then .ok (wide true)
  else if lower = "utf-16le" then .ok (wide false)
  else
    match Charset.lookup name with
    | none => .error (.unknownEncoding name)
    | some .conversion => .error (.conversionEncoding name)
    | some (.charset codec) =>
      match codec.table name with
      | .error fault => .error fault
      | .ok chars => .ok (if fitsGrammar chars then some (.table chars) else none)

def Family.encoding : Family → Encoding
  | .octets => .utf8
  | .units big => .utf16 big

/-- As many characters as an octet-wise reading of the declaration needs. -/
def Family.peek (family : Family) (bytes : List UInt8) : List Char :=
  match family with
  | .octets => bytes.map fun b => Char.ofNat b.toNat
  | .units big =>
    match pairUp big (bytes.take (2 * (bytes.length / 2))) with
    | some us => us.reverse.map fun u => if u < 0xD800 then Char.ofNat u else Charset.replacement
    | none => []

/-- The characters of a document after its declaration, and whether it says that it stands alone. -/
def decodeDocument (bytes : List UInt8) : Except Fault (Option (List Char × Bool)) :=
  let (family, bytes) := Family.guess bytes
  match Prolog.ofChars? (family.peek bytes) with
  | none => .ok none
  | some (prolog, length) =>
    let encoding? : Except Fault (Option Encoding) := match prolog.encoding with
      | none => .ok (some family.encoding)
      | some name => Encoding.named family name
    match encoding? with
    | .error fault => .error fault
    | .ok none => .ok none
    | .ok (some encoding) =>
      match encoding.decode (bytes.drop (length * family.width)) with
      | some cs => .ok (if cs.all isXmlChar then some (cs, prolog.standalone) else none)
      | none => .ok none

end MailboxSync.Xml
