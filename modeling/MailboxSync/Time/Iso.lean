import MailboxSync.Time.Stamp

/-!
# Timestamps as text

Writing: `YYYY-MM-DDTHH:MM:SS`, then `.ffffff` unless the microseconds are zero, then the offset, if there is one, as
`±HH:MM` with `:SS` and `.ffffff` where they are not zero.

Reading is wider.  The date is `YYYY-MM-DD`, `YYYYMMDD`, `YYYY-Www`, `YYYY-Www-D`, `YYYYWww` or `YYYYWwwD`; any one
character separates it from the time; the time is pairs of digits, with or without colons, then a fraction after a
point or comma of which six digits count; the offset is `Z` or a sign and another such time.  The time is found by its
distance from the ends, not by its separators, which is why texts such as `…T12:00:+01:00` are accepted.
-/

namespace MailboxSync.Iso

open Calendar

/-! ## Writing -/

/-- The last `width` decimal digits of `n`. -/
def digits : (width n : Nat) → String
  | 0, _ => ""
  | width + 1, n => (digits width (n / 10)).push (Char.ofNat (48 + n % 10))

def fraction (micro : Nat) : String := if micro = 0 then "" else "." ++ digits 6 micro

def wall (n : Nat) : String :=
  let f := Fields.ofMicros n
  digits 4 f.year ++ "-" ++ digits 2 f.month ++ "-" ++ digits 2 f.day ++ "T" ++ digits 2 f.hour ++ ":" ++
    digits 2 f.minute ++ ":" ++ digits 2 f.second ++ fraction f.micro

def offset (o : Offset) : String :=
  let n := o.micros.natAbs
  let seconds := n % perMinute / perSecond
  let micro := n % perSecond
  (if o.micros < 0 then "-" else "+") ++ digits 2 (n / perHour) ++ ":" ++ digits 2 (n % perHour / perMinute) ++
    (if seconds = 0 && micro = 0 then "" else ":" ++ digits 2 seconds ++ fraction micro)

def ofStamp (s : Stamp) : String :=
  wall s.wall ++ (match s.offset with | none => "" | some o => offset o)

def ofInstant (i : Instant) : String := ofStamp (.ofInstant i)

/-! ## Reading

Texts are read as octets; a list that has run out stands for the end of the text. -/

/-- Octets of the characters with a meaning. -/
def hyphen : UInt8 := 45
def letterW : UInt8 := 87
def colon : UInt8 := 58

def isDigit (b : UInt8) : Bool := 48 ≤ b && b ≤ 57

def number : (count : Nat) → List UInt8 → (acc : Nat) → Option (Nat × List UInt8)
  | 0, bs, acc => some (acc, bs)
  | count + 1, b :: bs, acc => if isDigit b then number count bs (acc * 10 + (b.toNat - 48)) else none
  | _ + 1, [], _ => none

def dateLength (bs : List UInt8) : Nat :=
  let len := bs.length
  let at' (i : Nat) : UInt8 := bs.getD i 0
  if len = 7 then 7
  else if at' 4 = hyphen then
    if at' 5 = letterW then
      if len > 8 && at' 8 = hyphen then
        if len > 10 && isDigit (at' 10) then 8 else 10
      else 8
    else 10
  else if at' 4 = letterW then
    let pos := 7 + ((bs.drop 7).takeWhile isDigit).length
    if pos < 9 then pos else if pos % 2 = 0 then 7 else 8
  else 8

/-- The date of a day of an ISO week, if the week exists.  The year 0 has 52 weeks but none of its days has a month. -/
def weekDate (year week day : Nat) : Option (Nat × Nat × Nat) :=
  if year = 0 then (if 1 ≤ week ∧ week ≤ 52 ∧ 1 ≤ day ∧ day ≤ 7 then some (1, 0, 1) else none) else
  let first := yearStart year
  let shift := weekday first
  let weeks := if shift = 3 || (shift = 2 && isLeap year) then 53 else 52
  if week = 0 || weeks < week || day = 0 || 7 < day then none else
  let monday : Int := if shift ≤ 3 then (first : Int) - shift else (first : Int) - shift + 7
  let n := monday + ((week - 1) * 7 + (day - 1) : Nat)
  if n < 0 then none else some (ofDayNumber n.toNat)

def date (bs : List UInt8) (len : Nat) : Option (Nat × Nat × Nat) := do
  let (year, r) ← number 4 bs 0
  let dashed := r.head? = some hyphen
  let r := if dashed then r.tail else r
  if r.head? = some letterW then
    let (week, r) ← number 2 r.tail 0
    if bs.length - r.length < len then
      if dashed && r.head? ≠ some hyphen then none
      else
        let r := if dashed then r.tail else r
        let (day, _) ← number 1 r 0
        weekDate year week day
    else weekDate year week 1
  else
    let (month, r) ← number 2 r 0
    if dashed && r.head? ≠ some hyphen then none
    else
      let (day, _) ← number 2 (if dashed then r.tail else r) 0
      some (year, month, day)

/-- Whether there is something left to read; what follows a NUL does not count. -/
def goesOn (bs : List UInt8) : Bool := bs.headD 0 != 0

/-- How a time of day was read: its parts, and whether something was left over. -/
structure Reading where
  parts : List Nat
  micro : Nat
  leftover : Bool
  deriving DecidableEq, Repr, Inhabited

/-- Reads the fraction that starts at `bs` and ends where `stop` octets remain. -/
def readFraction (parts : List Nat) (bs : List UInt8) (stop : Nat) : Option Reading := do
  let width := min 6 (bs.length - stop)
  let (value, r) ← number width bs 0
  let r := r.dropWhile isDigit
  some ⟨parts, value * Nat.pow 10 (6 - width), goesOn r⟩

/-- Reads up to `count` more pairs of digits, ending where `stop` octets remain; `colons` is decided after the first
pair. -/
def readPairs : (count : Nat) → (parts : List Nat) → (colons : Option Bool) → List UInt8 → (stop : Nat) →
    Option Reading
  | 0, parts, _, bs, stop => readFraction parts bs stop
  | count + 1, parts, colons, bs, stop => do
    let (value, r) ← number 2 bs 0
    let parts := parts ++ [value]
    let c : UInt8 := r.headD 0
    let colons := colons.getD (c = colon)
    let rest := r.tail
    if r.length ≤ stop + 1 then some ⟨parts, 0, goesOn r⟩
    else if colons && c = colon then readPairs count parts (some colons) rest stop
    else if c = 46 || c = 44 then readFraction parts rest stop
    else if !colons then readPairs count parts (some colons) r stop
    else none

/-- The microseconds of a time of day or an offset. -/
def Reading.micros (r : Reading) : Nat :=
  r.parts.getD 0 0 * perHour + r.parts.getD 1 0 * perMinute + r.parts.getD 2 0 * perSecond + r.micro

/-- Reads a time and its offset in microseconds, which is not bounded here. -/
def time (bs : List UInt8) : Option (Reading × Option Int) := do
  let zone := bs.dropWhile fun b => b ≠ 43 && b ≠ 45 && b ≠ 90
  let reading ← readPairs 3 [] none bs zone.length
  match zone with
  | [] => if reading.leftover then none else some (reading, none)
  | 90 :: rest => if goesOn rest then none else some (reading, some 0)
  | sign :: rest =>
    let shift ← readPairs 3 [] none rest 0
    if shift.leftover then none
    else
      let whole := shift.micros / perSecond
      let n : Int := if whole = 0 then 0 else shift.micros
      some (reading, some (if sign = 45 then -n else n))

/-- The text of a duration in an error message: days, then seconds, then microseconds of the day. -/
def durationText (n : Int) : String :=
  let days := n.fdiv perDay
  let rest := (n.fmod perDay).toNat
  let seconds := rest / perSecond
  let micro := rest % perSecond
  let named := (if days = 0 then [] else [s!"days={days}"]) ++ (if seconds = 0 then [] else [s!"seconds={seconds}"]) ++
    (if micro = 0 then [] else [s!"microseconds={micro}"])
  "datetime.timedelta(" ++ (if named.isEmpty then "0" else ", ".intercalate named) ++ ")."

def build (year month day : Nat) (reading : Reading) (shift : Option Int) : Except TimestampProblem Stamp := do
  let offset ← match shift with
    | none => pure none
    | some n => match Offset.ofMicros? n with
      | some o => pure (some o)
      | none => throw (.offsetTooLarge (durationText n))
  let hour := reading.parts.getD 0 0
  let minute := reading.parts.getD 1 0
  let second := reading.parts.getD 2 0
  if year < 1 || 9999 < year then throw (.yearOutOfRange year)
  if month < 1 || 12 < month then throw .monthOutOfRange
  if day < 1 || daysInMonth year month < day then throw .dayOutOfRange
  if 23 < hour then throw .hourOutOfRange
  if 59 < minute then throw .minuteOutOfRange
  if 59 < second then throw .secondOutOfRange
  let n := Fields.micros ⟨year, month, day, hour, minute, second, reading.micro⟩
  if h : n < span then pure ⟨n, h, offset⟩ else throw (.yearOutOfRange year)

/-- Drops the one character that separates date and time, by the length its first octet announces. -/
def dropSeparator (bs : List UInt8) : List UInt8 :=
  match bs with
  | [] => []
  | b :: _ =>
    if b < 128 then bs.drop 1
    else if b &&& 240 = 224 then bs.drop 3
    else if b &&& 240 = 240 then bs.drop 4
    else bs.drop 2

def toStamp (text : String) : Except TimestampProblem Stamp :=
  let bs := text.toUTF8.toList
  let len := bs.length
  if len < 7 then throw (.malformed text)
  else
    let cut := dateLength bs
    match date bs cut with
    | none => throw (.malformed text)
    | some (year, month, day) =>
      if cut < len then
        match time (dropSeparator (bs.drop cut)) with
        | none => throw (.malformed text)
        | some (reading, shift) => build year month day reading shift
      else build year month day ⟨[], 0, false⟩ none

end MailboxSync.Iso
