import MailboxSync.Proofs.Markup
import Mathlib.Data.List.Nodup

/-!
# Markup read as it was written

* `Scan.Reads s cs s'` — reading characters leads from one state of the reader to another; `Reads.append` puts two
  readings together, so that every piece that is written has a lemma of its own;
* `Scan.Head` — the reader stands in a start tag, behind its name or an attribute;
* `Content.tokens` — the tokens of content as it is written;
* `Content.reads`, `Scan.reads_wrap` — what is written of content, and of an element, is read as its tokens.
-/

namespace MailboxSync.Xml

namespace Scan

/-- Reading characters leads from one state to another. -/
def Reads (s : Scan) (cs : List Char) (s' : Scan) : Prop := cs.foldlM (Scan.step .none) s = some s'

namespace Reads

variable {s s' s'' : Scan} {c : Char} {cs ds : List Char} {found : List Token}

theorem nil (s : Scan) : Reads s [] s := rfl

theorem cons (h : s.step .none c = some s') (h' : Reads s' cs s'') : Reads s (c :: cs) s'' := by
  unfold Reads at h' ⊢
  rw [List.foldlM_cons, h]
  exact h'

theorem single (h : s.step .none c = some s') : Reads s [c] s' := cons h (nil s')

theorem append (h : Reads s cs s') (h' : Reads s' ds s'') : Reads s (cs ++ ds) s'' := by
  unfold Reads at h h' ⊢
  rw [List.foldlM_append, h]
  exact h'

theorem gather (mode : List Char → Mode) (ok : Char → Bool)
    (hstep : ∀ acc c, ok c = true → step .none ⟨mode acc, found⟩ c = some ⟨mode (c :: acc), found⟩)
    (hcs : ∀ c ∈ cs, ok c = true) (acc : List Char) :
    Reads ⟨mode acc, found⟩ cs ⟨mode (cs.reverse ++ acc), found⟩ := by
  induction cs generalizing acc with
  | nil => exact nil _
  | cons c cs ih =>
    rw [List.reverse_cons, List.append_assoc]
    exact cons (hstep acc c (hcs c List.mem_cons_self)) (ih (fun x hx => hcs x (List.mem_cons_of_mem _ hx)) (c :: acc))

end Reads

variable {found : List Token} {name : RawName} {attrs : List RawAttr} {mode : Mode}

/-! ## Marks -/

theorem not_name_mark {c : Char} (hc : c ∈ [' ', '=', '>', '/']) : (isNameChar c || c = ':') = false := by
  have hall : [' ', '=', '>', '/'].all (fun c => !(isNameChar c || c = ':')) = true := by decide
  simpa using List.all_eq_true.mp hall c hc

theorem ne_of_isNameStart {c d : Char} (h : isNameStart c = true) (hd : d ∈ ['/', '!', '?', '>', ' ']) : c ≠ d := by
  have hmarks : ['/', '!', '?', '>', ' '].all (fun d => !isNameStart d) = true := by decide
  rintro rfl
  have hmark := List.all_eq_true.mp hmarks c hd
  rw [h] at hmark
  cases hmark

/-! ## Characters and values -/

theorem reads_textRef {ref : List Char} {c : Char} (n : Nat) (hr : Reference.ofChars? ref = some (.char c))
    (hs : ';' ∉ ref) :
    Reads ⟨.text n, found⟩ ('&' :: (ref ++ [';'])) ⟨.text 0, .char c :: .inside :: found⟩ := by
  have hall : ∀ x ∈ ref, decide (x ≠ ';') = true := fun x hx => decide_eq_true fun h => hs (h ▸ hx)
  refine .cons rfl (.append (.gather .textRef (· ≠ ';') ?_ hall []) (.single ?_))
  · intro acc c hc
    simp only [ne_eq, decide_eq_true_eq] at hc
    simp [step, hc, go]
  · simp [step, Declarations.contentOf, hr, emit]

theorem reads_valueRef {ref cs : List Char} {c : Char} {key : RawName}
    (hr : Reference.ofChars? ref = some (.char c)) (hs : ';' ∉ ref) :
    Reads ⟨.value name attrs key '"' cs, found⟩ ('&' :: (ref ++ [';']))
      ⟨.value name attrs key '"' (c :: cs), found⟩ := by
  have hall : ∀ x ∈ ref, decide (x ≠ ';') = true := fun x hx => decide_eq_true fun h => hs (h ▸ hx)
  refine .cons rfl (.append (.gather (.valueRef name attrs key '"' cs) (· ≠ ';') ?_ hall []) (.single ?_))
  · intro acc c hc
    simp only [ne_eq, decide_eq_true_eq] at hc
    simp [step, hc, go]
  · simp [step, Declarations.valueOf, hr, go]

theorem reads_valueChar {c : Char} {ds cs : List Char} {key : RawName} (h : Writes barredInValue c ds) :
    Reads ⟨.value name attrs key '"' cs, found⟩ ds ⟨.value name attrs key '"' (c :: cs), found⟩ := by
  cases h with
  | plain _ hb =>
    simp only [barredInValue, Bool.or_eq_false_iff, decide_eq_false_iff_not, Bool.and_eq_false_iff] at hb
    obtain ⟨⟨⟨hlt, hamp⟩, hquot⟩, hspace⟩ := hb
    have hkept : (if isSpace c then ' ' else c) = c := by
      rcases hspace with h | h
      · simp [h]
      · simp_all
    exact .single (by simp [step, go, hlt, hamp, hquot, hkept])
  | reference hr hs _ => exact reads_valueRef hr hs

theorem reads_value {e : Escapes} {legal : Char → Prop} (he : e.Faithful legal) {cs : List Char}
    (hcs : ∀ c ∈ cs, legal c) (key : RawName) (acc : List Char) :
    Reads ⟨.value name attrs key '"' acc, found⟩ (cs.flatMap e.value)
      ⟨.value name attrs key '"' (cs.reverse ++ acc), found⟩ := by
  induction cs generalizing acc with
  | nil => exact .nil _
  | cons c cs ih =>
    rw [List.flatMap_cons, List.reverse_cons, List.append_assoc]
    exact .append (reads_valueChar (he.value c (hcs c List.mem_cons_self)))
      (ih (fun x hx => hcs x (List.mem_cons_of_mem _ hx)) (c :: acc))

/-! ## Tags -/

/-- The reader stands in a start tag behind the name, or behind the latest of some attributes. -/
inductive Head (name : RawName) : List RawAttr → Mode → Prop
  | name {cs : List Char} (h : RawName.ofChars? cs.reverse = some name) : Head name [] (.startName cs)
  | value (attrs : List RawAttr) : Head name attrs (.valueEnd name attrs)

theorem Head.step_mark (h : Head name attrs mode) {c : Char} (hc : c ∈ [' ', '=', '>', '/']) :
    step .none ⟨mode, found⟩ c = afterPart .none ⟨mode, found⟩ name attrs c := by
  cases h with
  | name h => simp [step, not_name_mark hc, h]
  | value => rfl

/-- One attribute. -/
theorem reads_attr {e : Escapes} {legal : Char → Prop} (he : e.Faithful legal) (h : Head name attrs mode)
    {a : RawAttr} (ha : a.1.Plain) (hv : ∀ c ∈ a.2.toList, legal c) :
    Reads ⟨mode, found⟩ (RawName.writeAttr e a) ⟨.valueEnd name (a :: attrs), found⟩ := by
  obtain ⟨c, cs, hchars, hc, hcs, hread⟩ := ha.spelled
  have hblank : Reads ⟨mode, found⟩ [' '] ⟨.tag name attrs, found⟩ :=
    .single (by rw [h.step_mark (by simp)]; rfl)
  have hkey : Reads ⟨.tag name attrs, found⟩ (c :: cs) ⟨.attrName name attrs (cs.reverse ++ [c]), found⟩ := by
    refine .cons ?_ (.gather (.attrName name attrs) (fun c => isNameChar c || c = ':') ?_ hcs [c])
    · simp [step, hc, go]
    · intro acc x hx
      simp [step, hx, go]
  have hequals : step .none ⟨.attrName name attrs (cs.reverse ++ [c]), found⟩ '=' =
      some ⟨.quote name attrs a.1, found⟩ := by
    simp only [step, not_name_mark (by simp : '=' ∈ [' ', '=', '>', '/']), Bool.false_eq_true, if_false, hread]
    rfl
  have hquote : step .none ⟨.quote name attrs a.1, found⟩ '"' = some ⟨.value name attrs a.1 '"' [], found⟩ :=
    rfl
  have hvalue : Reads ⟨.value name attrs a.1 '"' [], found⟩ (a.2.toList.flatMap e.value)
      ⟨.value name attrs a.1 '"' (a.2.toList.reverse ++ []), found⟩ := reads_value he hv a.1 []
  have hend : step .none ⟨.value name attrs a.1 '"' (a.2.toList.reverse ++ []), found⟩ '"' =
      some ⟨.valueEnd name (a :: attrs), found⟩ := by
    simp [step, go]
  have heq : RawName.writeAttr e a = [' '] ++ ((c :: cs) ++ ('=' :: '"' :: (a.2.toList.flatMap e.value ++ ['"']))) := by
    simp [RawName.writeAttr, writeAttr, hchars]
  rw [heq]
  exact hblank.append (hkey.append (.cons hequals (.cons hquote (hvalue.append (.single hend)))))

theorem reads_attrs {e : Escapes} {legal : Char → Prop} (he : e.Faithful legal) (found : List Token)
    (h : Head name attrs mode) {as : List RawAttr} (has : ∀ a ∈ as, a.1.Plain ∧ ∀ c ∈ a.2.toList, legal c) :
    ∃ mode', Head name (as.reverse ++ attrs) mode' ∧
      Reads ⟨mode, found⟩ (as.flatMap (RawName.writeAttr e)) ⟨mode', found⟩ := by
  induction as generalizing attrs mode with
  | nil => exact ⟨mode, h, .nil _⟩
  | cons a as ih =>
    obtain ⟨hplain, hlegal⟩ := has a List.mem_cons_self
    obtain ⟨mode', h', hrest⟩ := ih (.value (a :: attrs)) fun b hb => has b (List.mem_cons_of_mem _ hb)
    refine ⟨mode', by simpa using h', ?_⟩
    rw [List.flatMap_cons]
    exact (reads_attr he h hplain hlegal).append hrest

theorem reads_start {e : Escapes} {legal : Char → Prop} (he : e.Faithful legal) (hn : name.Plain)
    {as : List RawAttr} (has : ∀ a ∈ as, a.1.Plain ∧ ∀ c ∈ a.2.toList, legal c) (n : Nat)
    (found : List Token) :
    ∃ mode', Head name as.reverse mode' ∧
      Reads ⟨.text n, found⟩ ('<' :: (name.chars ++ as.flatMap (RawName.writeAttr e))) ⟨mode', found⟩ := by
  obtain ⟨c, cs, hchars, hc, hcs, hread⟩ := hn.spelled
  have hname : Reads ⟨.opening, found⟩ name.chars ⟨.startName (cs.reverse ++ [c]), found⟩ := by
    rw [hchars]
    refine .cons ?_ (.gather .startName (fun c => isNameChar c || c = ':') ?_ hcs [c])
    · simp [step, hc, go, ne_of_isNameStart hc]
    · intro acc x hx
      simp [step, hx, go]
  obtain ⟨mode', h, hattrs⟩ := reads_attrs he found (.name hread) has
  exact ⟨mode', by simpa using h, .cons rfl (hname.append hattrs)⟩

theorem reads_stop (hn : name.Plain) (n : Nat) (found : List Token) :
    Reads ⟨.text n, found⟩ ('<' :: '/' :: (name.chars ++ ['>'])) ⟨.text 0, .stop name :: found⟩ := by
  obtain ⟨c, cs, hchars, hc, hcs, hread⟩ := hn.spelled
  have hname : Reads ⟨.endName [], found⟩ name.chars ⟨.endName (cs.reverse ++ [c]), found⟩ := by
    -- a colon is taken behind another character only, so the first one stays in every state on the way
    rw [hchars, ← List.append_nil cs.reverse]
    refine .cons ?_ (.gather (fun acc => .endName (acc ++ [c])) (fun c => isNameChar c || c = ':') ?_ hcs [])
    · simp [step, isNameChar_of_isNameStart hc, go]
    · intro acc x hx
      simp only [step]
      rw [if_pos (by simpa using hx)]
      rfl
  have hclose : step .none ⟨.endName (cs.reverse ++ [c]), found⟩ '>' = some ⟨.text 0, .stop name :: found⟩ := by
    have hmark : isNameChar '>' = false := by decide
    simp only [step, hmark, hread]
    rfl
  exact .cons rfl (.cons rfl (hname.append (.single hclose)))

/-- **An element is read as its start tag, what stands inside it, and its end tag.** -/
theorem reads_wrap {e : Escapes} {legal : Char → Prop} (he : e.Faithful legal) (hn : name.Plain) {as : List RawAttr}
    (has : ∀ a ∈ as, a.1.Plain ∧ ∀ c ∈ a.2.toList, legal c) (hd : (as.map (·.1)).Nodup) {inner : List Char}
    {tokens : List Token}
    (hinner : ∀ n found, ∃ n', Reads ⟨.text n, found⟩ inner ⟨.text n', tokens.reverse ++ found⟩) (n : Nat)
    (found : List Token) :
    Reads ⟨.text n, found⟩ (wrap name.chars (as.flatMap (RawName.writeAttr e)) inner)
      ⟨.text 0, .stop name :: (tokens.reverse ++ .start name as :: found)⟩ := by
  obtain ⟨mode', h, hstart⟩ := reads_start he hn has n found
  have hdup : (as.reverse.map (·.1)).Nodup := by rwa [List.map_reverse, List.nodup_reverse]
  have htag (empty : Bool) : endTag .none ⟨mode', found⟩ name as.reverse empty =
      some ⟨.text 0, (if empty then [.stop name] else []) ++ .start name as :: found⟩ := by
    rw [endTag, if_pos hdup]
    cases empty <;> simp [Declarations.none, emit]
  unfold wrap
  split
  · rename_i hempty
    obtain ⟨n', hnone⟩ := hinner 0 []
    have htokens : tokens = [] := by
      rw [List.isEmpty_iff.mp hempty] at hnone
      have hsame := congrArg Scan.found (Option.some.inj hnone)
      simpa using hsame.symm
    have hblank : step .none ⟨mode', found⟩ ' ' = some ⟨.tag name as.reverse, found⟩ := by
      rw [h.step_mark (by simp)]
      rfl
    have hslash : step .none ⟨.tag name as.reverse, found⟩ '/' = some ⟨.slash name as.reverse, found⟩ := by
      have hmark : isNameStart '/' = false := by decide
      simp only [step, hmark]
      rfl
    have hclose : step .none ⟨.slash name as.reverse, found⟩ '>' =
        some ⟨.text 0, .stop name :: .start name as :: found⟩ := htag true
    have hend : " />".toList = [' ', '/', '>'] := by decide
    rw [htokens, hend]
    exact hstart.append (.cons hblank (.cons hslash (.single hclose)))
  · have hclose : step .none ⟨mode', found⟩ '>' = some ⟨.text 0, .start name as :: found⟩ := by
      rw [h.step_mark (by simp)]
      exact htag false
    obtain ⟨n', hread⟩ := hinner 0 (.start name as :: found)
    have hstop := reads_stop hn n' (tokens.reverse ++ .start name as :: found)
    simpa [List.append_assoc] using hstart.append (.cons hclose (hread.append hstop))

end Scan

/-! ## Content -/

def Escapes.tokens (e : Escapes) (c : Char) : List Token := if e.text c = [c] then [.char c] else [.inside, .char c]

def Content.tokens (e : Escapes) (ps : Prefixes) : Content → List Token
  | .done => []
  | .char c rest => e.tokens c ++ rest.tokens e ps
  | .element name attrs inner rest =>
    .start (ps.raw name) (attrs.map ps.rawAttr) :: (inner.tokens e ps ++ .stop (ps.raw name) :: rest.tokens e ps)

section Content

variable {e : Escapes} {ps : Prefixes} {legal : Char → Prop} {scope : Scope}

theorem Escapes.Faithful.reads_char (he : e.Faithful legal) {c : Char} (hc : legal c) (n : Nat) (found : List Token) :
    ∃ n', Scan.Reads ⟨.text n, found⟩ (e.text c) ⟨.text n', (e.tokens c).reverse ++ found⟩ := by
  have h := he.text c hc
  unfold Escapes.tokens
  generalize e.text c = cs at h
  cases h with
  | plain _ hb =>
    simp only [barredInText, Bool.or_eq_false_iff, decide_eq_false_iff_not] at hb
    obtain ⟨⟨hlt, hamp⟩, hgt⟩ := hb
    rw [if_pos rfl]
    by_cases hbracket : c = ']'
    · exact ⟨min (n + 1) 2, .single (by simp [Scan.step, hbracket, Scan.emit])⟩
    · exact ⟨0, .single (by simp [Scan.step, hlt, hamp, hgt, hbracket, Scan.emit])⟩
  | reference hr hs _ =>
    rw [if_neg (by simp)]
    exact ⟨0, Scan.reads_textRef n hr hs⟩

theorem Attrs.Writable.raw (hps : ps.Binds legal scope) {attrs : List Attr} (ha : Attrs.Writable ps legal attrs) :
    (∀ a ∈ attrs.map ps.rawAttr, a.1.Plain ∧ ∀ c ∈ a.2.toList, legal c) ∧
      ((attrs.map ps.rawAttr).map (·.1)).Nodup := by
  constructor
  · intro a h
    obtain ⟨b, hb, rfl⟩ := List.mem_map.mp h
    exact ⟨hps.plain_raw (ha.name b hb), ha.legal b hb⟩
  · have hmap : (attrs.map ps.rawAttr).map (·.1) = (attrs.map (·.1)).map ps.raw := by simp [Prefixes.rawAttr]
    rw [hmap]
    refine List.Nodup.map_on (fun n hn n' hn' h => ?_) ha.nodup
    obtain ⟨a, ha', rfl⟩ := List.mem_map.mp hn
    obtain ⟨b, hb', rfl⟩ := List.mem_map.mp hn'
    exact hps.raw_inj (ha.name a ha') (ha.name b hb') h

/-- **What is written of content is read as its tokens.** -/
theorem Content.reads (hps : ps.Binds legal scope) (he : e.Faithful legal) {k : Content} (hk : k.Writable ps legal)
    (n : Nat) (found : List Token) :
    ∃ n', Scan.Reads ⟨.text n, found⟩ (k.write e ps) ⟨.text n', (k.tokens e ps).reverse ++ found⟩ := by
  induction k generalizing n found with
  | done => exact ⟨n, .nil _⟩
  | char c rest ih =>
    obtain ⟨n₁, hc⟩ := he.reads_char hk.1 n found
    obtain ⟨n₂, hrest⟩ := ih hk.2 n₁ ((e.tokens c).reverse ++ found)
    exact ⟨n₂, by simpa [Content.tokens, Content.write] using hc.append hrest⟩
  | element name attrs inner rest ihi ihr =>
    obtain ⟨hname, hattrs, hinner, hrest⟩ := hk
    obtain ⟨hplain, hnodup⟩ := hattrs.raw hps
    have helement := Scan.reads_wrap he (hps.plain_raw hname) hplain hnodup (ihi hinner) n found
    obtain ⟨n', hread⟩ := ihr hrest 0
      (.stop (ps.raw name) :: ((inner.tokens e ps).reverse ++ .start (ps.raw name) (attrs.map ps.rawAttr) :: found))
    refine ⟨n', ?_⟩
    rw [Content.write, hps.write_eq hname, hps.writeAttrs_eq e hattrs.name]
    simpa [Content.tokens] using helement.append hread

end Content

end MailboxSync.Xml
