import MailboxSync.Proofs.Admission
import MailboxSync.Xml.Doctype

/-!
# What a document type declares

A document type is read from characters that may stand in a document, and so may all that its entities stand for and
all its defaults.

* `Doctype.Admitted` — a document type that declares such texts only; then its declarations give no others, however
  deep its entities refer to one another (`Doctype.Admitted.declarations`);
* `Doctype.admitted_of_lexeme` — one word; every part of a declaration leaves words that were there (`Worded`);
* `Doctype.admitted_of_read` — **a document type, and the text behind it.**
-/

namespace MailboxSync.Xml

namespace Doctype

/-- A document type whose entities stand for admitted characters, and whose attributes default to such. -/
structure Admitted (d : Doctype) : Prop where
  entity : ∀ name cs, (name, Entity.text cs) ∈ d.entities → Xml.Admitted cs
  fallback : ∀ rule ∈ d.rules, ∀ cs ∈ rule.fallback, Xml.Admitted cs

variable {d d' : Doctype} {cs : List Char}

theorem Admitted.of_entity? (hd : d.Admitted) {name : String} (h : d.entity? name = some (.text cs)) :
    Xml.Admitted cs := by
  obtain ⟨before, after, heq, -⟩ := List.lookup_eq_some_iff.mp h
  exact hd.entity name cs (heq ▸ List.mem_append_right _ List.mem_cons_self)

theorem Admitted.collapse (h : Xml.Admitted cs) : Xml.Admitted (Doctype.collapse cs) := by
  have hkept : Xml.Admitted (cs.foldl
      (fun acc c => if c = ' ' && (acc.isEmpty || acc.head? = some ' ') then acc else c :: acc) []) := by
    refine List.foldlRecOn cs _ admitted_nil fun acc hacc c hc => ?_
    split
    · exact hacc
    · exact admitted_cons.mpr ⟨h c hc, hacc⟩
  unfold Doctype.collapse
  rw [admitted_reverse]
  split
  · exact hkept.subset fun _ => List.mem_of_mem_tail
  · exact hkept

/-- **Completing attributes keeps them admitted.** -/
theorem Admitted.complete (hd : d.Admitted) (element : RawName) {attrs : List RawAttr} (ha : AttrsAdmitted attrs) :
    AttrsAdmitted (d.complete element attrs) := by
  unfold Doctype.complete
  refine List.foldlRecOn d.rules _ (fun a h => ?_) fun acc hacc rule hrule => ?_
  · obtain ⟨⟨attr, value⟩, hmem, rfl⟩ := List.mem_map.mp h
    have hvalue : Xml.Admitted value.toList := ha _ hmem
    dsimp only
    split
    · simpa using Admitted.collapse hvalue
    · exact hvalue
  · split
    · split
      · rename_i value hfallback
        intro a h
        rcases List.mem_append.mp h with h | h
        · exact hacc a h
        · rw [List.mem_singleton.mp h]
          simpa using hd.fallback rule hrule value hfallback
      · exact hacc
    · exact hacc

/-! ## Replacing entities -/

/-- The text of an entity in an attribute value. -/
theorem admitted_of_valueText {ds : Declarations} (hds : ds.Admitted) (hcs : Xml.Admitted cs) {value : List Char}
    (h : valueText ds cs = some value) : Xml.Admitted value := by
  have hstep : ∀ s s', ∀ c ∈ cs, Xml.Admitted s.2 → valueStep ds s c = some s' → Xml.Admitted s'.2 := by
    rintro ⟨ref, acc⟩ s' c hc hacc hstep
    have hspace : isXmlChar (if isSpace c then ' ' else c) = true := by
      split
      · decide
      · exact hcs c hc
    cases ref with
    | some ref =>
      simp only [valueStep] at hstep
      split_ifs at hstep
      · obtain ⟨more, hmore, rfl⟩ := Option.map_eq_some_iff.mp hstep
        simpa using ⟨hds.valueOf hmore, hacc⟩
      · exact Option.some.inj hstep ▸ hacc
    | none =>
      unfold valueStep at hstep
      dsimp only at hstep
      split at hstep
      · cases hstep
      · split at hstep
        · exact Option.some.inj hstep ▸ hacc
        · exact Option.some.inj hstep ▸ admitted_cons.mpr ⟨hspace, hacc⟩
  unfold valueText at h
  split at h
  · rename_i acc hfold
    cases h
    exact admitted_reverse.mpr (foldlM_induction (P := fun s => Xml.Admitted s.2) hstep admitted_nil hfold)
  · cases h

/-- **What an admitted document type gives is admitted**, however deep its entities refer to one another. -/
theorem Admitted.declarations (hd : d.Admitted) (depth : Nat) (busy : List String) :
    (d.declarations depth busy).Admitted := by
  induction depth generalizing busy with
  | zero =>
    exact ⟨fun _ _ h => (Option.some_ne_none _ h.symm).elim, fun _ _ h => (Option.some_ne_none _ h.symm).elim,
      fun _ _ => hd.complete _⟩
  | succ depth ih =>
    refine ⟨fun name tokens h => ?_, fun name cs h => ?_, fun _ _ => hd.complete _⟩
    · simp only [Doctype.declarations] at h
      split at h
      · cases h
      · split at h
        · rename_i hentity
          split at h
          · rename_i htokens
            split_ifs at h
            cases h
            exact Token.admitted_of_ofChars (ih _) (hd.of_entity? hentity) htokens
          · cases h
        · cases h
    · simp only [Doctype.declarations] at h
      split at h
      · cases h
      · split at h
        · rename_i hentity
          exact admitted_of_valueText (ih _) (hd.of_entity? hentity) h
        · cases h
        · split_ifs at h
          cases h
          exact admitted_nil

theorem Admitted.toDeclarations (hd : d.Admitted) : d.toDeclarations.Admitted := hd.declarations _ _

/-! ## Words -/

def Lexeme.Admitted : Lexeme → Prop
  | .quoted cs => Xml.Admitted cs
  | _ => True

theorem admitted_of_cutAt {mark before after : List Char} (hcs : Xml.Admitted cs)
    (h : cutAt mark cs = some (before, after)) : Xml.Admitted before ∧ Xml.Admitted after := by
  induction cs generalizing before with
  | nil => cases h
  | cons c cs ih =>
    unfold cutAt at h
    split at h
    · cases h
      exact ⟨admitted_nil, hcs.subset (List.drop_subset _ _)⟩
    · obtain ⟨⟨before', after'⟩, hcut, heq⟩ := Option.map_eq_some_iff.mp h
      cases heq
      have hrest := ih hcs.tail hcut
      exact ⟨admitted_cons.mpr ⟨(admitted_cons.mp hcs).1, hrest.1⟩, hrest.2⟩

theorem Admitted.quantityOf (hcs : Xml.Admitted cs) : Xml.Admitted (Doctype.quantityOf cs).2 := by
  unfold Doctype.quantityOf
  split
  all_goals first | exact hcs.tail | exact hcs

theorem Admitted.dropWhile (hcs : Xml.Admitted cs) (p : Char → Bool) : Xml.Admitted (cs.dropWhile p) :=
  hcs.subset (List.dropWhile_sublist p).subset

theorem admitted_of_wordLexeme {w : Lexeme} {rest : List Char} (hcs : Xml.Admitted cs)
    (h : wordLexeme cs = some (w, rest)) : w.Admitted ∧ Xml.Admitted rest := by
  have hrest := Admitted.dropWhile hcs fun c => isNameChar c || c = ':'
  unfold wordLexeme at h
  dsimp only at h
  split at h
  · cases h
  · split at h
    · split at h
      · cases h
        exact ⟨trivial, Admitted.quantityOf hrest⟩
      · split at h
        · cases h
          exact ⟨trivial, hrest⟩
        · cases h
    · split at h
      · cases h
        exact ⟨trivial, hrest⟩
      · cases h

/-- **One word.** -/
theorem admitted_of_lexeme {w : Lexeme} {rest : List Char} (hcs : Xml.Admitted cs)
    (h : lexeme cs = some (w, rest)) : w.Admitted ∧ Xml.Admitted rest := by
  unfold lexeme at h
  split at h
  case h_1 =>
    obtain ⟨⟨body, after⟩, hcut, heq⟩ := Option.bind_eq_some_iff.mp h
    obtain ⟨-, heq⟩ := Option.ite_none_right_eq_some.mp heq
    cases heq
    exact ⟨trivial, (admitted_of_cutAt hcs.tail.tail.tail.tail hcut).2⟩
  case h_2 =>
    obtain ⟨-, heq⟩ := Option.ite_none_right_eq_some.mp h
    cases heq
    exact ⟨trivial, Admitted.dropWhile hcs.tail.tail _⟩
  case h_3 =>
    obtain ⟨⟨body, after⟩, hcut, heq⟩ := Option.bind_eq_some_iff.mp h
    obtain ⟨-, heq⟩ := Option.ite_none_right_eq_some.mp heq
    cases heq
    exact ⟨trivial, (admitted_of_cutAt hcs.tail.tail hcut).2⟩
  case h_9 =>
    dsimp only at h
    split_ifs at h
    · cases h
      exact ⟨trivial, Admitted.quantityOf hcs.tail⟩
    · cases h
      exact ⟨trivial, hcs.tail⟩
  case h_12 =>
    split at h
    · cases h
      exact ⟨trivial, hcs.tail⟩
    · split at h
      · rename_i heq
        have hdrop := Admitted.dropWhile hcs.tail isNameChar
        rw [heq] at hdrop
        obtain ⟨-, heq⟩ := Option.ite_none_right_eq_some.mp h
        cases heq
        exact ⟨trivial, hdrop.tail⟩
      · cases h
  case h_13 =>
    obtain ⟨-, heq⟩ := Option.ite_none_right_eq_some.mp h
    cases heq
    exact ⟨trivial, Admitted.dropWhile hcs.tail _⟩
  -- quoted words
  case h_14 | h_15 =>
    obtain ⟨⟨body, after⟩, hcut, heq⟩ := Option.bind_eq_some_iff.mp h
    obtain ⟨-, heq⟩ := Option.ite_none_right_eq_some.mp heq
    cases heq
    exact admitted_of_cutAt hcs.tail hcut
  case h_6 => cases h
  case h_16 => exact admitted_of_wordLexeme hcs h
  -- single marks
  all_goals
    cases h
    exact ⟨trivial, hcs.tail⟩

def Worded (ws : List Lexeme) : Prop := ∀ w ∈ ws, w.Admitted

@[simp] theorem worded_cons {w : Lexeme} {ws : List Lexeme} : Worded (w :: ws) ↔ w.Admitted ∧ Worded ws :=
  List.forall_mem_cons

theorem Worded.tail {w : Lexeme} {ws : List Lexeme} (h : Worded (w :: ws)) : Worded ws := (worded_cons.mp h).2

/-- **All words.** -/
theorem admitted_of_lexemes {fuel depth : Nat} {acc ws : List Lexeme} {rest : List Char} (hcs : Xml.Admitted cs)
    (hacc : Worded acc) (h : lexemes fuel depth acc cs = some (ws, rest)) : Worded ws ∧ Xml.Admitted rest := by
  induction fuel generalizing depth acc cs with
  | zero => cases h
  | succ fuel ih =>
    unfold lexemes at h
    split at h
    · cases h
    · rename_i word after hword
      obtain ⟨hw, hafter⟩ := admitted_of_lexeme (Admitted.dropWhile hcs _) hword
      have hacc' : Worded (word :: acc) := worded_cons.mpr ⟨hw, hacc⟩
      split at h
      · split_ifs at h
        · cases h
          exact ⟨fun w hw => hacc w (List.mem_reverse.mp hw), hafter⟩
        · exact ih hafter hacc' h
      · exact ih hafter hacc' h
      · exact ih hafter hacc' h
      · split_ifs at h
        exact ih hafter hacc' h
      · exact ih hafter hacc' h

/-! ## Declarations -/

/-- The text of an entity: references to characters give none that may not stand in a document. -/
theorem admitted_of_entityText {text : List Char} (hcs : Xml.Admitted cs) (h : entityText cs = some text) :
    Xml.Admitted text := by
  unfold entityText at h
  dsimp only at h
  split at h
  · rename_i acc hfold
    cases h
    -- kept are the text so far and the reference under way
    refine admitted_reverse.mpr (foldlM_induction
      (P := fun s => Xml.Admitted s.2 ∧ ∀ ref ∈ s.1, Xml.Admitted ref) ?_ ⟨admitted_nil, by simp⟩ hfold).1
    rintro ⟨ref, acc⟩ s' c hc ⟨hacc, href⟩ hstep
    have hchar := hcs c hc
    cases ref with
    | none =>
      dsimp only at hstep
      split_ifs at hstep
      · cases hstep
        exact ⟨hacc, by simp⟩
      · cases hstep
        exact ⟨admitted_cons.mpr ⟨hchar, hacc⟩, by simp⟩
    | some ref =>
      have href : Xml.Admitted ref := href ref rfl
      dsimp only at hstep
      split at hstep
      · split at hstep
        · split at hstep
          · rename_i hreference
            cases hstep
            exact ⟨admitted_cons.mpr ⟨isXmlChar_of_reference hreference, hacc⟩, by simp⟩
          · cases hstep
        · obtain ⟨-, heq⟩ := Option.ite_none_right_eq_some.mp hstep
          cases heq
          have hmarks : Xml.Admitted [';', '&'] := by decide
          simp_all
      · cases hstep
        exact ⟨hacc, by simpa using ⟨hchar, href⟩⟩
  · cases h

theorem Admitted.addEntity (hd : d.Admitted) {name : String} {e : Entity}
    (he : ∀ cs, e = .text cs → Xml.Admitted cs) : (d.addEntity name e).Admitted := by
  unfold Doctype.addEntity
  split
  · refine ⟨fun n cs h => ?_, hd.fallback⟩
    rcases List.mem_append.mp h with h | h
    · exact hd.entity n cs h
    · exact he cs (Prod.mk.inj (List.mem_singleton.mp h)).2.symm
  · exact hd

theorem Worded.of_external {lone : Bool} {ws ws' : List Lexeme} (hws : Worded ws)
    (h : external lone ws = some ws') : Worded ws' := by
  unfold external at h
  split at h
  · cases h
    exact hws.tail.tail
  · split_ifs at h
    cases h
    exact hws.tail.tail.tail
  · split_ifs at h
    cases h
    exact hws.tail.tail
  · cases h

theorem Admitted.of_entityDecl {ws ws' : List Lexeme} (hd : d.Admitted) (hws : Worded ws)
    (h : entityDecl d ws = some (d', ws')) : d'.Admitted ∧ Worded ws' := by
  have helsewhere : ∀ name, (d.addEntity name .elsewhere).Admitted := fun name => hd.addEntity fun _ h => by cases h
  unfold entityDecl at h
  split at h
  · split_ifs at h
    cases h
    exact ⟨hd, hws.tail.tail.tail.tail⟩
  · split at h
    · rename_i hexternal
      cases h
      exact ⟨hd, (hws.tail.tail.of_external hexternal).tail⟩
    · cases h
  · have hquoted := (worded_cons.mp hws.tail).1
    split_ifs at h
    · obtain ⟨cs, hcs, heq⟩ := Option.map_eq_some_iff.mp h
      cases heq
      refine ⟨hd.addEntity fun cs' heq => ?_, hws.tail.tail.tail⟩
      cases heq
      exact admitted_of_entityText hquoted hcs
    · cases h
      exact ⟨hd, hws.tail.tail.tail⟩
  · split at h
    · rename_i hexternal
      cases h
      exact ⟨helsewhere _, (hws.tail.of_external hexternal).tail⟩
    · rename_i hexternal
      cases h
      exact ⟨helsewhere _, (hws.tail.of_external hexternal).tail.tail.tail⟩
    · cases h
  · cases h

theorem Worded.of_alternatives {plain : Lexeme → Bool} {ws ws' : List Lexeme} (hws : Worded ws)
    (h : alternatives plain ws = some ws') : Worded ws' := by
  fun_induction alternatives plain ws with
  | case1 word r hplain ih => exact ih hws.tail.tail h
  | case2 => cases h
  | case3 word r hplain =>
    cases h
    exact hws.tail.tail
  | case4 => cases h
  | case5 => cases h

theorem Worded.of_attrType {ws ws' : List Lexeme} {tokenized : Bool} (hws : Worded ws)
    (h : attrType ws = some (tokenized, ws')) : Worded ws' := by
  unfold attrType at h
  split at h
  · obtain ⟨r, hr, heq⟩ := Option.map_eq_some_iff.mp h
    cases heq
    exact hws.tail.tail.of_alternatives hr
  · obtain ⟨r, hr, heq⟩ := Option.map_eq_some_iff.mp h
    cases heq
    exact hws.tail.of_alternatives hr
  · cases h
    exact hws.tail
  · split_ifs at h
    cases h
    exact hws.tail
  · cases h

theorem Admitted.of_addRule {element attr : RawName} {tokenized : Bool} {text : Option (List Char)} (hd : d.Admitted)
    (htext : ∀ cs ∈ text, Xml.Admitted cs) (h : d.addRule element attr tokenized text = some d') : d'.Admitted := by
  have hadd {rule : AttrRule} (hrule : ∀ cs ∈ rule.fallback, Xml.Admitted cs) :
      Admitted { d with rules := d.rules ++ [rule] } := by
    refine ⟨hd.entity, fun r hr => ?_⟩
    rcases List.mem_append.mp hr with hr | hr
    · exact hd.fallback r hr
    · exact List.mem_singleton.mp hr ▸ hrule
  unfold addRule at h
  split at h
  · exact Option.some.inj h ▸ hd
  · split at h
    · exact Option.some.inj h ▸ hadd (by simp)
    · obtain ⟨value, hvalue, rfl⟩ := Option.map_eq_some_iff.mp h
      have hadmitted := admitted_of_valueText hd.toDeclarations (htext _ rfl) hvalue
      refine hadd fun cs hcs => ?_
      obtain rfl := Option.some.inj hcs
      split
      · exact Admitted.collapse hadmitted
      · exact hadmitted

theorem Admitted.of_attrDecls {element : RawName} {fuel : Nat} {ws ws' : List Lexeme} (hd : d.Admitted)
    (hws : Worded ws) (h : attrDecls element fuel d ws = some (d', ws')) : d'.Admitted ∧ Worded ws' := by
  induction fuel generalizing d ws with
  | zero => cases h
  | succ fuel ih =>
    have hnext {attr : RawName} {tokenized : Bool} {text : Option (List Char)} {r : List Lexeme}
        (htext : ∀ cs ∈ text, Xml.Admitted cs) (hr : Worded r)
        (h : (d.addRule element attr tokenized text).bind (fun d => attrDecls element fuel d r) = some (d', ws')) :
        d'.Admitted ∧ Worded ws' := by
      obtain ⟨d₁, hrule, hrest⟩ := Option.bind_eq_some_iff.mp h
      exact ih (hd.of_addRule htext hrule) hr hrest
    unfold attrDecls at h
    split at h
    · cases h
      exact ⟨hd, hws.tail⟩
    · split at h
      · cases h
      · rename_i htype
        have hr := hws.tail.of_attrType htype
        dsimp only at h
        split at h
        · exact hnext (by simp) hr.tail h
        · exact hnext (by simp) hr.tail h
        · exact hnext (fun cs hcs => Option.some.inj hcs ▸ (worded_cons.mp hr.tail).1) hr.tail.tail h
        · exact hnext (fun cs hcs => Option.some.inj hcs ▸ (worded_cons.mp hr).1) hr.tail h
        · cases h
    · cases h

theorem Worded.of_mixedContent {ws ws' : List Lexeme} (hws : Worded ws) (h : mixedContent ws = some ws') :
    Worded ws' := by
  fun_induction mixedContent ws with
  | case1 name r ih => exact ih hws.tail.tail h
  | case2 r =>
    cases h
    exact hws.tail
  | case3 => cases h

/-- Parts of an element's content, and what follows one. -/
theorem Worded.of_groupContent {fuel : Nat} {groups : List (Option Lexeme)} {ws ws' : List Lexeme} (hws : Worded ws) :
    (groupContent fuel groups ws = some ws' → Worded ws') ∧
      (groupContent.afterPart fuel groups ws = some ws' → Worded ws') := by
  induction fuel generalizing groups ws with
  | zero =>
    refine ⟨fun h => ?_, fun h => ?_⟩
    · cases h
    · unfold groupContent.afterPart at h
      cases h
  | succ fuel ih =>
    refine ⟨fun h => ?_, fun h => ?_⟩
    · unfold groupContent at h
      split at h
      · exact (ih hws.tail).1 h
      · exact (ih hws.tail).2 h
      · cases h
    · unfold groupContent.afterPart at h
      split at h
      · cases h
      · rename_i heq
        cases heq
        dsimp only at h
        split_ifs at h
        · cases h
          exact hws.tail
        · exact (ih hws.tail).2 h
      · rename_i heq
        cases heq
        split_ifs at h
        exact (ih hws.tail).1 h
      · cases h

theorem Worded.of_elementDecl {ws ws' : List Lexeme} (hws : Worded ws) (h : elementDecl ws = some ws') :
    Worded ws' := by
  unfold elementDecl at h
  dsimp only at h
  split at h
  · rename_i hrest
    cases h
    split at hrest
    · cases hrest
      exact hws.tail.tail
    · cases hrest
      exact hws.tail.tail
    · cases hrest
      exact hws.tail.tail.tail.tail
    · exact (hws.tail.tail.of_mixedContent hrest).tail
    · exact ((Worded.of_groupContent hws.tail).1 hrest).tail
    · cases hrest
  · cases h

/-- **The declarations in brackets.** -/
theorem Admitted.of_subset {fuel : Nat} {ws ws' : List Lexeme} (hd : d.Admitted) (hws : Worded ws)
    (h : subset fuel d ws = some (d', ws')) : d'.Admitted ∧ Worded ws' := by
  induction fuel generalizing d ws with
  | zero => cases h
  | succ fuel ih =>
    unfold subset at h
    split at h
    · cases h
      exact ⟨hd, hws.tail⟩
    · exact ih hd hws.tail h
    · have hd' : Admitted { d with incomplete := true, counting := d.standalone } := ⟨hd.entity, hd.fallback⟩
      exact ih hd' hws.tail h
    · obtain ⟨⟨d₁, r⟩, hdecl, hrest⟩ := Option.bind_eq_some_iff.mp h
      obtain ⟨hd₁, hr⟩ := hd.of_entityDecl hws.tail hdecl
      exact ih hd₁ hr hrest
    · obtain ⟨⟨d₁, r⟩, hdecl, hrest⟩ := Option.bind_eq_some_iff.mp h
      obtain ⟨hd₁, hr⟩ := hd.of_attrDecls hws.tail.tail hdecl
      exact ih hd₁ hr hrest
    · obtain ⟨r, hdecl, hrest⟩ := Option.bind_eq_some_iff.mp h
      exact ih hd (hws.tail.tail.of_elementDecl hdecl) hrest
    · split at h
      · rename_i hexternal
        exact ih hd (hws.tail.tail.of_external hexternal).tail h
      · cases h
    · cases h

theorem admitted_of_ofLexemes {standalone : Bool} {ws : List Lexeme} (hws : Worded ws)
    (h : ofLexemes standalone ws = some d) : d.Admitted := by
  unfold ofLexemes at h
  split at h
  · rename_i name ws
    have hstart : ∀ incomplete, Admitted { standalone, incomplete } := fun _ => ⟨by simp, by simp⟩
    dsimp only at h
    cases hexternal : external false ws with
    | none =>
      simp only [hexternal] at h
      split at h
      · exact Option.some.inj h ▸ hstart _
      · split at h
        · rename_i hsubset
          cases h
          exact ((hstart _).of_subset hws.tail.tail hsubset).1
        · cases h
      · cases h
    | some ws' =>
      have hws' := hws.tail.of_external hexternal
      simp only [hexternal] at h
      split at h
      · exact Option.some.inj h ▸ hstart _
      · split at h
        · rename_i hsubset
          cases h
          exact ((hstart _).of_subset hws'.tail hsubset).1
        · cases h
      · cases h
  · cases h

/-- **A document type, and the rest of the text.** -/
theorem admitted_of_read {standalone : Bool} {rest : List Char} (hcs : Xml.Admitted cs)
    (h : read standalone cs = some (d, rest)) : d.Admitted ∧ Xml.Admitted rest := by
  unfold read at h
  split_ifs at h
  obtain ⟨⟨ws, rest'⟩, hwords, heq⟩ := Option.bind_eq_some_iff.mp h
  obtain ⟨d', hd', heq⟩ := Option.map_eq_some_iff.mp heq
  cases heq
  obtain ⟨hws, hrest⟩ := admitted_of_lexemes hcs (List.forall_mem_nil _) hwords
  exact ⟨admitted_of_ofLexemes hws hd', hrest⟩

/-- What stands before a document type, and what follows its keyword. -/
theorem admitted_of_locate {fuel : Nat} {before before' after : List Char} (hbefore : Xml.Admitted before)
    (hcs : Xml.Admitted cs) (h : locate fuel before cs = some (before', after)) :
    Xml.Admitted before' ∧ Xml.Admitted after := by
  induction fuel generalizing before cs with
  | zero => cases h
  | succ fuel ih =>
    have hmarks : Xml.Admitted "<!--".toList ∧ Xml.Admitted "-->".toList ∧ Xml.Admitted "<?".toList ∧
        Xml.Admitted "?>".toList := by decide
    unfold locate at h
    split at h
    · obtain ⟨⟨body, rest⟩, hcut, hnext⟩ := Option.bind_eq_some_iff.mp h
      obtain ⟨hbody, hrest⟩ := admitted_of_cutAt hcs.tail.tail.tail.tail hcut
      exact ih (by simp only [admitted_append]; exact ⟨⟨⟨hbefore, hmarks.1⟩, hbody⟩, hmarks.2.1⟩)
        hrest hnext
    · obtain ⟨⟨body, rest⟩, hcut, hnext⟩ := Option.bind_eq_some_iff.mp h
      obtain ⟨hbody, hrest⟩ := admitted_of_cutAt hcs.tail.tail hcut
      exact ih (by simp only [admitted_append]; exact ⟨⟨⟨hbefore, hmarks.2.2.1⟩, hbody⟩, hmarks.2.2.2⟩)
        hrest hnext
    · cases h
      exact ⟨hbefore, hcs.tail.tail.tail.tail.tail.tail.tail.tail.tail⟩
    · split_ifs at h
      exact ih (admitted_append.mpr ⟨hbefore, by simpa using (admitted_cons.mp hcs).1⟩) hcs.tail h
    · cases h

end Doctype

end MailboxSync.Xml
