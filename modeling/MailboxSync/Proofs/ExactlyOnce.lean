import MailboxSync.Proofs.Frame
import MailboxSync.Proofs.Serving
import MailboxSync.Proofs.Watermark

/-!
# Every new item is delivered once

* `Report.itemsOf`, `Call.delivers`, `delivered` — the items reported for a folder: by a report, by a run to a user,
  by runs one after another;
* `Call.delivers_segment` — on a mailbox that serves (`Transport.Serves`) a run ends in a report, moves the token of a
  folder from some `k` to some `k + n`, and delivers the items created by the `n` changes between;
* `History.delivered_once` — so after any runs, on a mailbox that only grows between them, the token of a folder
  stands at some `k` and the items delivered are those created by the first `k` changes.
-/

namespace MailboxSync

open Journal

/-! ## What a report delivers -/

/-- The new items a report lists for a folder that finished. -/
def Report.itemsOf (report : Report) (folder : FolderId) : List ItemId := (report.itemIds.lookup folder).getD []

theorem lookup_finished {rs : List FolderResult} (hn : (rs.map (·.folder)).Nodup) {r : FolderResult} (hr : r ∈ rs) :
    ((rs.filter (·.ok)).map fun q => (q.folder, q.items)).lookup r.folder = if r.ok then some r.items else none := by
  induction rs with
  | nil => cases hr
  | cons q rs ih =>
    obtain ⟨hq, hrest⟩ := List.nodup_cons.mp hn
    rcases List.mem_cons.mp hr with rfl | hr
    · cases hok : r.ok with
      | true => simp [hok]
      | false =>
        have hnone : ∀ x ∈ (rs.filter (·.ok)).map fun q => (q.folder, q.items), r.folder ≠ x.1 := by
          intro x hx heq
          obtain ⟨q, hmem, rfl⟩ := List.mem_map.mp hx
          exact hq (List.mem_map.mpr ⟨q, (List.mem_filter.mp hmem).1, heq.symm⟩)
        simp only [List.filter_cons, hok, Bool.false_eq_true, if_false]
        exact List.lookup_eq_none_iff.mpr fun x hx => by simpa using hnone x hx
    · have hne : (r.folder == q.folder) = false := by
        simpa using fun heq => hq (List.mem_map.mpr ⟨r, hr, heq⟩)
      simp only [List.filter_cons]
      split
      · rw [List.map_cons, List.lookup_cons, hne]
        exact ih hrest hr
      · exact ih hrest hr

theorem Report.itemsOf_of_mem {report : Report} (hn : (report.folders.map (·.folder)).Nodup) {r : FolderResult}
    (hr : r ∈ report.folders) : report.itemsOf r.folder = if r.ok then r.items else [] := by
  unfold itemsOf itemIds finished
  rw [lookup_finished hn hr]
  split <;> rfl

theorem Report.itemsOf_of_forall_ne {report : Report} {folder : FolderId}
    (h : ∀ r ∈ report.folders, r.folder ≠ folder) : report.itemsOf folder = [] := by
  unfold itemsOf itemIds finished
  have hnone : ((report.folders.filter (·.ok)).map fun q => (q.folder, q.items)).lookup folder = none := by
    refine List.lookup_eq_none_iff.mpr fun x hx => ?_
    obtain ⟨q, hq, rfl⟩ := List.mem_map.mp hx
    simpa using (h q (List.mem_filter.mp hq).1).symm
  rw [hnone]
  rfl

section Delivery

variable {τ ς : Type}

/-- The items a run reports to a user for a folder. -/
def Call.delivers (user : User) (folder : FolderId) (c : Call τ ς) : List ItemId :=
  match c.result with
  | .ok report => if c.user = user then report.itemsOf folder else []
  | .error _ => []

/-- The items runs report to a user for a folder, in the order of the runs. -/
def delivered (user : User) (folder : FolderId) (cs : List (Call τ ς)) : List ItemId :=
  cs.flatMap (Call.delivers user folder)

end Delivery

/-! ## No fault -/

section Faultless

variable {τ : Type} {b : Backend} {box : τ → Mailbox} {e : Env τ Progress} {roots : List FolderId}
  {now : Option Stamp} {user : User} {folder : FolderId} {w w' : World τ Progress}

/-- Discovery meets with no fault. -/
theorem discoverAll_ne_fault {t : Transport τ} {ς : Type} {w : World τ ς} (hs : t.Serves box w.remote)
    (found : FolderSet) (fault : Fault) : (discoverAll t user roots found w).1 ≠ .error (.fault fault) := by
  induction roots generalizing found w with
  | nil => simp [discoverAll]
  | cons root roots ih =>
    have ha := hs.answers user (.find (.forRoot root))
    have hsend := hs.send user (.find (.forRoot root))
    rw [← World.ask_fst t user (.find (.forRoot root)) w] at ha
    rw [← World.ask_remote t user (.find (.forRoot root)) w] at hsend
    unfold discoverAll discover
    generalize w.ask t user (.find (.forRoot root)) = r at ha hsend
    obtain ⟨o, w₁⟩ := r
    split
    · simp
    · rcases o with (failure | fault') | _ | ms | ms
      · simp
      · exact absurd rfl (ha.ne_fault fault')
      · simp
      · dsimp only
        cases FindMessage.firstError ms with
        | some error => simp
        | none => exact ih (w := w₁.note _ _) hsend _
      · simp

theorem Ran.exists_report {folders : FolderSet} {ends : Ends} {ds : List Event} {result : Except Fault Report}
    (h : Ran e roots now user w folders ends ds result) (he : e.stores = b.stores.refusing [])
    (hk : b.KeepsMarks w.stores) (hends : ∀ x ∈ ends, ∀ fault, x.2 ≠ .error fault)
    (hnow : ∃ stamp, e.stampOf now = .ok stamp) : ∃ report, result = .ok report := by
  obtain ⟨w₂, ds₂, ds₃, hl, -, hc, -⟩ := h.closes
  obtain ⟨stamp, hstamp⟩ := hnow
  have hkeeps : e.KeepsIn b := ⟨[], by simp, he⟩
  cases hc with
  | fault hf =>
    obtain ⟨x, hx, hfault⟩ := List.mem_map.mp hf
    exact absurd hfault (hends x hx _)
  | failed _ _ => exact ⟨_, rfl⟩
  | stuck _ _ ha =>
    rcases ha.cases hkeeps (hl.keepsMarks he hk) with ⟨-, fault, -, hn⟩ | ⟨_, _, _, _, _, hr⟩
    · rw [hstamp] at hn
      cases hn
    · cases hr
  | completed _ _ _ => exact ⟨_, rfl⟩

end Faultless

/-! ## One run -/

section Segment

variable {τ : Type} {b : Backend} {box : τ → Mailbox}

/-- A folder's token before and after a run, and the items the run delivers for it: they are those created by the
changes between the two tokens. -/
structure Call.Segment (b : Backend) (changes : List Change) (c : Call τ Progress) (user : User) (folder : FolderId)
    (k n : Nat) : Prop where
  within : k + n ≤ changes.length
  token : TokenAt folder (b.startToken c.after.stores user folder) (k + n)
  items : c.delivers user folder = createdItems ((changes.drop k).take n)

theorem Call.Segment.ofUnchanged {c : Call τ Progress} {changes : List Change} {user : User} {folder : FolderId}
    {k : Nat} (hk : k ≤ changes.length) (ht : TokenAt folder (b.startToken c.before.stores user folder) k)
    (hkept : b.kept c.after.stores user folder = b.kept c.before.stores user folder)
    (hd : c.delivers user folder = []) : c.Segment b changes user folder k 0 where
  within := hk
  token := by
    unfold Backend.startToken at ht ⊢
    rw [hkept]
    exact ht
  items := hd

theorem Ran.nodup_results {e : Env τ Progress} {roots : List FolderId} {now : Option Stamp} {user : User}
    {w : World τ Progress} {folders : FolderSet} {ends : Ends} {ds : List Event} {report : Report}
    (h : Ran e roots now user w folders ends ds (.ok report)) :
    (report.folders.map (·.folder)).Nodup ∧ ∀ r ∈ report.folders, r.folder ∈ folders := by
  refine ⟨h.folders_eq ▸ h.nodup, fun r hr => h.all.mem_iff.mp ?_⟩
  rw [← h.folders_eq]
  exact List.mem_map_of_mem hr

/-- A run that found its folders and made a report. -/
theorem Call.segment_of_ran (c : Call τ Progress) (he : c.env.stores = b.stores.refusing [])
    {folders : FolderSet} {ends : Ends} {ds : List Event} {report : Report} (hl : c.before.Leads c.env ds c.after)
    (hran : Ran c.env c.roots c.now c.user c.before folders ends ds (.ok report)) (hreport : c.result = .ok report)
    {m : Mailbox} {user : User} {folder : FolderId} {k : Nat}
    (hx : ∀ x ∈ exchanges user folder ds, m.Answers (.sync x.1) x.2)
    (ht : TokenAt folder (b.startToken c.before.stores user folder) k) (hk : k ≤ (m.changes folder).length) :
    ∃ n, c.Segment b (m.changes folder) user folder k n := by
  obtain ⟨hnodup, hfolders⟩ := hran.nodup_results
  by_cases hmine : user = c.user ∧ folder ∈ folders
  · obtain ⟨rfl, hf⟩ := hmine
    obtain ⟨o, ho⟩ := hran.exists_end hf
    obtain ⟨r, hr, heq⟩ := List.mem_map.mp (hran.ends_eq ▸ ho)
    cases heq
    have hdelivers : c.delivers c.user r.folder = if r.ok then r.items else [] := by
      simp [Call.delivers, hreport, Report.itemsOf_of_mem hnodup hr]
    rcases (hran.stands _ ho).complete_or_kept he with
      ⟨p, hp, ⟨hts, hfin⟩ | ⟨-, hrefused, -⟩⟩ | ⟨-, hts, hres⟩
    · cases hfin
      obtain ⟨n, hn, htoken, hitems⟩ := hp.served hx ht hk
      refine ⟨n, hn, ?_, ?_⟩
      · rw [Backend.startToken, hl.kept he, hts]
        exact htoken
      · rw [hdelivers, ← hitems]
        rfl
    · simp at hrefused
    · obtain ⟨-, hok, -⟩ := hres r rfl
      exact ⟨0, .ofUnchanged hk ht (kept_of_savedTokens_nil hl he hts) (by rw [hdelivers, hok]; rfl)⟩
  · refine ⟨0, .ofUnchanged hk ht (kept_of_savedTokens_nil hl he (hran.elsewhere user folder hmine).2) ?_⟩
    simp only [Call.delivers, hreport]
    split
    · rename_i hu
      refine Report.itemsOf_of_forall_ne fun r hr hfolder => ?_
      exact hmine ⟨hu.symm, hfolder ▸ hfolders r hr⟩
    · rfl

/-- **A run on a mailbox that serves** ends in a report, and takes every folder of every user from where its token
stands by a segment of its changes. -/
theorem Call.delivers_segment (c : Call τ Progress) (he : c.env.stores = b.stores.refusing [])
    (hs : c.env.transport.Serves box c.before.remote) (hnow : ∃ stamp, c.env.stampOf c.now = .ok stamp)
    (htokens : b.KeepsTokens c.before.stores) (hmarks : b.KeepsMarks c.before.stores) :
    (∃ report, c.result = .ok report) ∧ ∀ user folder k,
      TokenAt folder (b.startToken c.before.stores user folder) k →
      k ≤ ((box c.before.remote).changes folder).length →
      ∃ n, c.Segment b ((box c.before.remote).changes folder) user folder k n := by
  obtain ⟨ds, hl, hcases⟩ := c.runs.cases
  rcases hcases with ⟨trouble, hd, hq, hresult⟩ | ⟨folders, ends, hd, hran⟩
  · cases trouble with
    | fault fault => exact absurd hd (discoverAll_ne_fault hs [] fault)
    | failure failure =>
      refine ⟨⟨_, hresult⟩, fun user folder k ht hk => ⟨0, .ofUnchanged hk ht
        (kept_of_savedTokens_nil hl he (hq.savedTokens user folder)) ?_⟩⟩
      simp only [Call.delivers, hresult, resultOfTrouble]
      split
      · exact Report.itemsOf_of_forall_ne (by simp)
      · rfl
  · have hx := hl.served_exchanges hs
    have hends : ∀ x ∈ ends, ∀ fault, x.2 ≠ .error fault := by
      intro x hmem fault heq
      have hstands := hran.stands x hmem
      rw [heq] at hstands
      exact hstands.ne_fault he htokens fun y hy => (hx c.user x.1 y hy).ne_fault
    obtain ⟨report, hreport⟩ := hran.exists_report he hmarks hends hnow
    exact ⟨⟨report, hreport⟩, fun user folder k ht hk =>
      c.segment_of_ran he hl (hreport ▸ hran) hreport (hx user folder) ht hk⟩

theorem Call.keeps (c : Call τ Progress) (he : c.env.stores = b.stores.refusing [])
    (hs : c.env.transport.Serves box c.before.remote) (htokens : b.KeepsTokens c.before.stores)
    (hmarks : b.KeepsMarks c.before.stores) :
    b.KeepsTokens c.after.stores ∧ b.KeepsMarks c.after.stores ∧ box c.after.remote = box c.before.remote := by
  exact ⟨(c.leads.keepsTokens_iff he).mpr htokens, c.leads.keepsMarks he hmarks, (c.leads.served hs).2.1⟩

end Segment

/-! ## Many runs -/

section Runs

variable {τ : Type} {b : Backend} {box : τ → Mailbox} {w₀ w : World τ Progress} {cs : List (Call τ Progress)}

/-- Between two runs the stores stay and changes are added to folders. -/
def Appends (box : τ → Mailbox) (w w' : World τ Progress) : Prop :=
  w'.stores = w.stores ∧ ∀ folder, (box w.remote).changes folder <+: (box w'.remote).changes folder

/-- A folder's token stands at `k`, and what has been delivered for it are the items that its first `k` changes
created. -/
structure DeliveredTo (b : Backend) (box : τ → Mailbox) (cs : List (Call τ Progress)) (w : World τ Progress)
    (user : User) (folder : FolderId) (k : Nat) : Prop where
  within : k ≤ ((box w.remote).changes folder).length
  token : TokenAt folder (b.startToken w.stores user folder) k
  items : delivered user folder cs = createdItems (((box w.remote).changes folder).take k)

theorem DeliveredTo.appends {w' : World τ Progress} {user : User} {folder : FolderId} {k : Nat}
    (h : DeliveredTo b box cs w user folder k) (ha : Appends box w w') : DeliveredTo b box cs w' user folder k := by
  obtain ⟨hstores, hpre⟩ := ha
  obtain ⟨rest, hrest⟩ := hpre folder
  refine ⟨Nat.le_trans h.within (hpre folder).length_le, hstores ▸ h.token, ?_⟩
  rw [h.items, ← hrest, List.take_append_of_le_length h.within]

theorem DeliveredTo.segment {c : Call τ Progress} {user : User} {folder : FolderId} {k n : Nat}
    (h : DeliveredTo b box cs c.before user folder k)
    (hs : c.Segment b ((box c.before.remote).changes folder) user folder k n)
    (hbox : box c.after.remote = box c.before.remote) :
    DeliveredTo b box (cs ++ [c]) c.after user folder (k + n) where
  within := hbox ▸ hs.within
  token := hs.token
  items := by
    unfold delivered
    rw [List.flatMap_append, List.flatMap_singleton, hbox, List.take_add, createdItems_append,
      ← h.items, ← hs.items]
    rfl

theorem Backend.keeps_empty (hb : b.watermarks ≠ .nowhere) : b.KeepsTokens {} ∧ b.KeepsMarks {} := by
  constructor
  · unfold KeepsTokens
    cases b.tokens
    · trivial
    · rfl
  · unfold KeepsMarks
    cases hw : b.watermarks with
    | memory => trivial
    | database => exact ⟨{}, rfl, fun user text ht => by cases ht⟩
    | nowhere => exact absurd hw hb

theorem DeliveredTo.ofEmpty (hempty : w.stores = {}) (user : User) (folder : FolderId) :
    DeliveredTo b box [] w user folder 0 := by
  refine ⟨Nat.zero_le _, .inl ⟨?_, rfl⟩, rfl⟩
  rw [hempty]
  unfold Backend.startToken Backend.kept
  cases b.tokens <;> rfl

/-- What holds along such runs: the stores keep what they are given, and everything has been delivered up to the
tokens. -/
theorem History.all_delivered (h : History (Appends box) w₀ cs w) (hempty : w₀.stores = {})
    (hb : b.watermarks ≠ .nowhere) (he : ∀ c ∈ cs, c.env.stores = b.stores)
    (hs : ∀ c ∈ cs, c.env.transport.Serves box c.before.remote)
    (hnow : ∀ c ∈ cs, ∃ stamp, c.env.stampOf c.now = .ok stamp) :
    (b.KeepsTokens w.stores ∧ b.KeepsMarks w.stores) ∧ (∀ c ∈ cs, ∃ report, c.result = .ok report) ∧
      ∀ user folder, ∃ k, DeliveredTo b box cs w user folder k := by
  induction h with
  | nil => exact ⟨hempty.symm ▸ Backend.keeps_empty hb, by simp,
      fun user folder => ⟨0, .ofEmpty hempty user folder⟩⟩
  | @snoc cs w _ c hn ih =>
    have hmem : c ∈ cs ++ [c] := List.mem_append_right _ List.mem_cons_self
    obtain ⟨⟨htokens, hmarks⟩, hreports, hall⟩ := ih (fun c' hc' => he c' (List.mem_append_left _ hc'))
      (fun c' hc' => hs c' (List.mem_append_left _ hc')) fun c' hc' => hnow c' (List.mem_append_left _ hc')
    rw [← hn.1] at htokens hmarks
    obtain ⟨htokens', hmarks', hbox⟩ := c.keeps (he c hmem) (hs c hmem) htokens hmarks
    obtain ⟨hreport, hsegments⟩ := c.delivers_segment (he c hmem) (hs c hmem) (hnow c hmem) htokens hmarks
    refine ⟨⟨htokens', hmarks'⟩, fun c' hc' => ?_, fun user folder => ?_⟩
    · rcases List.mem_append.mp hc' with hc' | hc'
      · exact hreports c' hc'
      · obtain rfl := List.mem_singleton.mp hc'
        exact hreport
    · obtain ⟨k, hk⟩ := hall user folder
      have hbefore := hk.appends hn
      obtain ⟨n, hseg⟩ := hsegments user folder k hbefore.token hbefore.within
      exact ⟨k + n, hbefore.segment hseg hbox⟩

/-- **Every new item is delivered once.**  Runs of any users begin with empty stores, on a mailbox that only grows
between them and serves in them, failures and cancellations included.  Then every run ends in a report, and at the end
every folder's token stands at some number of its changes, while the items reported for the folder in the user's runs
are those these changes created, in their order. -/
theorem History.delivered_once (h : History (Appends box) w₀ cs w) (hempty : w₀.stores = {})
    (hb : b.watermarks ≠ .nowhere) (he : ∀ c ∈ cs, c.env.stores = b.stores)
    (hs : ∀ c ∈ cs, c.env.transport.Serves box c.before.remote)
    (hnow : ∀ c ∈ cs, ∃ stamp, c.env.stampOf c.now = .ok stamp) :
    (∀ c ∈ cs, ∃ report, c.result = .ok report) ∧
      ∀ user folder, ∃ k, DeliveredTo b box cs w user folder k :=
  (h.all_delivered hempty hb he hs hnow).2

end Runs

theorem Mailbox.prefix_append (m : Mailbox) (folder : FolderId) (added : List Change) (f : FolderId) :
    m.changes f <+: (m.append folder added).changes f := by
  unfold append
  simp only [changes, Table.get?_put]
  split
  · rename_i h
    subst h
    exact List.prefix_append _ _
  · exact List.prefix_rfl

/-- A folder whose second page does not get through the first time. -/
def interrupted : Session where
  desk :=
    { mailbox := ({} : Mailbox).append "a" [.created "x", .updated "x", .created "y"]
      queues :=
        [({ operation := some .sync }, [{}, { script := .raises (.failure (.transport .badStatus (some 503))) }])] }
  config := .ofSizes 1 100 1

/-- The run that is interrupted. -/
def interruptedCall : Call Desk Progress :=
  .ofSyncUser interrupted.env 9 ["root"] none "u" (interrupted.world .never) (by decide +kernel)

/-- What the next run begins with: the same stores, and a mailbox with one more item. -/
def resumed : World Desk Progress where
  remote := { mailbox := interruptedCall.after.remote.mailbox.append "a" [.created "z"] }
  stores := interruptedCall.after.stores

def resumedCall : Call Desk Progress := .ofSyncUser interrupted.env 9 ["root"] none "u" resumed (by decide +kernel)

/-- Between the two every item is delivered once. -/
theorem resumedCall_delivered_once : delivered "u" "a" [interruptedCall, resumedCall] = ["x", "y", "z"] ∧
    (∀ c ∈ [interruptedCall, resumedCall], ∃ report, c.result = .ok report) ∧
      ∃ k, DeliveredTo .memory Desk.mailbox [interruptedCall, resumedCall] resumedCall.after "u" "a" k := by
  have hhistory : History (Appends Desk.mailbox) (interrupted.world .never) [interruptedCall, resumedCall]
      resumedCall.after :=
    .snoc (.snoc .nil interruptedCall ⟨rfl, fun _ => List.prefix_rfl⟩) resumedCall
      ⟨rfl, fun f => Mailbox.prefix_append _ _ _ f⟩
  have hqueued : interrupted.desk.Injects := by
    refine ⟨fun q hq c hc => ?_, fun f hf => by cases hf⟩
    obtain rfl := List.mem_singleton.mp hq
    simp only [List.mem_cons, List.not_mem_nil, or_false] at hc
    obtain rfl | rfl := hc <;> trivial
  have hserves : ∀ c ∈ [interruptedCall, resumedCall], c.env.transport.Serves Desk.mailbox c.before.remote := by
    refine List.forall_mem_cons.mpr ⟨Desk.direct_serves none hqueued, List.forall_mem_singleton.mpr ?_⟩
    exact Desk.direct_serves none ⟨fun q hq => absurd hq List.not_mem_nil, fun f hf => absurd hf List.not_mem_nil⟩
  have hstores : ∀ c ∈ [interruptedCall, resumedCall], c.env.stores = Backend.memory.stores :=
    List.forall_mem_cons.mpr ⟨rfl, List.forall_mem_singleton.mpr rfl⟩
  have hnow : ∀ c ∈ [interruptedCall, resumedCall], ∃ stamp, c.env.stampOf c.now = .ok stamp :=
    List.forall_mem_cons.mpr ⟨⟨_, rfl⟩, List.forall_mem_singleton.mpr ⟨_, rfl⟩⟩
  obtain ⟨hreports, hall⟩ := hhistory.delivered_once rfl (by decide) hstores hserves hnow
  exact ⟨by decide +kernel, hreports, hall "u" "a"⟩

end MailboxSync
