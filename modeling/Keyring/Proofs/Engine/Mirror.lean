import Keyring.Proofs.Engine.Reachable
import Keyring.Proofs.Store.Mirror

/-!
# Engines over a folder

An engine whose accounts are kept in a folder answers every operation as one that keeps them in
memory. `MirroredBy` relates a world that keeps its accounts in memory to a folder with the same
accounts; over that folder every operation gives the same answer and leaves the same world, with a
folder that mirrors it again, if the authority that it is about is short enough for the name of a
file and the documents that it leaves can be written. A batch may stop on its way, but it only adds
keys, so that its documents can be written at every stage if they can be at its end.
-/

namespace Keyring

def Operation.authority? : Operation → Option String
  | .openAccount x | .account x | .issue x _ | .issueAll x _ | .revise x _ _ _ | .revoke x _
  | .revokeAll x | .prune x | .setMints x _ | .key x _ | .statuses x | .activeKeys x
  | .expiringKeys x _ | .isKeyValid x _ | .execute x _ _ _ _ | .expectedDelegate x _
  | .approve x _ _ _ _ | .revokeDelegate x _ | .delegatedTransfer x _ _ _ _ _ _ => some x
  | .moveClock _ _ | .advanceClock _ _ | .ledger _ | .tokens _ => none

namespace World

def withStore (w : World) (store : Store) : World := { w with store }

/-- Whether a store is a folder with the accounts that a world keeps in memory. -/
def MirroredBy (w : World) (s : Store) : Prop :=
  ∃ l f, w.store = .memory l ∧ s = .folder f ∧ Store.Mirrors w.program l f

def Alike {α : Type} (r r' : Outcome α × World) : Prop :=
  r'.1 = r.1 ∧ ∃ s, r'.2 = r.2.withStore s ∧ r.2.MirroredBy s

variable {α : Type} {w u : World} {s : Store} {x : String}

namespace MirroredBy

theorem load_eq (h : w.MirroredBy s) (hx : Folder.Nameable x) : s.load x = w.store.load x := by
  obtain ⟨l, f, hstore, rfl, h⟩ := h
  rw [hstore]
  exact h.load_eq hx

theorem contains_eq (h : w.MirroredBy s) (hx : Folder.Nameable x) :
    s.contains x = w.store.contains x := by
  obtain ⟨l, f, hstore, rfl, h⟩ := h
  rw [hstore]
  exact h.contains_eq hx

theorem authorities_eq (h : w.MirroredBy s) : s.authorities = w.store.authorities := by
  obtain ⟨l, f, hstore, rfl, h⟩ := h
  rw [hstore]
  exact h.authorities_eq

theorem holds (h : w.MirroredBy s) : ∃ l, w.store.Holds w.program l := by
  obtain ⟨l, f, hstore, -, h⟩ := h
  exact ⟨l, hstore ▸ h.memory⟩

theorem alike (h : w.MirroredBy s) (r : Outcome α) : Alike (r, w) (r, w.withStore s) :=
  ⟨rfl, s, rfl, h⟩

/-- What happens elsewhere than in the store may happen over either store. -/
theorem alike_of_same (h : w.MirroredBy s) (hstore : u.store = w.store)
    (hprogram : u.program = w.program) (r : Outcome α) : Alike (r, u) (r, u.withStore s) := by
  obtain ⟨l, f, hl, rfl, h⟩ := h
  exact ⟨rfl, _, rfl, l, f, hstore.trans hl, rfl, hprogram ▸ h⟩

end MirroredBy

theorem Alike.answered {r r' : Outcome α × World} (h : Alike r r') (f : α → Answer) :
    Alike (answered f r) (answered f r') :=
  ⟨congrArg (Except.map f) h.1, h.2⟩

/-! ## Changes -/

theorem alike_changed {f : Account → Outcome (α × Account)} {notice? : α → Option Notice}
    {e : Edit} (h : w.MirroredBy s) (hx : Folder.Nameable x)
    (he : ∀ a : Account, a.edit w.clock e = (f a).map (·.2))
    (hd : (w.changed x f notice?).2.store.Documented) :
    Alike (w.changed x f notice?) ((w.withStore s).changed x f notice?) := by
  obtain ⟨l, g, hstore, rfl, hm⟩ := id h
  have hload : (w.withStore (.folder g)).store.load x = w.store.load x := h.load_eq hx
  rw [changed] at hd ⊢
  rw [changed, hload]
  cases ha : w.store.load x with
  | error e => exact h.alike _
  | ok a =>
      cases hf : f a with
      | error e =>
          simp only [hf]
          exact h.alike _
      | ok r =>
          have hedit : a.edit w.clock e = .ok r.2 := by
            rw [he, hf]
            rfl
          rw [hstore] at ha
          have hfind := hm.memory.load_eq_ok_iff.1 ha
          have hsound := (hm.memory.sound _ (mem_of_field? hfind)).edit hedit
          have hmemory := Routine.left_eq_ok_iff.1 (Store.Mirrors.save_memory (l := l) hsound)
          simp only [hstore, ha, hf, hmemory] at hd
          obtain ⟨g', hfolder, h'⟩ :=
            hm.save_folder hsound (Store.Mirrors.isWritable_of_documented hsound hd)
          have hfolder := Routine.left_eq_ok_iff.1 hfolder
          simp only [hf, hstore, hmemory, withStore, hfolder]
          exact ⟨rfl, _, rfl, _, g', rfl, rfl, h'⟩

theorem alike_edit {op : Operation} {e : Edit} (h : w.MirroredBy s) (hx : Folder.Nameable x)
    (he : op.edit? = some (x, e)) (hd : (w.step op).2.store.Documented) :
    Alike (w.step op) ((w.withStore s).step op) := by
  obtain ⟨β, f, body, notice?, hstep, hbody, -⟩ := step_eq_changed he
  rw [hstep] at hd ⊢
  rw [hstep]
  exact (alike_changed h hx (hbody w.clock) hd).answered f

theorem alike_openAccount (h : w.MirroredBy s) (hd : (w.openAccount x).2.store.Documented) :
    Alike (w.openAccount x) ((w.withStore s).openAccount x) := by
  have hprogram : (w.withStore s).program = w.program := rfl
  have hstore' : (w.withStore s).store = s := rfl
  simp only [openAccount_eq, hprogram, hstore'] at hd ⊢
  cases ha : Account.opened x w.program with
  | error e => exact h.alike _
  | ok a =>
      obtain ⟨l, f, hstore, hs, hm⟩ := id h
      simp only [ha, hstore] at hd
      have hcreate : ∀ s, (Store.memory l).create a = .ok s → s.Documented := by
        intro s hs
        rw [hs] at hd
        exact hd
      simp only [hstore, hs]
      rcases hm.create_eq (Account.sound_opened ha) hcreate with
        ⟨e, hmemory, hfolder⟩ | ⟨l', f', hmemory, hfolder, h'⟩
      · rw [hmemory, hfolder, ← hs]
        exact h.alike _
      · rw [hmemory, hfolder]
        exact ⟨rfl, _, rfl, l', f', rfl, rfl, h'⟩

theorem alike_issue {spec : KeySpec} (h : w.MirroredBy s) (hx : Folder.Nameable x)
    (hd : (w.issue x spec).2.store.Documented) :
    Alike (w.issue x spec) ((w.withStore s).issue x spec) := by
  rw [issue_eq] at hd ⊢
  rw [issue_eq]
  split
  next => exact h.alike _
  next => exact h.alike _
  next unit label hunit hlabel =>
    rw [hunit, hlabel] at hd
    exact alike_changed (e := .issue spec.key spec.expiresAt unit spec.permissions label) h hx
      (fun _ => rfl) hd

end World

/-! ## Batches -/

theorem Operation.edit?_issue {x y : String} {spec : KeySpec} {e : Edit}
    (h : (Operation.issue x spec).edit? = some (y, e)) :
    y = x ∧ ∃ unit label, e = .issue spec.key spec.expiresAt unit spec.permissions label := by
  rw [edit?] at h
  split at h
  next unit label _ _ =>
    obtain ⟨rfl, rfl⟩ := Prod.mk.inj (Option.some.inj h)
    exact ⟨rfl, unit, label, rfl⟩
  next => cases h

namespace World

variable {w : World} {s : Store} {x : String} {l : List (String × Account)}

/-- The documents that are there before a key is issued can be written if those after it can. -/
theorem documented_of_issue {spec : KeySpec} (h : w.store.Holds w.program l)
    (hd : (w.issue x spec).2.store.Documented) : w.store.Documented := by
  have hstore : (w.issue x spec).2 = (w.step (.issue x spec)).2 := rfl
  rw [hstore] at hd
  cases he : (Operation.issue x spec).edit? with
  | none =>
      obtain ⟨f, hstep⟩ := step_issue_of_edit?_eq_none (w := w) he
      rw [hstep] at hd
      exact hd
  | some ye =>
      obtain ⟨y, e⟩ := ye
      obtain ⟨rfl, unit, label, rfl⟩ := Operation.edit?_issue he
      rcases step_edit_of_isFlat h.isFlat he with
        ⟨f, hstep⟩ | ⟨a, a', s', sink, answer, hload, hedit, hsave, hstep⟩
      · rw [hstep] at hd
        exact hd
      · rw [hstep] at hd
        have hy := h.load_eq_ok_iff.1 hload
        have hsound := (h.sound (y, a) (mem_of_field? hy)).edit hedit
        have h' : s'.Holds w.program (putField y a' l) := h.save hsound hsave
        have hload' : s'.load y = .ok a' := h'.load_of_some (by rw [field?_putField, if_pos rfl])
        have hwritable := hd y a' hload'
        intro z b hz
        rw [h.load_eq_ok_iff] at hz
        by_cases hzy : z = y
        · subst hzy
          obtain rfl : b = a := Option.some.inj (hz.symm.trans hy)
          obtain ⟨-, rfl⟩ := Account.edit_eq_ok_iff.1 hedit
          exact Account.isWritable_of_subset hwritable rfl (List.subset_append_left _ _)
        · exact hd z b (h'.load_of_some (by rw [field?_putField, if_neg hzy, hz]))

theorem holds_issue (h : w.store.Holds w.program l) (x : String) (spec : KeySpec) :
    ∃ l', (w.issue x spec).2.store.Holds (w.issue x spec).2.program l' := by
  obtain ⟨l', h', hprogram, -⟩ := holds_step h (.issue x spec)
  exact ⟨l', hprogram.symm ▸ h'⟩

/-- The documents after the first key of a batch can be written if those at its end can. -/
theorem documented_of_issueAll {spec : KeySpec} {specs : List KeySpec}
    (h : w.store.Holds w.program l) (hd : (w.issueAll x (spec :: specs)).2.store.Documented) :
    (w.issue x spec).2.store.Documented := by
  induction specs generalizing w l spec with
  | nil =>
      rw [issueAll] at hd
      cases hissue : w.issue x spec with
      | mk r w₁ =>
          rw [hissue] at hd
          cases r <;> exact hd
  | cons next specs ih =>
      obtain ⟨l₁, h₁⟩ := holds_issue h x spec
      rw [issueAll] at hd
      cases hissue : w.issue x spec with
      | mk r w₁ =>
          rw [hissue] at hd h₁
          cases r with
          | error f => exact hd
          | ok k => exact documented_of_issue h₁ (ih h₁ hd)

theorem alike_issueAll {specs : List KeySpec} (h : w.MirroredBy s) (hx : Folder.Nameable x)
    (hd : (w.issueAll x specs).2.store.Documented) :
    Alike (w.issueAll x specs) ((w.withStore s).issueAll x specs) := by
  induction specs generalizing w s with
  | nil => exact h.alike _
  | cons spec specs ih =>
      obtain ⟨l, hl⟩ := h.holds
      have hfirst := alike_issue h hx (documented_of_issueAll hl hd)
      rw [issueAll] at hd ⊢
      rw [issueAll]
      cases hissue : w.issue x spec with
      | mk r w₁ =>
          cases hissue' : (w.withStore s).issue x spec with
          | mk r' w₁' =>
              rw [hissue] at hd hfirst
              rw [hissue'] at hfirst
              obtain ⟨hr, s₁, hw, h₁⟩ := hfirst
              obtain rfl : r' = r := hr
              obtain rfl : w₁' = w₁.withStore s₁ := hw
              cases r' with
              | error f => exact h₁.alike _
              | ok k =>
                  obtain ⟨hks, hrest⟩ := ih h₁ hd
                  exact ⟨congrArg (Except.map (k :: ·)) hks, hrest⟩

/-! ## Acting with a key -/

theorem alike_execute (h : w.MirroredBy s) (hx : Folder.Nameable x) (signer : String)
    (request : Request) (source? destination? : Option String) :
    Alike (w.execute x signer request source? destination?)
      ((w.withStore s).execute x signer request source? destination?) := by
  have hload : (w.withStore s).store.load x = w.store.load x := h.load_eq hx
  have hsame : (w.withStore s).executed x signer request source? destination? =
      w.executed x signer request source? destination? := by
    rw [executed, executed, hload]
    rfl
  rw [execute_eq, execute_eq, hsame]
  split
  next => exact h.alike _
  next => apply h.alike_of_same <;> rfl

theorem alike_approve (h : w.MirroredBy s) (hx : Folder.Nameable x)
    (tokenAccount mint delegate : String) (amount : Int) :
    Alike (w.approve x tokenAccount mint delegate amount)
      ((w.withStore s).approve x tokenAccount mint delegate amount) := by
  have hload : (w.withStore s).store.load x = w.store.load x := h.load_eq hx
  have hsame : (w.withStore s).approved x tokenAccount mint delegate amount =
      w.approved x tokenAccount mint delegate amount := by
    rw [approved, approved, hload]
    rfl
  rw [approve_eq, approve_eq, hsame]
  split
  next => exact h.alike _
  next => apply h.alike_of_same <;> rfl

theorem alike_revokeDelegate (h : w.MirroredBy s) (hx : Folder.Nameable x)
    (tokenAccount : String) :
    Alike (w.revokeDelegate x tokenAccount) ((w.withStore s).revokeDelegate x tokenAccount) := by
  have hload : (w.withStore s).store.load x = w.store.load x := h.load_eq hx
  have hsame : (w.withStore s).delegateRevoked x tokenAccount =
      w.delegateRevoked x tokenAccount := by
    rw [delegateRevoked, delegateRevoked, hload]
    rfl
  rw [revokeDelegate_eq, revokeDelegate_eq, hsame]
  split
  next => exact h.alike _
  next => apply h.alike_of_same <;> rfl

theorem alike_delegatedTransfer (h : w.MirroredBy s) (hx : Folder.Nameable x)
    (signer source destination mint delegate : String) (amount : Int) :
    Alike (w.delegatedTransfer x signer source destination mint delegate amount)
      ((w.withStore s).delegatedTransfer x signer source destination mint delegate amount) := by
  have hload : (w.withStore s).store.load x = w.store.load x := h.load_eq hx
  have hsame : (w.withStore s).delegated x signer source destination mint delegate amount =
      w.delegated x signer source destination mint delegate amount := by
    rw [delegated, delegated, hload]
    rfl
  rw [delegatedTransfer_eq, delegatedTransfer_eq, hsame]
  split
  next => exact h.alike _
  next => apply h.alike_of_same <;> rfl

/-! ## Every operation -/

theorem alike_asked {α : Type} {r r' : Outcome α} (h : w.MirroredBy s) (f : α → Answer)
    (hr : r' = r) : Alike (w.asked f r) ((w.withStore s).asked f r') := by
  rw [hr]
  exact h.alike _

theorem alike_setClock (h : w.MirroredBy s) (r : Except ClockError Reading) :
    Alike (w.setClock r) ((w.withStore s).setClock r) := by
  cases r with
  | error e => exact h.alike _
  | ok c => apply h.alike_of_same <;> rfl

theorem alike_step {op : Operation} (h : w.MirroredBy s)
    (hop : ∀ x ∈ op.authority?, Folder.Nameable x) (hd : (w.step op).2.store.Documented) :
    Alike (w.step op) ((w.withStore s).step op) := by
  have hload : ∀ x ∈ op.authority?, (w.withStore s).account x = w.account x :=
    fun x hx => h.load_eq (hop x hx)
  cases op with
  | openAccount x => exact (alike_openAccount h hd).answered _
  | issue x spec => exact (alike_issue h (hop x rfl) hd).answered _
  | issueAll x specs => exact (alike_issueAll h (hop x rfl) hd).answered _
  | revise x _ _ _ | revoke x _ | revokeAll x | prune x | setMints x _ =>
      exact alike_edit h (hop x rfl) rfl hd
  | execute x signer request source? destination? =>
      exact (alike_execute h (hop x rfl) signer request source? destination?).answered _
  | approve x tokenAccount mint delegate amount =>
      exact (alike_approve h (hop x rfl) tokenAccount mint delegate amount).answered _
  | revokeDelegate x tokenAccount =>
      exact (alike_revokeDelegate h (hop x rfl) tokenAccount).answered _
  | delegatedTransfer x signer source destination mint delegate amount =>
      exact (alike_delegatedTransfer h (hop x rfl) signer source destination mint delegate
        amount).answered _
  -- A question is answered from the account alone, and from what the two worlds share.
  | account x => exact alike_asked h _ (hload x rfl)
  | key x key => exact alike_asked h _ (by rw [World.key, World.key, hload x rfl])
  | statuses x => exact alike_asked h _ (by rw [statuses, hload x rfl]; rfl)
  | activeKeys x => exact alike_asked h _ (by rw [activeKeys, hload x rfl]; rfl)
  | expiringKeys x within => exact alike_asked h _ (by rw [expiringKeys, hload x rfl]; rfl)
  | isKeyValid x key => exact alike_asked h _ (by rw [isKeyValid, hload x rfl]; rfl)
  | expectedDelegate x mint =>
      have hstore : (w.withStore s).store.load x = w.store.load x := h.load_eq (hop x rfl)
      exact alike_asked h _ (by rw [expectedDelegate, hstore]; rfl)
  | moveClock time? height? => exact alike_setClock h _
  | advanceClock seconds height => exact alike_setClock h _
  | ledger l => exact h.alike_of_same (u := (w.step (.ledger l)).2) rfl rfl (w.step (.ledger l)).1
  | tokens t => exact h.alike_of_same (u := (w.step (.tokens t)).2) rfl rfl (w.step (.tokens t)).1

/-! ## Runs -/

theorem mirroredBy_run {ops : List Operation} (h : w.MirroredBy s)
    (hops : ∀ op ∈ ops, ∀ x ∈ op.authority?, Folder.Nameable x)
    (hd : ∀ pre, pre <+: ops → (w.run pre).store.Documented) :
    ∃ s', (w.withStore s).run ops = (w.run ops).withStore s' ∧ (w.run ops).MirroredBy s' := by
  induction ops generalizing w s with
  | nil => exact ⟨s, rfl, h⟩
  | cons op ops ih =>
      obtain ⟨-, s₁, hs₁, h₁⟩ :=
        alike_step h (hops op List.mem_cons_self) (hd [op] (List.prefix_append [op] ops))
      obtain ⟨s', hs', h'⟩ := ih h₁ (fun op' hop' => hops op' (List.mem_cons_of_mem op hop'))
        fun pre hpre => hd (op :: pre) ((List.prefix_cons_inj op).2 hpre)
      refine ⟨s', ?_, h'⟩
      rw [run, List.foldl_cons, hs₁]
      exact hs'

/-- In an empty folder, as in an empty memory, there are no accounts. -/
theorem mirroredBy_empty (hw : w.store = .memory []) : w.MirroredBy (.folder {}) :=
  ⟨[], {}, hw, rfl, ⟨⟨⟨rfl, rfl, nofun⟩, List.nodup_nil, nofun⟩, rfl⟩⟩

/--
A folder in the place of memory. Starting with no accounts, whatever operations are done one after
the other, each of them is answered alike, by the same answer or the same fault, whether accounts
are kept in memory or in a folder. After any of them the two worlds are the same but for where the
accounts are kept, and show the same authorities and, under every authority, the same account or
none. The authorities are to be short enough for the name of a file, and the documents of the
accounts such that they can be written; they are then read back as they were.
-/
theorem folder_like_memory {ops : List Operation} (hw : w.store = .memory [])
    (hnames : ∀ op ∈ ops, ∀ x ∈ op.authority?, Folder.Nameable x)
    (hdocs : ∀ pre, pre <+: ops → (w.run pre).store.Documented) :
    (∀ pre op, pre ++ [op] <+: ops →
      (((w.withStore (.folder {})).run pre).step op).1 = ((w.run pre).step op).1) ∧
    ∀ pre, pre <+: ops → ∃ s : Store,
      (w.withStore (.folder {})).run pre = (w.run pre).withStore s ∧
      s.authorities = (w.run pre).store.authorities ∧
      ∀ x, Folder.Nameable x →
        s.contains x = (w.run pre).store.contains x ∧ s.load x = (w.run pre).store.load x := by
  have hrun : ∀ pre, pre <+: ops → ∃ s,
      (w.withStore (.folder {})).run pre = (w.run pre).withStore s ∧ (w.run pre).MirroredBy s :=
    fun pre hpre => mirroredBy_run (mirroredBy_empty hw) (fun op hop => hnames op (hpre.subset hop))
      fun pre' hpre' => hdocs pre' (hpre'.trans hpre)
  constructor
  · intro pre op hpre
    obtain ⟨s, hs, h⟩ := hrun pre ((List.prefix_append pre [op]).trans hpre)
    have hop : op ∈ ops := hpre.subset (by simp)
    have hd := hdocs _ hpre
    rw [run_append] at hd
    rw [hs]
    exact (alike_step h (hnames op hop) hd).1
  · intro pre hpre
    obtain ⟨s, hs, h⟩ := hrun pre hpre
    exact ⟨s, hs, h.authorities_eq, fun x hx => ⟨h.contains_eq hx, h.load_eq hx⟩⟩

/-- Opening an account in a folder and issuing a key to it. -/
theorem folder_like_memory_issue :
    let w := World.empty "1"
    let w' := w.withStore (.folder {})
    let spec : KeySpec := { key := "2", expiresAt := 1 }
    let ops : List Operation := [.openAccount "1", .issue "1" spec]
    ((w'.run [.openAccount "1"]).step (.issue "1" spec)).1 =
        ((w.run [.openAccount "1"]).step (.issue "1" spec)).1 ∧
      ∃ s a, w'.run ops = (w.run ops).withStore s ∧ s.load "1" = .ok a ∧
        a.keys.keys.map SessionKey.identity = ["2"] := by
  intro w w' spec ops
  obtain ⟨a, ha⟩ := Account.exists_opened
  have hsound := Account.sound_opened ha
  have hkeys := Account.keys_opened ha
  have he : (Operation.issue "1" spec).edit? = some ("1", .issue "2" 1 .time {} Label.blank) := rfl
  have hfuture : (⟨0, 0⟩ : Reading).current .time < 1 := by decide
  have hlabel : Label.blank.length = Label.size := by decide
  obtain ⟨a', hedit, hkeys'⟩ := Account.edit_opened ha "2" hfuture {} hlabel
  have hsound' := hsound.edit hedit
  have hopened : w.run [.openAccount "1"] = w.withStore (.memory [("1", a)]) := by
    have hrun : w.run [.openAccount "1"] = (w.step (.openAccount "1")).2 := w.run_append [] _
    rw [hrun, step_openAccount_empty ha]
    rfl
  obtain ⟨answer, sink, hissued⟩ :=
    step_edit_memory (w := w.withStore (.memory [("1", a)])) rfl hsound he hedit
  have hdone : (w.run ops).store = .memory [("1", a')] := by
    have hrun : w.run ops = ((w.run [.openAccount "1"]).step (.issue "1" spec)).2 :=
      w.run_append [.openAccount "1"] _
    rw [hrun, hopened, hissued]
  have hdocs : ∀ pre, pre <+: ops → (w.run pre).store.Documented := by
    intro pre hpre
    rcases List.prefix_cons_iff.1 hpre with rfl | ⟨t, rfl, ht⟩
    · exact nofun
    rcases List.prefix_cons_iff.1 ht with rfl | ⟨u, rfl, hu⟩
    · rw [hopened]
      exact hsound.documented_singleton (by rw [hkeys]; exact nofun)
    · rw [List.prefix_nil.1 hu, hdone]
      apply hsound'.documented_singleton
      rw [hkeys']
      intro k hk
      rw [List.mem_singleton.1 hk]
      exact SessionKey.isWritable_iff.2
        ⟨Text.Integer.isTooLong_of_lt (by decide), Text.Integer.isTooLong_of_lt (by decide)⟩
  have hnames : ∀ op ∈ ops, ∀ x ∈ op.authority?, Folder.Nameable x := by
    have hone : ∀ op ∈ ops, op.authority? = some "1" := by
      simp [ops, Operation.authority?]
    intro op hop x hx
    rw [hone op hop] at hx
    obtain rfl := Option.some.inj hx
    decide
  obtain ⟨hanswers, hstores⟩ := folder_like_memory (w := w) rfl hnames hdocs
  obtain ⟨s, hs, -, hlookups⟩ := hstores ops (List.prefix_refl ops)
  refine ⟨hanswers _ _ (List.prefix_refl ops), s, a', hs, ?_, by rw [hkeys']; rfl⟩
  rw [(hlookups "1" (by decide)).2, hdone]
  exact hsound'.holds_singleton.load_of_some rfl

end World

end Keyring
