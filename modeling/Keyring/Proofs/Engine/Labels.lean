import Keyring.Proofs.Engine.Issuing
import Keyring.Proofs.Engine.Lifetime
import Keyring.Proofs.Store.Saves

/-!
# The label of a key

A key is issued with the label of a text and has it for good: no store changes an account that it
keeps, and no operation changes the label of a key that stays. So the label is read as its text
without the zeros at the end of it, however often the account has been saved and loaded since.
-/

namespace Keyring

open Outcome

/-! ## From store to store -/

namespace Store

/-- What becomes of an account that is saved to one store after the other, and goes on each time as
what is then found there under its authority. -/
def relay : List Store → Account → Outcome Account
  | [], a => .ok a
  | s :: ss, a => do
    let s ← s.save a
    let a ← s.load a.authority
    relay ss a

variable {a b : Account}

/-- An account within its limits comes through unchanged, unless one of the stores refuses it. -/
theorem relay_eq_ok_iff (ha : a.WellFormed) (ss : List Store) :
    relay ss a = .ok b ↔ b = a ∧ ∀ s ∈ ss, ∃ s', s.save a = .ok s' := by
  induction ss with
  | nil => simp [relay, eq_comm]
  | cons s ss ih =>
      rw [relay, bind_eq_ok, List.forall_mem_cons]
      constructor
      · rintro ⟨s', hs', h⟩
        rw [load_save ha hs', ok_bind] at h
        obtain ⟨rfl, hss⟩ := ih.1 h
        exact ⟨rfl, ⟨s', hs'⟩, hss⟩
      · rintro ⟨rfl, ⟨s', hs'⟩, hss⟩
        refine ⟨s', hs', ?_⟩
        rw [load_save ha hs', ok_bind]
        exact ih.2 ⟨rfl, hss⟩

end Store

namespace World

variable {w v : World} {x : String} {s : KeySpec} {k : SessionKey}

/-- What has happened when a key was issued. -/
theorem issue_eq_ok (h : w.issue x s = (.ok k, v)) :
    Label.ofText? s.label = some k.label ∧ k.identity = s.key ∧ v.program = w.program ∧
      ∃ a, w.store.load x = .ok a ∧ a.keys.find? s.key = none ∧ (a.extended k).WellFormed ∧
        w.store.save (a.extended k) = .ok v.store := by
  rw [issue_eq] at h
  split at h
  next => cases h
  next => cases h
  next unit label hunit hlabel =>
    rcases w.changed_cases x (Account.issue w.clock s.key s.expiresAt unit s.permissions label)
        fun _ => some (.keyCreated s.key s.expiresAt unit.name s.permissions.toJson) with
      ⟨f, w', hf, -⟩ | ⟨a, l, a', st, hload, hissue, hsave, hok⟩
    · rw [hf] at h
      cases h
    · rw [hok] at h
      obtain ⟨hl, rfl⟩ := Prod.mk.inj h
      obtain rfl := Except.ok.inj hl
      obtain ⟨hfits, rfl, rfl⟩ := Account.issue_eq_ok_iff.1 hissue
      have hedit := Account.edit_eq_ok_iff.2 ⟨hfits, rfl⟩
      exact ⟨hlabel, rfl, rfl, a, hload, hfits.2.2.2,
        (Store.wellFormed_of_load hload).edit hedit, hsave⟩

/-- Labels. A text has one just when UTF-8 takes no more than 32 bytes for it, and then the
label has 32. Two texts have the same label just when one text, with zero characters behind
it, gives both.

A key that is issued has the label of the text that was asked for. From then on it is found in the
account with that text, but for the zero characters at the end: after the account has been saved to
any stores and loaded again, which goes through as long as each of them takes the account, and after
any run of operations that does not issue the key anew, as long as no pruning drops it.
-/
theorem labels_of_issued_keys :
    (∀ t, (∃ label, Label.ofText? t = some label) ↔ t.utf8ByteSize ≤ 32) ∧
    (∀ t label, Label.ofText? t = some label → label.length = 32) ∧
    (∀ t u label label', Label.ofText? t = some label → Label.ofText? u = some label' →
      (label = label' ↔ ∃ v m n, t = Label.padded v m ∧ u = Label.padded v n)) ∧
    ∀ (w v : World) (x : String) (s : KeySpec) (k : SessionKey), w.issue x s = (.ok k, v) →
      Label.ofText? s.label = some k.label ∧ k.labelText = Label.bare s.label ∧
      ∃ a, w.store.load x = .ok a ∧ v.store.load a.authority = .ok (a.extended k) ∧
        (a.extended k).keys.find? s.key = some k ∧
        (∀ stores, (∃ b, Store.relay stores (a.extended k) = .ok b) ↔
          ∀ st ∈ stores, ∃ st', st.save (a.extended k) = .ok st') ∧
        (∀ stores b, Store.relay stores (a.extended k) = .ok b →
          ∃ l, b.keys.find? s.key = some l ∧ l.labelText = Label.bare s.label) ∧
        (w.store.Reachable w.program → ∀ ops, v.NeverIssues x s.key ops →
          (∃ l, (v.run ops).keyAt? x s.key = some l ∧ l.labelText = Label.bare s.label) ∨
            v.Drops x s.key ops) := by
  refine ⟨?_, fun t label => Label.length_of_ofText?, ?_, ?_⟩
  · intro t
    rw [← not_iff_not, Nat.not_le, ← Option.isSome_iff_exists, Option.not_isSome_iff_eq_none]
    exact Label.ofText?_eq_none_iff
  · intro t u label label' ht hu
    rw [Label.eq_iff_of_ofText? ht hu, Label.bare_eq_bare_iff]
  · intro w v x s k h
    obtain ⟨hlabel, hid, hprogram, a, hload, hnone, hwf, hsave⟩ := issue_eq_ok h
    have htext : k.labelText = Label.bare s.label := Label.text_of_ofText? hlabel
    have hfind : (a.extended k).keys.find? s.key = some k :=
      (Registry.find?_append s.key (hid ▸ hnone)).trans (if_pos hid.symm)
    refine ⟨hlabel, htext, a, hload, Store.load_save hwf hsave, hfind, ?_, ?_, ?_⟩
    · intro stores
      simp only [Store.relay_eq_ok_iff hwf, exists_eq_left]
    · intro stores b hb
      obtain ⟨rfl, -⟩ := (Store.relay_eq_ok_iff hwf stores).1 hb
      exact ⟨k, hfind, htext⟩
    · intro hreach ops hops
      have hv : (w.step (.issue x s)).2 = v := congrArg Prod.snd h
      have hreach' : v.store.Reachable v.program := by
        rw [hprogram, ← hv]
        exact hreach.step (.issue x s) rfl
      have hx : v.store.load x = .ok (a.extended k) := by
        have hauthority := (hreach.sound hload).authority
        rw [← hauthority]
        exact Store.load_save hwf hsave
      obtain ⟨a', ha', -, ⟨l, hl, hcont, -⟩ | ⟨-, hdrops⟩⟩ :=
        run_key (has_of_load hreach' hx) hfind ops hops
      · exact .inl ⟨l, (ha'.keyAt? s.key).trans hl, (congrArg Label.text hcont.label).trans htext⟩
      · exact .inr hdrops

/-- A text of 32 bytes that ends in a character of two, and one with zeros before it and behind it.
The second goes through memory, a folder and memory again, and is read without those behind it. -/
theorem labels_of_issued_keys_padded :
    let full := String.ofList (List.replicate 30 'a' ++ ['é'])
    let request (label : String) : KeySpec := { key := "2", expiresAt := 1, label }
    (∃ label, Label.ofText? full = some label) ∧ Label.ofText? (full ++ "a") = none ∧
    ∃ (w v : World) (k : SessionKey) (a : Account),
      w.issue "1" (request "\x00é\x00\x00") = (.ok k, v) ∧ v.store.load "1" = .ok a ∧
      (∃ b l, Store.relay [.memory [], .folder {}, .memory []] a = .ok b ∧
        b.keys.find? "2" = some l ∧ l.labelText = "\x00é") ∧
      ∀ label, Label.ofText? "\x00é" = some label → label = k.label := by
  intro full request
  obtain ⟨hfits, -, hsame, hkeys⟩ := labels_of_issued_keys
  obtain ⟨a, ha⟩ := Account.exists_opened
  have hnone := Account.keys_opened ha
  let w : World := { World.empty "1" with store := .memory [("1", a)] }
  let k : SessionKey := (request "\x00é\x00\x00").issued w.clock .time
  have hreach : w.store.Reachable "1" := .opened ha
  have hload : w.store.load "1" = .ok a :=
    Account.ofJson_toJson (Account.sound_opened ha).wellFormed
  have hadmits : w.Admits "1" (request "\x00é\x00\x00") .time a :=
    ⟨⟨rfl, by decide⟩, hload, Int.zero_lt_one, by rw [hnone]; decide, by rw [hnone]; exact nofun⟩
  have hsound : (a.extended k).Sound "1" "1" := hadmits.sound hreach
  obtain ⟨v, hok, hst⟩ : ∃ v, w.issue "1" (request "\x00é\x00\x00") = (.ok k, v) ∧
      v.store.load "1" = .ok (a.extended k) := by
    rw [issue_of_sensible hadmits.toSensible]
    rcases changed_of_agreed hreach hload (hadmits.issue hreach) hsound _ with
      ⟨hwrite, -⟩ | ⟨-, st, -, hputs, hok⟩
    · cases hwrite
    · exact ⟨_, hok, hputs.here⟩
  obtain ⟨hlabel, -, b, hb, -, -, hthrough, hread, -⟩ := hkeys _ _ _ _ k hok
  obtain rfl : a = b := Except.ok.inj (hload.symm.trans hb)
  have hwritable : (a.extended k).toJson.isWritable = true := by
    refine hsound.isWritable_iff.2 fun l hl => ?_
    rw [Account.extended, hnone] at hl
    rw [List.mem_singleton.1 hl]
    have hcreated : Text.Integer.isTooLong 0 = false := Text.Integer.isTooLong_of_lt (by decide)
    have hexpires : Text.Integer.isTooLong 1 = false := Text.Integer.isTooLong_of_lt (by decide)
    exact SessionKey.isWritable_iff.2 ⟨hcreated, hexpires⟩
  have hmemory : ∃ st', (Store.memory []).save (a.extended k) = .ok st' :=
    ⟨_, by rw [Store.save_memory_eq, Account.ofJson_toJson hsound.wellFormed]; rfl⟩
  have hfolder : ∃ st', (Store.folder {}).save (a.extended k) = .ok st' :=
    Store.exists_save_folder hwritable (by rw [hsound.authority]; exact ⟨rfl, rfl⟩)
  obtain ⟨c, hc⟩ := (hthrough [.memory [], .folder {}, .memory []]).2 (by simp [hmemory, hfolder])
  obtain ⟨l, hl, htext⟩ := hread _ c hc
  refine ⟨(hfits full).2 (by decide), Label.ofText?_eq_none_iff.2 (by decide), w, _, k,
    a.extended k, hok, hst, ⟨c, l, hc, hl, htext.trans (by decide)⟩, ?_⟩
  intro label hbare
  exact (hsame _ _ label k.label hbare hlabel).2 ⟨"\x00é", 0, 2, by decide, by decide⟩

end World

end Keyring
