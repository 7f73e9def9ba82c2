import Keyring.Proofs.Account.Built
import Keyring.Proofs.Store.Saves

/-!
# Reading back what has been saved

Both stores keep an account by its document, and both find after a save what the document is
read as. They differ in when they look at it: memory reads the document before it keeps the
account, and refuses what cannot be read, while a folder writes any document and finds out when
the account is loaded. An account can have been saved to a folder, then, and be there for good
without being loaded again.
-/

namespace Keyring.Store

variable {s s' : Store} {a : Account} {l : List (String × Account)}

/-- Memory keeps the accounts that can be read back, as they are read back, and no others. -/
theorem save_memory_eq_ok_iff (ha : a.Built) : (memory l).save a = .ok s' ↔
    a.Readable ∧ s' = .memory (putField a.authority a.reread l) := by
  constructor
  · intro hs
    obtain ⟨kept, hkept, rfl⟩ := save_memory_eq_ok hs
    obtain ⟨hreadable, rfl⟩ := ha.ofJson_toJson_eq_ok_iff.1 hkept
    exact ⟨hreadable, rfl⟩
  · rintro ⟨hreadable, rfl⟩
    rw [save_memory_eq, ha.ofJson_toJson_eq_ok_iff.2 ⟨hreadable, rfl⟩]
    rfl

/-- What is loaded after an account has been saved. Of all accounts that can be built, those are
loaded that are readable, and each as it is read back. The account that is loaded has the document
of the one that was saved just when that has no more keys than an owner may have, each with a label
of the right width. In memory every account that is saved is readable; so it differs from what is
loaded in no more than the labels that were empty.
-/
theorem saved_and_read_back (ha : a.Built) (hs : s.save a = .ok s') :
    (∀ b, s'.load a.authority = .ok b ↔ a.Readable ∧ b = a.reread) ∧
    ((∃ b, s'.load a.authority = .ok b ∧ b.toJson = a.toJson) ↔
      a.keys.size ≤ Registry.maxKeys ∧ ∀ k ∈ a.keys.keys, k.label.length = Label.size) ∧
    ((∃ l, s = .memory l) → a.Readable) := by
  obtain ⟨-, hload⟩ := found_save hs rfl
  rw [hload]
  refine ⟨fun b => ha.ofJson_toJson_eq_ok_iff, ha.same_document_iff, ?_⟩
  rintro ⟨l, rfl⟩
  exact ((save_memory_eq_ok_iff ha).1 hs).1

/-- An account of one key, in a registry for one, is saved in memory, and loaded with its document
and with room for more keys. -/
theorem saved_and_read_back_key :
    let k : SessionKey := { identity := "2", createdAt := 0, expiresAt := 1, unit := .time }
    let a : Account := ⟨"1", "p", 255, ⟨1, [k]⟩, ⟨[]⟩⟩
    a.Built ∧ ∃ s', (memory []).save a = .ok s' ∧
      ∃ b, s'.load "1" = .ok b ∧ b.toJson = a.toJson ∧ b.keys.capacity = 10 := by
  intro k a
  have hbuilt : a.Built := Account.built_iff.2
    ⟨⟨List.pairwise_singleton _ _, .inr (by decide)⟩, Nat.zero_le _, List.nodup_nil⟩
  have hlabels : ∀ l ∈ a.keys.keys, l.label.length = Label.size := by
    intro l hl
    rw [List.mem_singleton.1 hl]
    rfl
  have hsize : a.keys.size ≤ Registry.maxKeys := by decide
  have hsave := (save_memory_eq_ok_iff (l := []) hbuilt).2
    ⟨⟨hsize, fun l hl => .inr (hlabels l hl)⟩, rfl⟩
  obtain ⟨hread, hsame, -⟩ := saved_and_read_back hbuilt hsave
  obtain ⟨b, hb, hdocument⟩ := hsame.2 ⟨hsize, hlabels⟩
  obtain ⟨-, rfl⟩ := (hread b).1 hb
  exact ⟨hbuilt, _, hsave, _, hb, hdocument, rfl⟩

/-- Eleven keys in a registry of that capacity are saved to a folder, and never loaded again. An
empty label is saved in memory, and loaded as one of zero bytes. -/
theorem saved_and_lost :
    let key (identity : String) : SessionKey :=
      { identity, createdAt := 0, expiresAt := 1, unit := .time }
    let keys := ["a", "b", "c", "d", "e", "f", "g", "h", "i", "j", "k"].map key
    let many : Account := ⟨"1", "p", 255, ⟨11, keys⟩, ⟨[]⟩⟩
    let unlabelled : Account := ⟨"1", "p", 255, ⟨1, [{ key "2" with label := [] }]⟩, ⟨[]⟩⟩
    (many.Built ∧ ∃ s', (folder {}).save many = .ok s' ∧
      ∀ b, s'.load "1" ≠ .ok b) ∧
    (unlabelled.Built ∧ ∃ s', (memory []).save unlabelled = .ok s' ∧
      ∃ b, s'.load "1" = .ok b ∧ b.toJson ≠ unlabelled.toJson) := by
  intro key keys many unlabelled
  have hmany : many.Built := Account.built_iff.2
    ⟨⟨by decide, .inr (by decide)⟩, Nat.zero_le _, List.nodup_nil⟩
  have hunlabelled : unlabelled.Built := Account.built_iff.2
    ⟨⟨List.pairwise_singleton _ _, .inr (by decide)⟩, Nat.zero_le _, List.nodup_nil⟩
  constructor
  · have hshort : ∀ n ∈ [(0 : Int), 1, 255], Text.Integer.isTooLong n = false := by
      intro n hn
      refine Text.Integer.isTooLong_of_lt (Nat.lt_trans (m := 256) ?_ (by decide))
      simp only [List.mem_cons, List.not_mem_nil, or_false] at hn
      rcases hn with rfl | rfl | rfl <;> decide
    have hwritable : many.toJson.isWritable = true := by
      refine Account.isWritable_iff.2 ⟨hshort 255 (by decide), ?_⟩
      intro k hk
      obtain ⟨identity, -, rfl⟩ := List.mem_map.1 hk
      exact SessionKey.isWritable_iff.2 ⟨hshort 0 (by decide), hshort 1 (by decide)⟩
    have hplace : ({} : Folder).HasPlace "1" := ⟨rfl, rfl⟩
    obtain ⟨s', hsave⟩ := exists_save_folder (a := many) hwritable hplace
    refine ⟨hmany, s', hsave, fun b hb => ?_⟩
    rw [(found_save hsave rfl).2, hmany.ofJson_toJson_eq_ok_iff] at hb
    exact absurd hb.1.size (by decide)
  · have hlegible : ∀ k ∈ unlabelled.keys.keys, k.Legible := by
      intro k hk
      rw [List.mem_singleton.1 hk]
      exact .inl rfl
    have hsave := (save_memory_eq_ok_iff (l := []) hunlabelled).2 ⟨⟨by decide, hlegible⟩, rfl⟩
    have hload := (found_save hsave rfl).2.trans
      (hunlabelled.ofJson_toJson_eq_ok_iff.2 ⟨⟨by decide, hlegible⟩, rfl⟩)
    refine ⟨hunlabelled, _, hsave, _, hload, ?_⟩
    intro hsame
    exact Account.toJson_reread_iff.1 hsame _ (List.mem_singleton_self _) rfl

end Keyring.Store
