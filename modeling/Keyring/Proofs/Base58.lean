import Keyring.Base58
import Keyring.Proofs.Outcome
import Keyring.Proofs.Radix

/-!
# Identities and their bytes

Encoding turns a numeral of base 256 into one of base 58, and decoding turns it back, so each is
`Radix.rebase` between two ways of writing digits. An identity is decoded just to the bytes that it
is the encoding of: distinct byte strings have distinct identities, and distinct identities stand
for distinct byte strings.
-/

namespace Keyring.Base58

open Radix (leading numeral rebase value)

/-! ## Letters -/

theorem value?_letter : ∀ d < 58, value? (letter d) = some d := by decide

theorem value?_eq_some_iff {c : Char} {d : Nat} : value? c = some d ↔ d < 58 ∧ letter d = c := by
  constructor
  · intro h
    obtain ⟨hlt, hget, -⟩ := List.findIdx?_eq_some_iff_getElem.1 h
    have hletter : letter d = alphabet[d] := by
      rw [letter, List.getD_eq_getElem?_getD, List.getElem?_eq_getElem hlt, Option.getD_some]
    exact ⟨hlt, hletter.trans (eq_of_beq hget)⟩
  · rintro ⟨hlt, rfl⟩
    exact value?_letter d hlt

theorem value?_eq_none_iff {c : Char} : value? c = none ↔ c ∉ alphabet := by
  rw [value?, List.findIdx?_eq_none_iff]
  constructor
  · intro h hc
    have hself := h c hc
    rw [beq_self_eq_true] at hself
    cases hself
  · intro h d hd
    rw [beq_eq_false_iff_ne]
    rintro rfl
    exact h hd

theorem letter_mem {d : Nat} (hd : d < 58) : letter d ∈ alphabet := by
  by_contra h
  have hnone := value?_eq_none_iff.2 h
  rw [value?_letter d hd] at hnone
  cases hnone

/-! ## Texts and their digits -/

variable {cs : List Char} {ds : List Nat}

theorem values_letters (hlt : ∀ d ∈ ds, d < 58) : values (ds.map letter) = .ok ds := by
  induction ds with
  | nil => rfl
  | cons d ds ih =>
      have hrest := ih fun e he => hlt e (List.mem_cons_of_mem d he)
      rw [List.map_cons, values, value?_letter d (hlt d List.mem_cons_self), hrest]
      rfl

theorem letters_of_values (h : values cs = .ok ds) : (∀ d ∈ ds, d < 58) ∧ ds.map letter = cs := by
  induction cs generalizing ds with
  | nil =>
      obtain rfl := Except.ok.inj h
      exact ⟨nofun, rfl⟩
  | cons c cs ih =>
      rw [values] at h
      cases hc : value? c with
      | none =>
          rw [hc] at h
          cases h
      | some d =>
          simp only [hc] at h
          obtain ⟨es, hes, rfl⟩ := Outcome.map_eq_ok.1 h
          obtain ⟨hd, rfl⟩ := value?_eq_some_iff.1 hc
          obtain ⟨hlt, rfl⟩ := ih hes
          exact ⟨List.forall_mem_cons.2 ⟨hd, hlt⟩, rfl⟩

/-- Digits are missing for the first character outside the alphabet. -/
theorem values_eq_error_iff {c : Char} : values cs = .error c ↔
    ∃ before after, cs = before ++ c :: after ∧ (∀ d ∈ before, d ∈ alphabet) ∧ c ∉ alphabet := by
  induction cs with
  | nil => simp [values]
  | cons b cs ih =>
      rw [values]
      cases hb : value? b with
      | none =>
          have hout := value?_eq_none_iff.1 hb
          constructor
          · intro h
            obtain rfl := Except.error.inj h
            exact ⟨[], cs, rfl, nofun, hout⟩
          · rintro ⟨before, after, hcs, hin, -⟩
            cases before with
            | nil =>
                obtain ⟨rfl, -⟩ := List.cons.inj hcs
                rfl
            | cons d before =>
                obtain ⟨rfl, -⟩ := List.cons.inj hcs
                exact absurd (hin b List.mem_cons_self) hout
      | some d =>
          have hmem : b ∈ alphabet := by
            obtain ⟨hd, rfl⟩ := value?_eq_some_iff.1 hb
            exact letter_mem hd
          have hmap : (values cs).map (d :: ·) = .error c ↔ values cs = .error c := by
            cases values cs <;> simp [Except.map]
          rw [hmap, ih]
          constructor
          · rintro ⟨before, after, rfl, hin, hout⟩
            exact ⟨b :: before, after, rfl, List.forall_mem_cons.2 ⟨hmem, hin⟩, hout⟩
          · rintro ⟨before, after, hcs, hin, hout⟩
            cases before with
            | nil =>
                obtain ⟨rfl, -⟩ := List.cons.inj hcs
                exact absurd hmem hout
            | cons e before =>
                obtain ⟨rfl, rfl⟩ := List.cons.inj hcs
                exact ⟨before, after, rfl, fun x hx => hin x (List.mem_cons_of_mem b hx), hout⟩

/-! ## Bytes and their digits -/

variable {bs : Bytes} {s : String}

theorem toNat_lt_of_mem {d : Nat} (hd : d ∈ bs.map UInt8.toNat) : d < 256 := by
  obtain ⟨b, -, rfl⟩ := List.mem_map.1 hd
  exact b.toNat_lt

theorem map_ofNat_toNat (bs : Bytes) : (bs.map UInt8.toNat).map UInt8.ofNat = bs := by
  rw [List.map_map]
  exact (List.map_congr_left fun b _ => UInt8.ofNat_toNat).trans (List.map_id bs)

theorem map_toNat_ofNat (hlt : ∀ d ∈ ds, d < 256) : (ds.map UInt8.ofNat).map UInt8.toNat = ds := by
  rw [List.map_map]
  exact (List.map_congr_left fun d hd => UInt8.toNat_ofNat_of_lt' (hlt d hd)).trans (List.map_id ds)

/-! ## Both ways -/

theorem leading_bytes (bs : Bytes) :
    (bs.takeWhile (· == 0)).length = leading (bs.map UInt8.toNat) := by
  have hzero : ((· == 0) ∘ UInt8.toNat) = fun b : UInt8 => b == 0 := by
    funext b
    have hb : b.toNat = 0 ↔ b = 0 := UInt8.toNat_inj (b := 0)
    rw [Function.comp_apply, Bool.eq_iff_iff, beq_iff_eq, beq_iff_eq, hb]
  rw [leading, List.takeWhile_map, List.length_map, hzero]

theorem leading_letters (hlt : ∀ d ∈ ds, d < 58) :
    ((ds.map letter).takeWhile (· == '1')).length = leading ds := by
  have hzero : ∀ d < 58, (letter d == '1') = (d == 0) := by decide
  induction ds with
  | nil => rfl
  | cons d ds ih =>
      have hrest := ih fun e he => hlt e (List.mem_cons_of_mem d he)
      rw [leading] at hrest ⊢
      rw [List.map_cons, List.takeWhile_cons, List.takeWhile_cons,
        hzero d (hlt d List.mem_cons_self)]
      split
      next => rw [List.length_cons, List.length_cons, hrest]
      next => rfl

theorem encodeChars_eq (bs : Bytes) :
    encodeChars bs = (rebase 256 58 (bs.map UInt8.toNat)).map letter := by
  have hvalue : Bytes.toNatBE bs = value 256 (bs.map UInt8.toNat) := by
    rw [Bytes.toNatBE, Bytes.toNatLE, value, List.map_reverse]
  rw [encodeChars, leading_bytes, hvalue, rebase, numeral, List.map_append, List.map_replicate,
    List.map_reverse]
  rfl

theorem decode_of_values (hs : s.toList ≠ []) (h : values s.toList = .ok ds) :
    decode s = .ok ((rebase 58 256 ds).map UInt8.ofNat) := by
  obtain ⟨hlt, hletters⟩ := letters_of_values h
  have hzeros : (s.toList.takeWhile (· == '1')).length = leading ds := by
    rw [← hletters]
    exact leading_letters hlt
  rw [decode]
  split
  next hnil => exact absurd hnil hs
  next =>
    rw [h]
    simp only [hzeros, rebase, numeral, Bytes.ofNatBE, value, List.map_append, List.map_replicate,
      List.map_reverse]
    rfl

theorem decode_encode (hbs : bs ≠ []) : decode (encode bs) = .ok bs := by
  have hchars : (encode bs).toList = (rebase 256 58 (bs.map UInt8.toNat)).map letter := by
    rw [encode, String.toList_ofList, encodeChars_eq]
  have hne : (encode bs).toList ≠ [] := by
    rw [hchars, Ne, List.map_eq_nil_iff]
    exact Radix.rebase_ne_nil (by decide) (by decide) (fun _ => toNat_lt_of_mem)
      (mt List.map_eq_nil_iff.1 hbs)
  have hvalues : values (encode bs).toList = .ok (rebase 256 58 (bs.map UInt8.toNat)) := by
    rw [hchars]
    exact values_letters fun _ => Radix.lt_of_mem_rebase (by decide)
  rw [decode_of_values hne hvalues,
    Radix.rebase_rebase (by decide) (by decide) fun _ => toNat_lt_of_mem, map_ofNat_toNat]

/-- What is decoded is the encoding of what it is decoded to. -/
theorem encode_of_decode (h : decode s = .ok bs) : bs ≠ [] ∧ encode bs = s := by
  have hs : s.toList ≠ [] := by
    intro hnil
    rw [decode, hnil] at h
    cases h
  cases hv : values s.toList with
  | error c =>
      rw [decode] at h
      split at h
      next => cases h
      next =>
        rw [hv] at h
        cases h
  | ok ds =>
      rw [decode_of_values hs hv] at h
      obtain rfl := Except.ok.inj h
      obtain ⟨hlt, hletters⟩ := letters_of_values hv
      have hds : ds ≠ [] := by
        rintro rfl
        exact hs hletters.symm
      refine ⟨?_, ?_⟩
      · rw [Ne, List.map_eq_nil_iff]
        exact Radix.rebase_ne_nil (by decide) (by decide) hlt hds
      · have hback : rebase 256 58 (rebase 58 256 ds) = ds :=
          Radix.rebase_rebase (by decide) (by decide) hlt
        rw [← String.toList_inj, encode, String.toList_ofList, encodeChars_eq,
          map_toNat_ofNat fun _ => Radix.lt_of_mem_rebase (by decide), hback, hletters]

/-- A text is refused if it is empty, or for its first character outside the alphabet. -/
theorem decode_eq_error_iff {e : Error} : decode s = .error e ↔
    (s.toList = [] ∧ e = .empty) ∨
      ∃ before c after, s.toList = before ++ c :: after ∧ (∀ d ∈ before, d ∈ alphabet) ∧
        c ∉ alphabet ∧ e = .badCharacter c s := by
  by_cases hs : s.toList = []
  · rw [decode, hs]
    simp [eq_comm]
  · cases hv : values s.toList with
    | ok ds =>
        rw [decode_of_values hs hv]
        obtain ⟨hlt, hletters⟩ := letters_of_values hv
        constructor
        · nofun
        · rintro (⟨hnil, -⟩ | ⟨before, c, after, hcs, hin, hout, -⟩)
          · exact absurd hnil hs
          · have herror := values_eq_error_iff.2 ⟨before, after, hcs, hin, hout⟩
            rw [hv] at herror
            cases herror
    | error c =>
        have herror : decode s = .error (.badCharacter c s) := by
          rw [decode]
          split
          next hnil => exact absurd hnil hs
          next => rw [hv]
        rw [herror]
        obtain ⟨before, after, hcs, hin, hout⟩ := values_eq_error_iff.1 hv
        constructor
        · intro h
          obtain rfl := Except.error.inj h
          exact .inr ⟨before, c, after, hcs, hin, hout, rfl⟩
        · rintro (⟨hnil, -⟩ | ⟨before', c', after', hcs', hin', hout', rfl⟩)
          · exact absurd hnil hs
          · have hsame := values_eq_error_iff.2 ⟨before', after', hcs', hin', hout'⟩
            rw [hv] at hsame
            rw [Except.error.inj hsame]

/-! ## One text for each byte string -/

theorem mem_alphabet_of_decode (h : decode s = .ok bs) : ∀ c ∈ s.toList, c ∈ alphabet := by
  obtain ⟨-, rfl⟩ := encode_of_decode h
  intro c hc
  rw [encode, String.toList_ofList, encodeChars_eq] at hc
  obtain ⟨d, hd, rfl⟩ := List.mem_map.1 hc
  exact letter_mem (Radix.lt_of_mem_rebase (by decide) hd)

/-- Every byte takes two letters at the most. -/
theorem length_encode_le (bs : Bytes) : (encode bs).toList.length ≤ 2 * bs.length := by
  have hbytes : ∀ d ∈ bs.map UInt8.toNat, d < 256 := fun _ => toNat_lt_of_mem
  have hlen := Radix.length_rebase_le (c := 58) (k := 2) (by decide) (by decide) (by decide) hbytes
  rw [List.length_map] at hlen
  rw [encode, String.toList_ofList, encodeChars_eq, List.length_map]
  exact hlen

theorem exists_error_iff :
    (∃ e, decode s = .error e) ↔ s.toList = [] ∨ ∃ c ∈ s.toList, c ∉ alphabet := by
  constructor
  · rintro ⟨e, he⟩
    rcases decode_eq_error_iff.1 he with ⟨hnil, -⟩ | ⟨before, c, after, hcs, -, hout, -⟩
    · exact .inl hnil
    · exact .inr ⟨c, hcs ▸ List.mem_append_right before List.mem_cons_self, hout⟩
  · intro h
    cases hd : decode s with
    | error e => exact ⟨e, rfl⟩
    | ok bs =>
        exfalso
        rcases h with hnil | ⟨c, hc, hout⟩
        · rw [decode, hnil] at hd
          cases hd
        · exact hout (mem_alphabet_of_decode hd c hc)

theorem exists_decode (hs : s.toList ≠ []) (hin : ∀ c ∈ s.toList, c ∈ alphabet) :
    ∃ bs, decode s = .ok bs := by
  cases hd : decode s with
  | ok bs => exact ⟨bs, rfl⟩
  | error e =>
      exfalso
      rcases exists_error_iff.1 ⟨e, hd⟩ with hnil | ⟨c, hc, hout⟩
      · exact hs hnil
      · exact hout (hin c hc)

theorem encode_inj {cs : Bytes} (hbs : bs ≠ []) (hcs : cs ≠ []) :
    encode bs = encode cs ↔ bs = cs := by
  constructor
  · intro h
    have hdecode := decode_encode hbs
    rw [h, decode_encode hcs] at hdecode
    exact (Except.ok.inj hdecode).symm
  · rintro rfl
    rfl

theorem isIdentity_iff :
    isIdentity s = true ↔ ∃ bs, bs.length = identitySize ∧ decode s = .ok bs := by
  rw [isIdentity]
  cases decode s with
  | error e => simp
  | ok bs => simp

/--
Byte strings and their texts. Every byte string but the empty one is read back from its text, and
every text over the alphabet but the empty one is the text of what it is decoded to. The others are
refused: the empty text as such, any other for its first character outside the alphabet. So two
identities are equal just when their bytes are, and an identity of the right size is the text of
one and only one byte string of 32 bytes.
-/
theorem texts_are_bytes :
    (∀ bs : Bytes, bs ≠ [] → decode (encode bs) = .ok bs) ∧
    (∀ s : String, s.toList ≠ [] → (∀ c ∈ s.toList, c ∈ alphabet) →
      ∃ bs, decode s = .ok bs ∧ encode bs = s) ∧
    (∀ s : String, (∃ e, decode s = .error e) ↔ s.toList = [] ∨ ∃ c ∈ s.toList, c ∉ alphabet) ∧
    (∀ (s : String) (e : Error), decode s = .error e ↔
      (s.toList = [] ∧ e = .empty) ∨
        ∃ before c after, s.toList = before ++ c :: after ∧ (∀ d ∈ before, d ∈ alphabet) ∧
          c ∉ alphabet ∧ e = .badCharacter c s) ∧
    (∀ (s t : String) (bs cs : Bytes), decode s = .ok bs → decode t = .ok cs →
      (s = t ↔ bs = cs)) ∧
    ∀ s : String, isIdentity s = true ↔ ∃! bs : Bytes, bs.length = 32 ∧ s = encode bs := by
  refine ⟨fun bs => decode_encode, ?_, fun s => exists_error_iff, fun s e => decode_eq_error_iff,
    ?_, ?_⟩
  · intro s hs hin
    obtain ⟨bs, hbs⟩ := exists_decode hs hin
    exact ⟨bs, hbs, (encode_of_decode hbs).2⟩
  · intro s t bs cs hs ht
    obtain ⟨hbs, rfl⟩ := encode_of_decode hs
    obtain ⟨hcs, rfl⟩ := encode_of_decode ht
    exact encode_inj hbs hcs
  · intro s
    rw [isIdentity_iff]
    constructor
    · rintro ⟨bs, hlength, hs⟩
      obtain ⟨hbs, rfl⟩ := encode_of_decode hs
      refine ⟨bs, ⟨hlength, rfl⟩, ?_⟩
      rintro cs ⟨hcs, heq⟩
      have hne : cs ≠ [] := List.ne_nil_of_length_pos (by omega)
      exact (encode_inj hne hbs).1 heq.symm
    · rintro ⟨bs, ⟨hlength, rfl⟩, -⟩
      exact ⟨bs, hlength, decode_encode (List.ne_nil_of_length_pos (by omega))⟩

/-- Two leading zeros stay, in bytes and in a text. -/
theorem texts_are_bytes_leading : decode (encode [0, 0, 255]) = .ok [0, 0, 255] ∧
    (∃ bs, decode "11z" = .ok bs ∧ encode bs = "11z") ∧
    (encode [0, 0, 255] = encode [0, 255] ↔ ([0, 0, 255] : Bytes) = [0, 255]) := by
  obtain ⟨hbytes, htexts, -, -, hinj, -⟩ := texts_are_bytes
  have hall : ("11z".toList.all alphabet.contains) = true := by decide
  have hin : ∀ c ∈ "11z".toList, c ∈ alphabet := fun c hc =>
    List.contains_iff_mem.1 (List.all_eq_true.1 hall c hc)
  exact ⟨hbytes _ (by decide), htexts "11z" (by decide) hin,
    hinj _ _ _ _ (hbytes _ (by decide)) (hbytes _ (by decide))⟩

end Keyring.Base58
