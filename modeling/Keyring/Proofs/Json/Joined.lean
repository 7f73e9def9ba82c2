import Mathlib.Data.List.Basic
import Keyring.Proofs.Json.Documents

/-!
# Documents behind other text

An object that stands behind other text, on one line with it, makes no document of that line:
either the text before it is at fault, or the object is more than there should be, or it
closes a quote that is open and what follows is its first field's name, or it stands in a
bracket that nothing closes.

`Leaves` says what the reader leaves of a text, without the fuel and the room that bound it. By
induction over it the reader, set on at some place before the object, never stops within it but
behind its first quote.
-/

namespace Keyring.Json.Reader

/-! ## What a reading leaves -/

namespace Nest

def opening : Nest → Char
  | .array => '['
  | .object => '\x7b'

def closing : Nest → Char
  | .array => ']'
  | .object => '\x7d'

theorem opening_inj {m n : Nest} (h : m.opening = n.opening) : m = n := by
  cases m <;> cases n <;> first | rfl | exact absurd h (by decide)

theorem opening_ne_quote (n : Nest) : n.opening ≠ '\x22' := by
  cases n <;> decide

theorem closing_ne_comma (n : Nest) : n.closing ≠ ',' := by
  cases n <;> decide

theorem closing_ne_brace (n : Nest) : n.closing ≠ '\x7b' := by
  cases n <;> decide

end Nest

/-- What is looked for: a value, or in a bracket one entry or all that are left. -/
inductive Part where
  | value
  | entry (n : Nest)
  | entries (n : Nest)

/-- That a part stands at the head of a text, and what is left of the text behind it. -/
inductive Leaves : Part → List Char → List Char → Prop
  | str {cs q r : List Char} {t : String} (hcs : cs = '\x22' :: q)
      (ht : string cs.length q.length.succ [] q = .ok (t, r)) : Leaves .value cs r
  | atom {cs r : List Char} {j : Json} (hq : ∀ q, cs ≠ '\x22' :: q)
      (hn : ∀ (n : Nest) q, cs ≠ n.opening :: q) (hj : atom cs = .ok (j, r)) : Leaves .value cs r
  | empty {cs q r : List Char} (n : Nest) (hcs : cs = n.opening :: q)
      (hq : skip q = n.closing :: r) : Leaves .value cs r
  | nest {cs q r : List Char} (n : Nest) (hcs : cs = n.opening :: q)
      (hq : ∀ s, skip q ≠ n.closing :: s) (hentries : Leaves (.entries n) (skip q) r) :
      Leaves .value cs r
  | item {cs r : List Char} (hj : Leaves .value cs r) : Leaves (.entry .array) cs r
  | field {cs q k s r : List Char} {t : String} (hcs : cs = '\x22' :: q)
      (ht : string cs.length q.length.succ [] q = .ok (t, k)) (hk : skip k = ':' :: s)
      (hj : Leaves .value (skip s) r) : Leaves (.entry .object) cs r
  | last {n : Nest} {cs q r : List Char} (hj : Leaves (.entry n) cs q)
      (hq : skip q = n.closing :: r) : Leaves (.entries n) cs r
  | more {n : Nest} {cs q s r : List Char} (hj : Leaves (.entry n) cs q) (hq : skip q = ',' :: s)
      (hentries : Leaves (.entries n) (skip s) r) : Leaves (.entries n) cs r

variable {p : Part} {cs r r' : List Char}

/-- That what is read with some fuel leaves what `Leaves` says. -/
structure Sound (fuel : Nat) : Prop where
  value : ∀ {room cs j r}, value room fuel cs = .ok (j, r) → Leaves .value cs r
  items : ∀ {room acc cs j r}, items room fuel acc cs = .ok (j, r) → Leaves (.entries .array) cs r
  fields : ∀ {room acc cs j r}, fields room fuel acc cs = .ok (j, r) →
    Leaves (.entries .object) cs r

namespace Sound

variable {room fuel : Nat} {j : Json}

theorem value_succ (h : Sound fuel) (hj : Reader.value room (fuel + 1) cs = .ok (j, r)) :
    Leaves .value cs r := by
  unfold Reader.value at hj
  split at hj
  next q =>
    cases ht : string ('\x22' :: q).length q.length.succ [] q with
    | error e =>
        rw [ht] at hj
        cases hj
    | ok p =>
        rw [ht] at hj
        cases hj
        exact .str rfl ht
  next q =>
    cases room with
    | zero => cases hj
    | succ room =>
        simp only [inner] at hj
        split at hj
        next hq =>
          cases hj
          exact .empty .array rfl hq
        next hq => exact .nest .array rfl hq (h.items hj)
  next q =>
    cases room with
    | zero => cases hj
    | succ room =>
        simp only [inner] at hj
        split at hj
        next hq =>
          cases hj
          exact .empty .object rfl hq
        next hq => exact .nest .object rfl hq (h.fields hj)
  next hquote harray hobject =>
    refine .atom hquote ?_ hj
    rintro (_ | _) q rfl
    · exact harray q rfl
    · exact hobject q rfl

theorem items_succ {acc : List Json} (h : Sound fuel)
    (hj : Reader.items room (fuel + 1) acc cs = .ok (j, r)) : Leaves (.entries .array) cs r := by
  unfold Reader.items at hj
  split at hj
  next => cases hj
  next hi =>
    have hitem := Leaves.item (h.value hi)
    split at hj
    next hq =>
      cases hj
      exact .last hitem hq
    next hq => exact .more hitem hq (h.items hj)
    next => cases hj

theorem fields_succ {acc : List (String × Json)} (h : Sound fuel)
    (hj : Reader.fields room (fuel + 1) acc cs = .ok (j, r)) : Leaves (.entries .object) cs r := by
  unfold Reader.fields at hj
  split at hj
  next =>
    split at hj
    next => cases hj
    next ht =>
      split at hj
      next hk =>
        split at hj
        next => cases hj
        next hi =>
          have hfield := Leaves.field rfl ht hk (h.value hi)
          split at hj
          next hq =>
            cases hj
            exact .last hfield hq
          next hq => exact .more hfield hq (h.fields hj)
          next => cases hj
      next => cases hj
  next => cases hj

end Sound

theorem sound (fuel : Nat) : Sound fuel := by
  induction fuel with
  | zero => exact ⟨nofun, nofun, nofun⟩
  | succ fuel ih => exact ⟨ih.value_succ, ih.items_succ, ih.fields_succ⟩

theorem leaves_of_document {j : Json} (h : document cs = .ok j) :
    ∃ r, Leaves .value (skip cs) r ∧ skip r = [] := by
  unfold document at h
  split at h
  · cases h
  · split at h
    next => cases h
    next r hvalue =>
      refine ⟨r, (sound _).value hvalue, ?_⟩
      split at h
      next hr => exact hr
      next => cases h

/-- A text is read in one way only. -/
theorem Leaves.unique (h : Leaves p cs r) (h' : Leaves p cs r') : r = r' := by
  induction h generalizing r' with
  | str hcs ht =>
      cases h' with
      | str hcs' ht' =>
          obtain ⟨-, rfl⟩ := List.cons.inj (hcs.symm.trans hcs')
          exact (Prod.mk.inj (Except.ok.inj (ht.symm.trans ht'))).2
      | atom hq => exact absurd hcs (hq _)
      | empty n hcs' =>
          exact absurd (List.cons.inj (hcs'.symm.trans hcs)).1 n.opening_ne_quote
      | nest n hcs' =>
          exact absurd (List.cons.inj (hcs'.symm.trans hcs)).1 n.opening_ne_quote
  | atom hq hn hj =>
      cases h' with
      | str hcs' => exact absurd hcs' (hq _)
      | atom _ _ hj' => exact (Prod.mk.inj (Except.ok.inj (hj.symm.trans hj'))).2
      | empty n hcs' => exact absurd hcs' (hn n _)
      | nest n hcs' => exact absurd hcs' (hn n _)
  | empty n hcs hq =>
      cases h' with
      | str hcs' => exact absurd (List.cons.inj (hcs.symm.trans hcs')).1 n.opening_ne_quote
      | atom _ hn => exact absurd hcs (hn n _)
      | empty m hcs' hq' =>
          obtain ⟨hopen, rfl⟩ := List.cons.inj (hcs.symm.trans hcs')
          obtain rfl := Nest.opening_inj hopen
          exact (List.cons.inj (hq.symm.trans hq')).2
      | nest m hcs' hq' =>
          obtain ⟨hopen, rfl⟩ := List.cons.inj (hcs.symm.trans hcs')
          obtain rfl := Nest.opening_inj hopen
          exact absurd hq (hq' _)
  | nest n hcs hq _ ih =>
      cases h' with
      | str hcs' => exact absurd (List.cons.inj (hcs.symm.trans hcs')).1 n.opening_ne_quote
      | atom _ hn => exact absurd hcs (hn n _)
      | empty m hcs' hq' =>
          obtain ⟨hopen, rfl⟩ := List.cons.inj (hcs.symm.trans hcs')
          obtain rfl := Nest.opening_inj hopen
          exact absurd hq' (hq _)
      | nest m hcs' _ hentries' =>
          obtain ⟨hopen, rfl⟩ := List.cons.inj (hcs.symm.trans hcs')
          obtain rfl := Nest.opening_inj hopen
          exact ih hentries'
  | item _ ih =>
      cases h' with
      | item hj' => exact ih hj'
  | field hcs ht hk _ ih =>
      cases h' with
      | field hcs' ht' hk' hj' =>
          obtain ⟨-, rfl⟩ := List.cons.inj (hcs.symm.trans hcs')
          obtain ⟨-, rfl⟩ := Prod.mk.inj (Except.ok.inj (ht.symm.trans ht'))
          obtain ⟨-, rfl⟩ := List.cons.inj (hk.symm.trans hk')
          exact ih hj'
  | last _ hq ih =>
      cases h' with
      | last hj' hq' =>
          obtain rfl := ih hj'
          exact (List.cons.inj (hq.symm.trans hq')).2
      | more hj' hq' =>
          obtain rfl := ih hj'
          exact absurd (List.cons.inj (hq.symm.trans hq')).1 (Nest.closing_ne_comma _)
  | more _ hq _ ihj ih =>
      cases h' with
      | last hj' hq' =>
          obtain rfl := ihj hj'
          exact absurd (List.cons.inj (hq'.symm.trans hq)).1 (Nest.closing_ne_comma _)
      | more hj' hq' hentries' =>
          obtain rfl := ihj hj'
          obtain ⟨-, rfl⟩ := List.cons.inj (hq.symm.trans hq')
          exact ih hentries'

/-! ## Text that ends with an object -/

section

variable {o : List Char}

theorem suffix_of_cons {d : Char} (hd : d ≠ '\x7b') (h : '\x7b' :: o <:+ d :: cs) :
    '\x7b' :: o <:+ cs := by
  rcases List.suffix_cons_iff.1 h with heq | h
  · exact absurd (List.cons.inj heq).1.symm hd
  · exact h

theorem suffix_of_append {ds : List Char} (hds : '\x7b' ∉ ds) (h : '\x7b' :: o <:+ ds ++ cs) :
    '\x7b' :: o <:+ cs := by
  induction ds with
  | nil => exact h
  | cons d ds ih =>
      rw [List.mem_cons, not_or] at hds
      exact ih hds.2 (suffix_of_cons (Ne.symm hds.1) h)

theorem suffix_dropWhile {p : Char → Bool} (hp : p '\x7b' = false) (h : '\x7b' :: o <:+ cs) :
    '\x7b' :: o <:+ cs.dropWhile p := by
  have hsplit : cs.takeWhile p ++ cs.dropWhile p = cs := List.takeWhile_append_dropWhile
  rw [← hsplit] at h
  refine suffix_of_append (fun hmem => ?_) h
  rw [List.mem_takeWhile_imp hmem] at hp
  cases hp

theorem suffix_skip (h : '\x7b' :: o <:+ cs) : '\x7b' :: o <:+ skip cs :=
  suffix_dropWhile (by decide) h

theorem suffix_fraction (h : '\x7b' :: o <:+ cs) : '\x7b' :: o <:+ (fraction cs).2 := by
  unfold fraction
  split
  next =>
    split
    · exact h
    · exact suffix_dropWhile (by decide) (suffix_of_cons (by decide) h)
  next => exact h

theorem suffix_sign (h : '\x7b' :: o <:+ cs) : '\x7b' :: o <:+ (Text.Integer.sign cs).2 := by
  unfold Text.Integer.sign
  split
  · exact suffix_of_cons (by decide) h
  · exact suffix_of_cons (by decide) h
  · exact h

theorem suffix_exponent (h : '\x7b' :: o <:+ cs) : '\x7b' :: o <:+ (exponent cs).2 := by
  unfold exponent
  split
  next d q =>
    split
    next hd =>
      have hq : '\x7b' :: o <:+ q := by
        refine suffix_of_cons ?_ h
        rintro rfl
        exact absurd hd (by decide)
      simp only
      split
      · exact h
      · exact suffix_dropWhile (by decide) (suffix_sign hq)
    next => exact h
  next => exact h

theorem suffix_of_number {neg : Bool} {whole : List Char} {j : Json} (h : '\x7b' :: o <:+ cs)
    (hj : number neg whole cs = .ok (j, r)) : '\x7b' :: o <:+ r := by
  unfold number at hj
  simp only at hj
  split at hj
  · split at hj
    · cases hj
    · obtain ⟨-, rfl⟩ := Prod.mk.inj (Except.ok.inj hj)
      exact h
  · obtain ⟨-, rfl⟩ := Prod.mk.inj (Except.ok.inj hj)
    exact suffix_exponent (suffix_fraction h)

theorem suffix_of_after? {ds : List Char} (hds : '\x7b' ∉ ds) (h : '\x7b' :: o <:+ cs)
    (hr : after? ds cs = some r) : '\x7b' :: o <:+ r := by
  unfold after? at hr
  split at hr
  next hpre =>
    obtain ⟨q, rfl⟩ := List.isPrefixOf_iff_prefix.1 hpre
    rw [List.drop_left] at hr
    obtain rfl := Option.some.inj hr
    exact suffix_of_append hds h
  next => cases hr

theorem suffix_of_digits {neg : Bool} {ds : List Char} {j : Json} (h : '\x7b' :: o <:+ ds)
    (hj : digits neg cs ds = .ok (j, r)) : '\x7b' :: o <:+ r := by
  unfold digits at hj
  split at hj
  next => exact suffix_of_number (suffix_of_cons (by decide) h) hj
  next =>
    split at hj
    · exact suffix_of_number (suffix_dropWhile (by decide) h) hj
    · cases hj
  next => cases hj

theorem suffix_signed (h : '\x7b' :: o <:+ cs) : '\x7b' :: o <:+ (signed cs).2 := by
  unfold signed
  split
  · exact suffix_of_cons (by decide) h
  · exact h

theorem suffix_of_atom {j : Json} (h : '\x7b' :: o <:+ cs) (hj : atom cs = .ok (j, r)) :
    '\x7b' :: o <:+ r := by
  unfold atom at hj
  simp only at hj
  split at hj
  next p hname =>
    obtain ⟨n, hn, hp⟩ := List.exists_of_findSome?_eq_some hname
    obtain ⟨q, hq, rfl⟩ := Option.map_eq_some_iff.1 hp
    obtain ⟨-, rfl⟩ := Prod.mk.inj (Except.ok.inj hj)
    refine suffix_of_after? ?_ h hq
    revert n
    simp
  next =>
    have hdigits : digits (signed cs).1 cs (signed cs).2 = .ok (j, r) := hj
    exact suffix_of_digits (suffix_signed h) hdigits

theorem suffix_of_unit? {n : Nat} (h : '\x7b' :: o <:+ cs) (hn : unit? cs = some (n, r)) :
    '\x7b' :: o <:+ r := by
  unfold unit? at hn
  split at hn
  next =>
    split at hn
    next ha hb hc hd =>
      have hne {d : Char} {m : Nat} (hm : Text.Hex.digit? d = some m) : d ≠ '\x7b' := by
        rintro rfl
        cases hm
      obtain ⟨-, rfl⟩ := Prod.mk.inj (Option.some.inj hn)
      exact suffix_of_cons (hne hd) (suffix_of_cons (hne hc) (suffix_of_cons (hne hb)
        (suffix_of_cons (hne ha) h)))
    next => cases hn
  next => cases hn

theorem suffix_of_unitEscape? {x : Char} (h : '\x7b' :: o <:+ cs)
    (hx : unitEscape? cs = some (x, r)) : '\x7b' :: o <:+ r := by
  unfold unitEscape? at hx
  split at hx
  next => cases hx
  next q hq =>
    have hrest := suffix_of_unit? h hq
    have hstay {y : Char} (hy : some (y, q) = some (x, r)) : '\x7b' :: o <:+ r := by
      obtain ⟨-, rfl⟩ := Prod.mk.inj (Option.some.inj hy)
      exact hrest
    split at hx
    · split at hx
      next s =>
        split at hx
        · exact hstay hx
        · split at hx
          next => cases hx
          next hs =>
            split at hx
            · obtain ⟨-, rfl⟩ := Prod.mk.inj (Option.some.inj hx)
              exact suffix_of_unit?
                (suffix_of_cons (by decide) (suffix_of_cons (by decide) hrest)) hs
            · exact hstay hx
      next => exact hstay hx
    · exact hstay hx

end

/-! ## An object behind other text -/

section

variable {c : Char} {w : List Char}

theorem string_quote {opened fuel : Nat} {acc : List Char} {t : String}
    (ht : string opened fuel acc ('\x22' :: cs) = .ok (t, r)) : r = cs := by
  cases fuel with
  | zero => cases ht
  | succ fuel =>
      unfold string at ht
      rw [if_pos rfl] at ht
      exact (Prod.mk.inj (Except.ok.inj ht)).2.symm

/-- A quoted text that began before the object ends before it, or with the object's first quote. -/
theorem suffix_of_string {opened fuel : Nat} {acc : List Char} {t : String}
    (h : '\x7b' :: '\x22' :: w <:+ cs) (ht : string opened fuel acc cs = .ok (t, r)) :
    '\x7b' :: '\x22' :: w <:+ r ∨ r = w := by
  induction fuel generalizing acc cs with
  | zero => cases ht
  | succ fuel ih =>
      cases cs with
      | nil => cases ht
      | cons d cs =>
          unfold string at ht
          split at ht
          next hd =>
            subst hd
            obtain ⟨-, rfl⟩ := Prod.mk.inj (Except.ok.inj ht)
            exact .inl (suffix_of_cons (by decide) h)
          next =>
            split at ht
            next hd =>
              subst hd
              have hcs := suffix_of_cons (by decide) h
              split at ht
              next => cases ht
              next e q =>
                split at ht
                next he =>
                  subst he
                  have hq := suffix_of_cons (by decide) hcs
                  split at ht
                  next hx => exact ih (suffix_of_unitEscape? hq hx) ht
                  next => cases ht
                next =>
                  split at ht
                  next hx =>
                    refine ih (suffix_of_cons ?_ hcs) ht
                    rintro rfl
                    cases hx
                  next => cases ht
            next =>
              split at ht
              next => cases ht
              next =>
                rcases List.suffix_cons_iff.1 h with heq | hcs
                · -- The object's own first mark is a character of the text, its quote the end.
                  obtain ⟨-, rfl⟩ := List.cons.inj heq
                  exact .inr (string_quote ht)
                · exact ih hcs ht

/-- A mark that closes a bracket or stands between two parts of what is in it. -/
def isMark (c : Char) : Bool := c = ':' || c = ',' || c = ']' || c = '\x7d'

theorem Nest.isMark_closing (n : Nest) : isMark n.closing = true := by
  cases n <;> rfl

/--
Where the reader, set on before an object or at it, can be when a part is read: before the object or
at it, behind its first quote, or at the end of the text, if the object alone was the value read.
-/
def Halts (c : Char) (w : List Char) : Part → List Char → List Char → Prop
  | .value, cs, r => '\x7b' :: '\x22' :: c :: w <:+ r ∨ r = c :: w ∨
      cs = '\x7b' :: '\x22' :: c :: w ∧ skip r = []
  | .entry _, _, r => '\x7b' :: '\x22' :: c :: w <:+ r ∨ r = c :: w ∨ skip r = []
  | .entries _, _, r => '\x7b' :: '\x22' :: c :: w <:+ r

theorem Halts.entry (h : Halts c w .value cs r) (n : Nest) (ds : List Char) :
    Halts c w (.entry n) ds r :=
  h.imp_right (.imp_right And.right)

/-- A mark that comes next is one before the object. -/
theorem Halts.suffix_of_mark {n : Nest} {d : Char} {s : List Char} (h : Halts c w (.entry n) cs r)
    (hc : isSpace c = false) (hm : isMark c = false) (hr : skip r = d :: s) (hd : isMark d = true) :
    '\x7b' :: '\x22' :: c :: w <:+ s := by
  have hopen : d ≠ '\x7b' := by
    rintro rfl
    cases hd
  rcases h with h | rfl | h
  · have hskip := suffix_skip h
    rw [hr] at hskip
    exact suffix_of_cons hopen hskip
  · rw [skip_of_not_isSpace hc] at hr
    rw [(List.cons.inj hr).1, hd] at hm
    cases hm
  · rw [hr] at h
    cases h

/-- Nothing that is read from a place before an object ends within the object's fields. -/
theorem Leaves.halts (hc : isSpace c = false) (hm : isMark c = false)
    (hobject : ∀ r, Leaves .value ('\x7b' :: '\x22' :: c :: w) r → skip r = [])
    (h : Leaves p cs r) (hcs : '\x7b' :: '\x22' :: c :: w <:+ cs) : Halts c w p cs r := by
  induction h with
  | str heq ht =>
      subst heq
      exact (suffix_of_string (suffix_of_cons (by decide) hcs) ht).imp_right .inl
  | atom hq hn hj => exact .inl (suffix_of_atom hcs hj)
  | empty n heq hq =>
      -- A bracket that opens here is the object's own or one before it.
      subst heq
      rcases List.suffix_cons_iff.1 hcs with hat | hcs
      · exact .inr (.inr ⟨hat.symm, hobject _ (hat ▸ .empty n rfl hq)⟩)
      · have hskip := suffix_skip hcs
        rw [hq] at hskip
        exact .inl (suffix_of_cons n.closing_ne_brace hskip)
  | nest n heq hq hentries ih =>
      subst heq
      rcases List.suffix_cons_iff.1 hcs with hat | hcs
      · exact .inr (.inr ⟨hat.symm, hobject _ (hat ▸ .nest n rfl hq hentries)⟩)
      · exact .inl (ih (suffix_skip hcs))
  | item hj ih => exact (ih hcs).entry _ _
  | @field cs q k s r t heq ht hk hj ih =>
      -- Where the name ends with the object's quote, no colon follows.
      subst heq
      have hname : Halts c w (.entry .object) q k :=
        (suffix_of_string (suffix_of_cons (by decide) hcs) ht).imp_right .inl
      exact (ih (suffix_skip (hname.suffix_of_mark hc hm hk rfl))).entry _ _
  | last hj hq ih => exact (ih hcs).suffix_of_mark hc hm hq (Nest.isMark_closing _)
  | more hj hq hentries ihj ih =>
      exact ih (suffix_skip ((ihj hcs).suffix_of_mark hc hm hq rfl))

/-- A text that is no blank and is followed by an object makes no document with it. -/
theorem document_append_ne_ok {d : Char} {v : List Char} (hd : isSpace d = false)
    (hc : isSpace c = false) (hm : isMark c = false) {i : Json}
    (hi : document ('\x7b' :: '\x22' :: c :: w) = .ok i) (j : Json) :
    document (d :: v ++ '\x7b' :: '\x22' :: c :: w) ≠ .ok j := by
  intro hj
  obtain ⟨r, hobject, hr⟩ := leaves_of_document hi
  obtain ⟨s, hjoined, hs⟩ := leaves_of_document hj
  rw [skip_of_not_isSpace (by decide)] at hobject
  rw [List.cons_append, skip_of_not_isSpace hd] at hjoined
  have hhalts := hjoined.halts hc hm (fun r' hr' => hobject.unique hr' ▸ hr)
    (List.suffix_append (d :: v) _)
  rcases hhalts with hhalts | rfl | ⟨hat, -⟩
  · have hskip := suffix_skip hhalts
    rw [hs] at hskip
    cases List.suffix_nil.1 hskip
  · rw [skip_of_not_isSpace hc] at hs
    cases hs
  · have hlength := congrArg List.length hat
    simp only [List.length_cons, List.length_append] at hlength
    omega

end

end Keyring.Json.Reader
