import Mathlib.Data.List.DropRight
import Keyring.Proofs.Json.Joined
import Keyring.Proofs.Journal

/-!
# The tail of a journal

By a number the last entries are asked for, counted among those that are read at all. With zero they
are all given.

A file need not end its last line. What is told next goes on the same line: with blanks alone before
it, it is read as ever. With anything else before it the line is no document, and neither the event
is read nor an entry that the open line may have been.
-/

namespace Keyring.Journal

open Text (IsAsciiText isBlank isLineBreak strip)

/-- That a key is revoked is told without numbers, so that it can always be recorded. -/
theorem isRecordable_keyRevoked {now : Calendar.Instant} (h : (Calendar.isoText? now).isSome)
    (authority key : String) : Stamped.IsRecordable ⟨now, ⟨authority, .keyRevoked key⟩⟩ :=
  isRecordable_of_isReadable ⟨h, rfl⟩ rfl

/-! ## The last entries -/

theorem read_of_read_none {j : Journal} {js : List Json} (h : j.read none = .ok js)
    (n : Option Int) : j.read n = .ok (last n js) := by
  rw [read_none] at h
  rw [read, h]
  rfl

/--
By a number those entries are read that stand last among all that are read: as many as the number
says, or all if there are no more. Zero is the exception, by which all of them are read.
-/
theorem read_tail (j : Journal) (n : Nat) :
    (∀ f, j.read none = .error f → j.read (some n) = .error f) ∧
      ∀ js, j.read none = .ok js → ∃ back, j.read (some n) = .ok back ∧ back <:+ js ∧
        (0 < n → back.length = min n js.length) ∧ (n = 0 → back = js) := by
  refine ⟨?_, ?_⟩
  · intro f hf
    rw [read_none] at hf
    rw [read, hf]
    rfl
  · intro js hjs
    refine ⟨last (some n) js, read_of_read_none hjs _, ?_, ?_, ?_⟩
    · unfold last
      split
      · exact List.suffix_refl js
      · split <;> exact List.drop_suffix _ _
    · intro hn
      rw [last, if_pos (Int.natCast_pos.2 hn), List.length_drop, Int.toNat_natCast]
      omega
    · rintro rfl
      rfl

/-- Two events of three, behind a line of junk. -/
theorem read_tail_two :
    let t (key : String) : Stamped := ⟨⟨1700000000, 250000⟩, ⟨"1", .keyRevoked key⟩⟩
    let j := (file (some "junk\n")).emitAll [t "2", t "3", t "4"]
    j.read none = .ok [(t "2").entry, (t "3").entry, (t "4").entry] ∧
      j.read (some 2) = .ok [(t "3").entry, (t "4").entry] := by
  intro t j
  have hj : (file (some "junk\n")).EndsLine := .inr ⟨"junk", rfl⟩
  have hdated : (Calendar.isoText? ⟨1700000000, 250000⟩).isSome := by decide +kernel
  have hts : ∀ s ∈ [t "2", t "3", t "4"], s.IsRecordable := by
    simp [t, isRecordable_keyRevoked hdated]
  have hall : j.read none = .ok [(t "2").entry, (t "3").entry, (t "4").entry] := by
    rw [read_emitAll hj hts]
    rfl
  obtain ⟨back, hback, hsuffix, hlength, -⟩ := (read_tail j 2).2 _ hall
  rw [List.suffix_iff_eq_drop, hlength (by decide)] at hsuffix
  exact ⟨hall, hback.trans (congrArg _ hsuffix)⟩

/-- One event is read, where the last none are asked for. -/
theorem read_zero :
    let t : Stamped := ⟨⟨1700000000, 250000⟩, ⟨"1", .keyRevoked "2"⟩⟩
    let j := (buffer []).emit t.now t.event
    j.read none = .ok [t.entry] ∧
      ¬ ∃ back, j.read (some 0) = .ok back ∧ back.length = min 0 [t.entry].length := by
  intro t j
  have ht : t.IsRecordable := isRecordable_keyRevoked (by decide +kernel) "1" "2"
  have hall : j.read none = .ok [t.entry] := read_emit trivial ht
  refine ⟨hall, ?_⟩
  rintro ⟨back, hback, hlength⟩
  rw [read_of_read_none hall] at hback
  obtain rfl := Except.ok.inj hback
  cases hlength

/-! ## An open line -/

def closed (text : String) : String :=
  String.ofList (text.toList.rdropWhile fun c => !isLineBreak c)

def openLine (text : String) : String :=
  String.ofList (text.toList.rtakeWhile fun c => !isLineBreak c)

theorem closed_append_openLine (text : String) :
    text.toList = (closed text).toList ++ (openLine text).toList := by
  rw [closed, openLine, String.toList_ofList, String.toList_ofList]
  exact (List.rdropWhile_append_rtakeWhile).symm

theorem isLineBreak_of_mem_openLine {text : String} {c : Char} (hc : c ∈ (openLine text).toList) :
    isLineBreak c = false := by
  rw [openLine, String.toList_ofList] at hc
  simpa using List.mem_rtakeWhile_imp hc

/-- What follows the last break makes lines of its own. -/
theorem lines_closed_append (text : String) {ds : List Char} (hds : ds.head? ≠ some '\n') :
    Text.lines (Text.unifyNewlines ((closed text).toList ++ ds)) =
      Text.lines (Text.unifyNewlines (closed text).toList) ++
        Text.lines (Text.unifyNewlines ds) := by
  rw [closed, String.toList_ofList]
  rcases List.eq_nil_or_concat (text.toList.rdropWhile fun c => !isLineBreak c) with h | ⟨cs, b, h⟩
  · rw [h]
    rfl
  · have hb : isLineBreak b = true := by
      have hlast := List.rdropWhile_last_not (fun c => !isLineBreak c) text.toList (by simp [h])
      simpa [h] using hlast
    rw [h, List.concat_eq_append]
    exact Text.lines_unifyNewlines_append_of_isLineBreak hb cs fun _ => hds

/-- A text without breaks is one line, unless it is empty. -/
theorem lines_of_open {cs : List Char} (hcs : ∀ c ∈ cs, isLineBreak c = false) :
    Text.lines (Text.unifyNewlines cs) = if cs = [] then [] else [cs] := by
  have hreturn : ∀ c ∈ cs, c ≠ '\r' :=
    fun c hc => Text.ne_return_of_not_isLineBreak (hcs c hc)
  have hline := Text.linesFrom_of_not_isLineBreak hcs [] []
  rw [List.append_nil, List.append_nil] at hline
  rw [Text.unifyNewlines_of_return_not_mem hreturn, Text.lines, hline, Text.linesFrom]
  simp

theorem lines_file (text : String) :
    (file (some text)).lines = (file (some (closed text))).lines ++
      if openLine text = "" then [] else [openLine text] := by
  have hbreak : ∀ c ∈ (openLine text).toList, isLineBreak c = false :=
    fun c hc => isLineBreak_of_mem_openLine hc
  have hhead : (openLine text).toList.head? ≠ some '\n' := by
    intro h
    cases hbreak _ (List.mem_of_head? h)
  rw [lines, lines, closed_append_openLine text, lines_closed_append text hhead,
    lines_of_open hbreak, List.map_append]
  congr 1
  by_cases hempty : openLine text = ""
  · rw [if_pos (String.toList_eq_nil_iff.2 hempty), if_pos hempty, List.map_nil]
  · rw [if_neg fun h => hempty (String.toList_eq_nil_iff.1 h), if_neg hempty, List.map_singleton,
      String.ofList_toList]

/-- What is written on an open line makes one line with it. -/
theorem lines_file_append (text : String) {line : String}
    (hline : ∀ c ∈ line.toList, IsAsciiText c) (hne : line ≠ "") :
    ((file (some text)).append line).lines =
      (file (some (closed text))).lines ++ [openLine text ++ line] := by
  have hbreak : ∀ c ∈ (openLine text).toList ++ line.toList, isLineBreak c = false := by
    rw [List.forall_mem_append]
    exact ⟨fun c hc => isLineBreak_of_mem_openLine hc, fun c hc => (hline c hc).isLineBreak⟩
  have hhead : ((openLine text).toList ++ line.toList ++ ['\n']).head? ≠ some '\n' := by
    obtain ⟨c, cs, hcs⟩ := List.exists_cons_of_ne_nil
      (List.append_ne_nil_of_right_ne_nil (openLine text).toList
        (mt String.toList_eq_nil_iff.1 hne))
    intro h
    rw [hcs] at hbreak h
    cases (Option.some.inj h) ▸ hbreak c List.mem_cons_self
  have htext : (text ++ line ++ "\n").toList =
      (closed text).toList ++ ((openLine text).toList ++ line.toList ++ ['\n']) := by
    rw [String.toList_append, String.toList_append, closed_append_openLine text]
    simp
  rw [append, lines, lines, Option.getD_some, htext, lines_closed_append text hhead,
    lines_ended hbreak, List.map_append, List.map_singleton, ← String.toList_append,
    String.ofList_toList]

/-! ## What becomes of an open line -/

theorem documents_blank {l : String} (hl : ∀ c ∈ l.toList, isBlank c = true) :
    documents [l] = .ok [] := by
  have hstrip : strip l.toList = [] := by
    rw [strip, Text.stripWith, List.dropWhile_eq_nil_iff.2 hl]
    rfl
  unfold documents
  rw [hstrip]
  rfl

/-- One line holds one document at most. -/
theorem documents_singleton (l : String) :
    documents [l] = .ok [] ∨
      (∃ k, Json.parse (String.ofList (strip l.toList)) = .ok k ∧ documents [l] = .ok [k]) ∨
      ∃ f, documents [l] = .error f := by
  unfold documents
  simp only
  split
  · exact .inl rfl
  · split
    next hk => exact .inr (.inl ⟨_, hk, rfl⟩)
    next => exact .inl rfl
    next => exact .inr (.inr ⟨_, rfl⟩)

/-- How the line of an event begins and ends. -/
theorem exists_render_eq (t : Stamped) : ∃ w, (Json.render .line t.entry).toList =
    '\x7b' :: '\x22' :: 'r' :: (w ++ ['\x7d']) := by
  rw [Json.render, String.toList_ofList, Stamped.entry, Json.chars]
  have hname : Json.stringChars Json.Style.line.ascii "recorded_at".toList =
      '\x22' :: 'r' :: "ecorded_at\x22".toList := by decide
  rw [hname]
  exact ⟨_, rfl⟩

theorem isSpace_of_not_isBlank {c : Char} (hc : isBlank c = false) :
    Json.Reader.isSpace c = false := by
  rw [Bool.eq_false_iff]
  intro hspace
  simp only [Json.Reader.isSpace, Bool.or_eq_true, decide_eq_true_eq] at hspace
  rcases hspace with ((rfl | rfl) | rfl) | rfl <;> cases hc

/-- An event behind something on its line is read neither as itself nor as anything else. -/
theorem documents_joined {t : Stamped} (ht : t.IsRecordable) {l : String}
    (hl : ∃ c ∈ l.toList, isBlank c = false) :
    documents [l ++ Json.render .line t.entry] = .ok [] ∨
      ∃ f, documents [l ++ Json.render .line t.entry] = .error f := by
  obtain ⟨w, hw⟩ := exists_render_eq t
  obtain ⟨d, v, hv⟩ : ∃ d v, l.toList.dropWhile isBlank = d :: v := by
    obtain ⟨c, hc, hblank⟩ := hl
    refine List.exists_cons_of_ne_nil fun hnil => ?_
    rw [List.dropWhile_eq_nil_iff.1 hnil c hc] at hblank
    cases hblank
  have hd : isBlank d = false := by
    have hhead := List.head?_dropWhile_not isBlank l.toList
    rw [hv] at hhead
    simpa using hhead
  have hstrip : strip (l ++ Json.render .line t.entry).toList =
      d :: v ++ '\x7b' :: '\x22' :: 'r' :: (w ++ ['\x7d']) := by
    rw [String.toList_append, hw, strip]
    exact Text.stripWith_append_of_last hv (by decide) ('\x7b' :: '\x22' :: 'r' :: w)
  have hentry :
      Json.Reader.document ('\x7b' :: '\x22' :: 'r' :: (w ++ ['\x7d'])) = .ok t.entry := by
    rw [← hw]
    exact ht.faithful
  rcases documents_singleton (l ++ Json.render .line t.entry) with hnone | ⟨j, hj, -⟩ | herror
  · exact .inl hnone
  · rw [hstrip, Json.parse, String.toList_ofList] at hj
    exact absurd hj (Json.Reader.document_append_ne_ok (isSpace_of_not_isBlank hd) (by decide)
      (by decide) hentry j)
  · exact .inr herror

theorem documents_behind_blanks {t : Stamped} (ht : t.IsRecordable) {l : String}
    (hl : ∀ c ∈ l.toList, isBlank c = true) :
    documents [l ++ Json.render .line t.entry] = .ok [t.entry] := by
  have hstrip : strip (l ++ Json.render .line t.entry).toList =
      strip (Json.render .line t.entry).toList := by
    rw [String.toList_append]
    exact Text.stripWith_append_of_pos hl _
  have hline := documents_line ht
  unfold documents at hline ⊢
  rw [hstrip]
  exact hline

/-- What is read of a file is what is read up to its last break, and then what the open
line holds. -/
theorem read_file (text : String) {js : List Json} (h : (file (some text)).read none = .ok js) :
    ∃ kept, (file (some (closed text))).read none = .ok kept ∧
      (js = kept ∨ (∃ c ∈ (openLine text).toList, isBlank c = false) ∧ ∃ k, js = kept ++ [k]) := by
  rw [read_none, lines_file, documents_append, ← read_none] at h
  cases hkept : (file (some (closed text))).read none with
  | error f =>
      rw [hkept] at h
      cases h
  | ok kept =>
      rw [hkept, Except.bind] at h
      refine ⟨kept, rfl, ?_⟩
      split at h
      next => exact .inl (by simpa [documents, Except.map] using h.symm)
      next =>
        rcases documents_singleton (openLine text) with hd | ⟨k, -, hd⟩ | ⟨f, hd⟩
        · rw [hd] at h
          exact .inl (by simpa [Except.map] using h.symm)
        · rw [hd] at h
          have hjs : js = kept ++ [k] := (Except.ok.inj h).symm
          refine .inr ⟨?_, k, hjs⟩
          by_contra hblank
          rw [documents_blank (by simpa using hblank)] at hd
          cases hd
        · rw [hd] at h
          cases h

theorem read_emit_file (text : String) {t : Stamped} (ht : t.IsRecordable) {kept : List Json}
    (hkept : (file (some (closed text))).read none = .ok kept) :
    ((file (some text)).emit t.now t.event).read none =
      (documents [openLine text ++ Json.render .line t.entry]).map (kept ++ ·) := by
  obtain ⟨w, hw⟩ := exists_render_eq t
  have hne : Json.render .line t.entry ≠ "" := by
    intro hempty
    rw [hempty] at hw
    cases hw
  rw [read_none] at hkept
  rw [emit_eq_append _ ht.toIsWritable, read_none,
    lines_file_append text (Json.isAsciiText_render _) hne, documents_append, hkept,
    Except.bind]

/-- An event that is told while the last line of a file is open. It is read after all that was read
before just when nothing but blanks stands on that line. Otherwise the line and the event make one
line, which is no document: what is read, if reading does not fail at that line, is only what was
read up to the last break, without the event and without an entry that the open line may have held.
-/
theorem read_emit_open (text : String) {t : Stamped} (ht : t.IsRecordable) {js : List Json}
    (hjs : (file (some text)).read none = .ok js) :
    let after := (file (some text)).emit t.now t.event
    (after.read none = .ok (js ++ [t.entry]) ↔ ∀ c ∈ (openLine text).toList, isBlank c = true) ∧
      ∃ kept, (file (some (closed text))).read none = .ok kept ∧
        (js = kept ∨ ∃ k, js = kept ++ [k]) ∧
        ((∃ c ∈ (openLine text).toList, isBlank c = false) →
          after.read none = .ok kept ∨ ∃ f, after.read none = .error f) := by
  intro after
  obtain ⟨kept, hkept, hheld⟩ := read_file text hjs
  have hafter : after.read none = _ := read_emit_file text ht hkept
  have hlost (hl : ∃ c ∈ (openLine text).toList, isBlank c = false) :
      after.read none = .ok kept ∨ ∃ f, after.read none = .error f := by
    rw [hafter]
    rcases documents_joined ht hl with hd | ⟨f, hd⟩
    · rw [hd]
      exact .inl (by simp [Except.map])
    · rw [hd]
      exact .inr ⟨f, rfl⟩
  refine ⟨⟨?_, ?_⟩, kept, hkept, hheld.imp_right And.right, hlost⟩
  · intro hall
    by_contra hblank
    have hl : ∃ c ∈ (openLine text).toList, isBlank c = false := by simpa using hblank
    rcases hlost hl with hread | ⟨f, hread⟩
    · rw [hall] at hread
      have hlength := congrArg List.length (Except.ok.inj hread)
      rcases hheld with rfl | ⟨-, k, rfl⟩ <;> simp at hlength
    · rw [hall] at hread
      cases hread
  · intro hblank
    obtain rfl : js = kept := by
      rcases hheld with hheld | ⟨⟨c, hc, hne⟩, -⟩
      · exact hheld
      · rw [hblank c hc] at hne
        cases hne
    rw [hafter, documents_behind_blanks ht hblank]
    rfl

/-- Behind blanks an event is read, and behind a document neither the event nor the document is. -/
theorem read_emit_open_blanks :
    let t : Stamped := ⟨⟨1700000000, 250000⟩, ⟨"1", .keyRevoked "2"⟩⟩
    ((file (some "\x7b\x7d\n \t")).emit t.now t.event).read none = .ok [.obj [], t.entry] ∧
      (file (some "[]\n\x7b\x7d")).read none = .ok [.arr [], .obj []] ∧
      ((file (some "[]\n\x7b\x7d")).emit t.now t.event).read none ≠
        .ok [.arr [], .obj [], t.entry] := by
  intro t
  have ht : t.IsRecordable := isRecordable_keyRevoked (by decide +kernel) "1" "2"
  have hblank : (file (some "\x7b\x7d\n \t")).read none = .ok [.obj []] := rfl
  have hheld : (file (some "[]\n\x7b\x7d")).read none = .ok [.arr [], .obj []] := rfl
  refine ⟨?_, hheld, fun hread => ?_⟩
  · apply (read_emit_open "\x7b\x7d\n \t" ht hblank).1.2
    rw [show (openLine "\x7b\x7d\n \t").toList = [' ', '\t'] from rfl, List.forall_mem_cons,
      List.forall_mem_singleton]
    exact ⟨rfl, rfl⟩
  · have hbrace : '\x7b' ∈ (openLine "[]\n\x7b\x7d").toList := List.mem_cons_self
    cases (read_emit_open "[]\n\x7b\x7d" ht hheld).1.1 hread _ hbrace

/-- An entry that only lacks its break, and an event behind it: neither is read. -/
theorem entry_lost_behind_open :
    let t : Stamped := ⟨⟨1700000000, 250000⟩, ⟨"1", .keyRevoked "2"⟩⟩
    let j := file (some "\x7b\x7d")
    t.IsRecordable ∧ j.read none = .ok [.obj []] ∧
      (∀ js, (j.emit t.now t.event).read none = .ok js → js = []) ∧
      (j.emit t.now t.event).read none ≠ .ok [.obj [], t.entry] := by
  intro t j
  have ht : t.IsRecordable := isRecordable_keyRevoked (by decide +kernel) "1" "2"
  have hnone (js : List Json) (hjs : (j.emit t.now t.event).read none = .ok js) : js = [] := by
    rw [read_emit_file "\x7b\x7d" ht rfl] at hjs
    have hbrace : '\x7b' ∈ (openLine "\x7b\x7d").toList := List.mem_cons_self
    rcases documents_joined ht ⟨_, hbrace, rfl⟩ with hd | ⟨f, hd⟩
    · rw [hd] at hjs
      exact (Except.ok.inj hjs).symm
    · rw [hd] at hjs
      cases hjs
  refine ⟨ht, rfl, hnone, fun hread => ?_⟩
  cases hnone _ hread

end Keyring.Journal
