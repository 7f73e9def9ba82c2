import Keyring.Journal
import Keyring.Proofs.Json.Documents
import Keyring.Proofs.Outcome
import Keyring.Proofs.Text.Lines

/-!
# Journals, read back

An event is written on a line of its own, whatever its strings hold: `line?` escapes every control
character and every break beyond ASCII. So a journal whose last line is ended reads, after some
events, as before with one entry more for each, in order. A buffer gives up its lines in the order
in which they came, however emitting and draining take turns.
-/

namespace Keyring

/-! ## What a notice is written as -/

/-- The type of a notice and its details, each under its name. -/
inductive Notice.IsSpelled : Notice → String → Fields → Prop
  | general : IsSpelled .general "session_event" []
  | keyCreated (key : String) (expiresAt : Int) (unit : String) (permissions : Json) :
      IsSpelled (.keyCreated key expiresAt unit permissions) "session_key_created"
        [("key_identity", .str key), ("expires_at", .int expiresAt),
          ("expiration_type", .str unit), ("permissions", permissions)]
  | keyUpdated (key : String) (expiresAt : Int) (permissions : Json) :
      IsSpelled (.keyUpdated key expiresAt permissions) "session_key_updated"
        [("key_identity", .str key), ("expires_at", .int expiresAt), ("permissions", permissions)]
  | keyRevoked (key : String) :
      IsSpelled (.keyRevoked key) "session_key_revoked" [("key_identity", .str key)]
  | allKeysRevoked (count : Int) :
      IsSpelled (.allKeysRevoked count) "all_session_keys_revoked" [("count", .int count)]
  | actionExecuted (key : String) (action : Json) (timestamp : Int) :
      IsSpelled (.actionExecuted key action timestamp) "session_action_executed"
        [("key_identity", .str key), ("action", action), ("timestamp", .int timestamp)]
  | delegateApproved (tokenAccount mint delegate : String) (amount : Int) :
      IsSpelled (.delegateApproved tokenAccount mint delegate amount) "token_delegate_approved"
        [("token_account", .str tokenAccount), ("mint", .str mint), ("delegate", .str delegate),
          ("amount", .int amount)]
  | delegatedTransfer (key source destination mint : String) (amount : Int) :
      IsSpelled (.delegatedTransfer key source destination mint amount) "token_delegated_transfer"
        [("key_identity", .str key), ("from_token", .str source), ("to_token", .str destination),
          ("mint", .str mint), ("amount", .int amount)]
  | delegateRevoked (tokenAccount : String) :
      IsSpelled (.delegateRevoked tokenAccount) "token_delegate_revoked"
        [("token_account", .str tokenAccount)]
  | mintsUpdated (mints : List String) :
      IsSpelled (.mintsUpdated mints) "allowed_mints_updated" [("mints", .arr (mints.map .str))]

namespace Notice

theorem isSpelled (n : Notice) : n.IsSpelled n.kind.name n.details := by
  cases n <;> constructor

/-- Nothing that a notice is made of is missing from its details. -/
theorem eq_of_details {n m : Notice} (hkind : n.kind = m.kind) (h : n.details = m.details) :
    n = m := by
  cases n with
  | mintsUpdated ms =>
      cases m with
      | mintsUpdated ms' =>
          have hmap : ms.map Json.str = ms'.map Json.str := by simpa [details] using h
          rw [List.map_injective_iff.2 (fun _ _ => Json.str.inj) hmap]
      | _ => cases hkind
  | _ =>
      cases m <;> cases hkind
      simp_all [details]

end Notice

theorem EventKind.ofName?_name (k : EventKind) : ofName? k.name = some k := by
  cases k <;> decide

theorem EventKind.name_injective : Function.Injective name := by
  intro k l h
  have hk := k.ofName?_name
  rw [h, l.ofName?_name] at hk
  exact (Option.some.inj hk).symm

namespace Journal

open Calendar (Instant)
open Text (IsAsciiText)

structure Stamped where
  now : Instant
  event : Event

namespace Stamped

def entry (t : Stamped) : Json :=
  .obj
    [("recorded_at", .str ((Calendar.isoText? t.now).getD "")),
      ("event_type", .str t.event.notice.kind.name), ("authority", .str t.event.authority),
      ("details", .obj t.event.notice.details)]

/-- That the time has a date and the event no integer that is too long. -/
structure IsWritable (t : Stamped) : Prop where
  dated : (Calendar.isoText? t.now).isSome
  written : t.event.toJson.isWritable

/-- That the entry is moreover read as what was written. -/
structure IsRecordable (t : Stamped) : Prop extends t.IsWritable where
  faithful : Json.parse (Json.render .line t.entry) = .ok t.entry

/-- Events with the same entry are the same. -/
theorem event_eq_of_entry {t u : Stamped} (h : t.entry = u.entry) : t.event = u.event := by
  obtain ⟨-, hkind, hauthority, hdetails⟩ : _ ∧
    t.event.notice.kind.name = u.event.notice.kind.name ∧
      t.event.authority = u.event.authority ∧ t.event.notice.details = u.event.notice.details := by
    simpa [entry] using h
  have hnotice := Notice.eq_of_details (EventKind.name_injective hkind) hdetails
  cases ht : t.event with
  | mk authority notice =>
      rw [ht] at hauthority hnotice
      exact congrArg₂ Event.mk hauthority hnotice

end Stamped

def emitAll (j : Journal) (ts : List Stamped) : Journal :=
  ts.foldl (fun j t => j.emit t.now t.event) j

def EndsLine : Journal → Prop
  | .buffer _ => True
  | .file none => True
  | .file (some text) => text = "" ∨ ∃ t, text = t ++ "\n"

inductive Step where
  | emit (t : Stamped)
  | drain

namespace Step

def line? : Step → Option String
  | .emit t => Journal.line? t.now t.event
  | .drain => none

def act : Step → Journal → List String × Journal
  | .emit t, j => ([], j.emit t.now t.event)
  | .drain, j => j.drain

end Step

/-- All lines that are given up on the way, and the journal in the end. -/
def run (j : Journal) : List Step → List String × Journal
  | [] => ([], j)
  | s :: ss => ((s.act j).1 ++ (run (s.act j).2 ss).1, (run (s.act j).2 ss).2)

/-! ## The line of an event -/

section

variable {t : Stamped}

theorem entry_eq (h : (Calendar.isoText? t.now).isSome) :
    ∃ recordedAt, Calendar.isoText? t.now = some recordedAt ∧
      t.entry = .obj (("recorded_at", .str recordedAt) :: t.event.toFields) := by
  obtain ⟨recordedAt, hat⟩ := Option.isSome_iff_exists.1 h
  exact ⟨recordedAt, hat, by simp [Stamped.entry, hat, Event.toFields]⟩

theorem line?_eq (ht : t.IsWritable) :
    line? t.now t.event = some (Json.render .line t.entry) := by
  obtain ⟨recordedAt, hat, hentry⟩ := entry_eq ht.dated
  rw [line?, if_pos ht.written, hat, hentry]
  rfl

theorem emit_eq_append (j : Journal) (ht : t.IsWritable) :
    j.emit t.now t.event = j.append (Json.render .line t.entry) := by
  rw [emit, line?_eq ht]

/-- There are no blanks around the line of an event. -/
theorem strip_render (t : Stamped) :
    Text.strip (Json.render .line t.entry).toList = (Json.render .line t.entry).toList := by
  rw [Json.render, String.toList_ofList, Stamped.entry, Json.chars]
  simp only [List.cons_append, List.append_assoc]
  simp only [← List.append_assoc]
  exact Text.stripWith_of_ends (by decide) (by decide) _

theorem documents_line (ht : t.IsRecordable) :
    documents [Json.render .line t.entry] = .ok [t.entry] := by
  have hne : (Json.render .line t.entry).isEmpty = false := by
    rw [Json.render, Stamped.entry, Json.chars]
    simp
  unfold documents
  simp only [strip_render, String.ofList_toList, hne, ht.faithful]
  rfl

/-- What holds of the details of an event is enough for it to be read as what was written. -/
theorem isRecordable_of_isReadable (ht : t.IsWritable)
    (hdetails : (Json.obj t.event.notice.details).isReadable (Json.Reader.maxDepth - 1)) :
    t.IsRecordable := by
  have hw : t.entry.isWritable := by
    obtain ⟨recordedAt, -, hentry⟩ := entry_eq ht.dated
    rw [hentry, Json.isWritable, Json.haveWritable, Bool.and_eq_true]
    exact ⟨rfl, ht.written⟩
  have hr : t.entry.isReadable Json.Reader.maxDepth := by
    change Json.isReadable (Json.Reader.maxDepth - 1 + 1) t.entry = true
    rw [Stamped.entry, Json.isReadable, Bool.and_eq_true, decide_eq_true_eq]
    refine ⟨by simp, ?_⟩
    simp only [Json.haveReadable, hdetails, Bool.and_true]
    rfl
  exact ⟨ht, Json.parse_render rfl hr hw⟩

end

/-! ## Lines and documents -/

section

variable {j : Journal} {line : String}

theorem endsLine_append (hj : j.EndsLine) (line : String) : (j.append line).EndsLine := by
  cases j with
  | buffer lines => trivial
  | file text => exact .inr ⟨text.getD "" ++ line, rfl⟩

/-- A text without breaks is one line, once it is ended. -/
theorem lines_ended {cs : List Char} (hcs : ∀ c ∈ cs, Text.isLineBreak c = false) :
    Text.lines (Text.unifyNewlines (cs ++ ['\n'])) = [cs] := by
  have hreturn : ∀ c ∈ cs ++ ['\n'], c ≠ '\r' := by
    rw [List.forall_mem_append, List.forall_mem_singleton]
    exact ⟨fun c hc => Text.ne_return_of_not_isLineBreak (hcs c hc), by decide⟩
  rw [Text.unifyNewlines_of_return_not_mem hreturn]
  exact Text.lines_of_not_isLineBreak hcs

theorem lines_append (hj : j.EndsLine) (hline : ∀ c ∈ line.toList, IsAsciiText c) :
    (j.append line).lines = j.lines ++ [line] := by
  have hlast := lines_ended fun c hc => (hline c hc).isLineBreak
  match j with
  | .buffer ls => rfl
  | .file none => simp [append, lines, hlast]
  | .file (some text) =>
      obtain rfl | ⟨t, rfl⟩ := hj
      · simp [append, lines, hlast, Text.unifyNewlines]
      · have hcut := Text.lines_unifyNewlines_append t.toList (line.toList ++ ['\n'])
        rw [hlast] at hcut
        simp_all [append, lines]

theorem documents_append (ls ms : List String) :
    documents (ls ++ ms) =
      (documents ls).bind fun js => (documents ms).map (js ++ ·) := by
  induction ls with
  | nil =>
      rw [List.nil_append]
      cases documents ms <;> rfl
  | cons l ls ih =>
      rw [List.cons_append, documents, documents, ih]
      split
      · rfl
      · split
        next =>
          cases documents ls with
          | error e => rfl
          | ok js => cases documents ms <;> rfl
        next => rfl
        next => rfl

theorem read_none (j : Journal) : j.read none = documents j.lines := by
  unfold read
  cases documents j.lines <;> rfl

theorem read_emit {t : Stamped} (hj : j.EndsLine) (ht : t.IsRecordable) :
    (j.emit t.now t.event).read none = (j.read none).map (· ++ [t.entry]) := by
  rw [emit_eq_append j ht.toIsWritable, read_none, read_none,
    lines_append hj (Json.isAsciiText_render _), documents_append, documents_line ht]
  cases documents j.lines <;> rfl

theorem endsLine_emit {t : Stamped} (hj : j.EndsLine) (ht : t.IsWritable) :
    (j.emit t.now t.event).EndsLine := by
  rw [emit_eq_append j ht]
  exact endsLine_append hj _

theorem read_emitAll {ts : List Stamped} (hj : j.EndsLine) (hts : ∀ t ∈ ts, t.IsRecordable) :
    (j.emitAll ts).read none = (j.read none).map (· ++ ts.map Stamped.entry) := by
  induction ts generalizing j with
  | nil =>
      change j.read none = _
      cases j.read none <;> simp [Except.map]
  | cons t ts ih =>
      rw [List.forall_mem_cons] at hts
      obtain ⟨ht, hts⟩ := hts
      change ((j.emit t.now t.event).emitAll ts).read none = _
      rw [ih (endsLine_emit hj ht.toIsWritable) hts, read_emit hj ht]
      cases j.read none <;> simp [Except.map]

end

/-! ## Buffers -/

theorem act_buffer (s : Step) (ls : List String) :
    ∃ ms, (s.act (.buffer ls)).2 = .buffer ms ∧
      (s.act (.buffer ls)).1 ++ ms = ls ++ s.line?.toList := by
  cases s with
  | emit t =>
      cases hline : Journal.line? t.now t.event with
      | none => exact ⟨ls, by simp [Step.act, emit, hline], by simp [Step.act, Step.line?, hline]⟩
      | some line =>
          exact ⟨ls ++ [line], by simp [Step.act, emit, hline, append],
            by simp [Step.act, Step.line?, hline]⟩
  | drain => exact ⟨[], rfl, by simp [Step.act, Step.line?, drain]⟩

theorem run_buffer (steps : List Step) (ls : List String) :
    ∃ ms, (run (.buffer ls) steps).2 = .buffer ms ∧
      (run (.buffer ls) steps).1 ++ ms = ls ++ steps.filterMap Step.line? := by
  induction steps generalizing ls with
  | nil => exact ⟨ls, rfl, by simp [run]⟩
  | cons s steps ih =>
      obtain ⟨ms, hms, hlines⟩ := act_buffer s ls
      obtain ⟨ns, hns, hrest⟩ := ih ms
      refine ⟨ns, by rw [run, hms, hns], ?_⟩
      calc
        (run (.buffer ls) (s :: steps)).1 ++ ns
          = (s.act (.buffer ls)).1 ++ ((run (.buffer ms) steps).1 ++ ns) := by
            rw [run, hms, List.append_assoc]
        _ = ls ++ s.line?.toList ++ steps.filterMap Step.line? := by
            rw [hrest, ← List.append_assoc, hlines]
        _ = ls ++ (s :: steps).filterMap Step.line? := by
            cases hs : s.line? <;> simp [hs]

/-! ## What a journal keeps -/

/--
An event adds one line, of ASCII text and a line feed, and leaves no line open. What is read after
some events is what was read before and then their entries; for that it is enough that the details
of each hold no fraction, name no field twice and are not nested beyond what can be read. An entry
has the type of its event, the authority, and all details under their names, so that events with the
same entry are the same. A buffer gives up, and keeps in the end, just the lines that were written.
-/
theorem keeps_events :
    (∀ (j : Journal) (t : Stamped), j.EndsLine → t.IsWritable → ∃ line,
      (∀ c ∈ line.toList, IsAsciiText c) ∧ j.emit t.now t.event = j.append line ∧
        (j.append line).lines = j.lines ++ [line] ∧ (j.append line).EndsLine) ∧
    (∀ (j : Journal) (ts : List Stamped), j.EndsLine → (∀ t ∈ ts, t.IsRecordable) →
      (j.emitAll ts).read none = (j.read none).map (· ++ ts.map Stamped.entry)) ∧
    (∀ t : Stamped, t.IsWritable →
      (Json.obj t.event.notice.details).isReadable (Json.Reader.maxDepth - 1) →
        t.IsRecordable) ∧
    (∀ t : Stamped, ∃ recordedAt type details, t.event.notice.IsSpelled type details ∧
      t.entry = .obj [("recorded_at", .str recordedAt), ("event_type", .str type),
        ("authority", .str t.event.authority), ("details", .obj details)]) ∧
    (∀ t u : Stamped, t.entry = u.entry → t.event = u.event) ∧
    (∀ (ls : List String) (steps : List Step), ∃ ms, (run (.buffer ls) steps).2 = .buffer ms ∧
      (run (.buffer ls) steps).1 ++ ms = ls ++ steps.filterMap Step.line?) := by
  refine ⟨?_, ?_, ?_, ?_, ?_, ?_⟩
  · intro j t hj ht
    have hline := Json.isAsciiText_render t.entry
    exact ⟨_, hline, emit_eq_append j ht, lines_append hj hline, endsLine_append hj _⟩
  · intro j ts hj hts
    exact read_emitAll hj hts
  · intro t ht hdetails
    exact isRecordable_of_isReadable ht hdetails
  · intro t
    exact ⟨_, _, _, t.event.notice.isSpelled, rfl⟩
  · intro t u h
    exact Stamped.event_eq_of_entry h
  · intro ls steps
    exact run_buffer steps ls

/-- A list of mints with a break, a quote and a line separator, told twice after a line of junk. -/
theorem keeps_events_behind_junk :
    let j : Journal := .file (some "junk\n")
    let t : Stamped := ⟨⟨1700000000, 250000⟩, ⟨"1", .mintsUpdated ["a\n\x22b", "\u2028\r"]⟩⟩
    j.EndsLine ∧ t.IsRecordable ∧ (j.emitAll [t, t]).read none = .ok [t.entry, t.entry] ∧
      ∃ line, j.emit t.now t.event = .file (some ("junk\n" ++ line ++ "\n")) ∧
        '\n' ∉ line.toList := by
  intro j t
  have hj : j.EndsLine := .inr ⟨"junk", rfl⟩
  have hw : t.IsWritable := ⟨by decide +kernel, by decide +kernel⟩
  have ht : t.IsRecordable := keeps_events.2.2.1 t hw (by decide +kernel)
  obtain ⟨line, hline, hemit, -, -⟩ := keeps_events.1 j t hj hw
  refine ⟨hj, ht, ?_, line, hemit, ?_⟩
  · rw [keeps_events.2.1 j [t, t] hj (by simp [ht])]
    rfl
  · intro h
    exact absurd (hline _ h) (by decide)

end Journal

end Keyring
