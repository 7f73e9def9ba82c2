import Keyring.Proofs.Command.Arguments
import Keyring.Proofs.Command.Report
import Keyring.Proofs.Engine.Atomicity
import Keyring.Proofs.Files
import Keyring.Proofs.Store.Apart

/-!
# Exit codes

A command that changes an account asks one operation of the engine. If the operation is refused, or
is never reached, the call ends with a code other than zero and every text is as it was. If it is
carried out, the change is kept, and all that can still go wrong is the printing: the code is zero
just when what is reported can be printed.
-/

namespace Keyring

namespace Command

def isChange : Command → Bool
  | .version => false
  | .keygen _ => false
  | .showAccount _ _ => false
  | .listKeys _ _ _ => false
  | _ => true

/--
The operation that a command asks of a world, and the world as of the look at the clock that comes
with it. A key is issued or revised only if its expiry and its permissions make sense.
-/
inductive Orders (c : Call) (w : World) : Command → World → Operation → Prop
  | openAccount (a : String) : Orders c w (.openAccount a) w (.openAccount a)
  | issue {a key : String} {o : IssueOptions} {spec : KeySpec} :
      specOf key o (c.readings 0) = .ok spec →
        Orders c w (.issue a key o) (w.withClock (c.readings o.expiry.looks)) (.issue a spec)
  | revise {a key : String} {e : Expiry} {preset? : Option Preset} {expiresAt? : Option Int} :
      ((w.key a key).bind fun k => e.resolve k.unit (c.readings 0)) = .ok expiresAt? →
        Orders c w (.revise a key e preset?) (w.withClock (c.readings e.looks))
          (.revise a key expiresAt? (preset?.map Preset.permissions))
  | revoke (a key : String) : Orders c w (.revoke a key) w (.revoke a key)
  | revokeAll (a : String) : Orders c w (.revokeAll a) w (.revokeAll a)
  | prune (a : String) : Orders c w (.prune a) w (.prune a)
  | setMints (a : String) (mints : List String) :
      Orders c w (.setMints a mints) w (.setMints a mints)

def Commits (c : Call) (w : World) (cmd : Command) (answer : Answer) (w' : World) : Prop :=
  ∃ w₁ op, Orders c w cmd w₁ op ∧ w₁.step op = (.ok answer, w')

/-- What a command comes to on a world: the report or the fault of its operation, or a fault before
any operation. -/
inductive Result (c : Call) (w : World) (cmd : Command) : Outcome (List Print) × World → Prop
  | done {w₁ w' : World} {op : Operation} {answer : Answer} :
      Orders c w cmd w₁ op → w₁.step op = (.ok answer, w') →
        Result c w cmd (.ok (cmd.report answer), w')
  | failed {w₁ w' : World} {op : Operation} {f : Fault} :
      Orders c w cmd w₁ op → w₁.step op = (.error f, w') → Result c w cmd (.error f, w')
  | refused {f : Fault} : (∀ w₁ op, ¬ Orders c w cmd w₁ op) → Result c w cmd (.error f, w)

variable {c : Call} {w w₁ w₂ w' : World} {cmd : Command} {op op' : Operation} {answer : Answer}
  {f : Fault}

theorem Orders.unique (h : Orders c w cmd w₁ op) (h' : Orders c w cmd w₂ op') :
    w₂ = w₁ ∧ op' = op := by
  cases h with
  | issue hspec =>
      cases h' with
      | issue hspec' =>
          obtain rfl := Except.ok.inj (hspec.symm.trans hspec')
          exact ⟨rfl, rfl⟩
  | revise hat =>
      cases h' with
      | revise hat' =>
          obtain rfl := Except.ok.inj (hat.symm.trans hat')
          exact ⟨rfl, rfl⟩
  | _ =>
      cases h'
      exact ⟨rfl, rfl⟩

theorem Orders.kept (h : Orders c w cmd w₁ op) :
    w₁.store = w.store ∧ w₁.sink = w.sink ∧ op.isBatch = false := by
  cases h <;> exact ⟨rfl, rfl, rfl⟩

/-- An operation that fails leaves at most a draft. -/
theorem Orders.drafts (h : Orders c w cmd w₁ op) (hstep : w₁.step op = (.error f, w')) :
    w.store.Drafts w'.store ∧ w'.sink = w.sink := by
  obtain ⟨hstore, hsink, hbatch⟩ := h.kept
  have hspares := (w₁.spares_step hbatch f (congrArg Prod.fst hstep)).1
  rw [hstep] at hspares
  obtain ⟨s, hs, rfl⟩ := hspares
  exact ⟨hstore ▸ hs, hsink⟩

theorem result_printed {α : Type} {g : α → List Print} {g' : α → Answer} {r : Outcome α × World}
    (h : Orders c w cmd w₁ op) (hstep : w₁.step op = World.answered g' r)
    (hreport : ∀ y, cmd.report (g' y) = g y) : Result c w cmd (printed g r) := by
  obtain ⟨r, w'⟩ := r
  cases r with
  | error e => exact .failed h hstep
  | ok y =>
      have hresult := Result.done h hstep
      rw [hreport] at hresult
      exact hresult

theorem Result.of_commits {r : Outcome (List Print) × World} (hr : Result c w cmd r)
    (h : Commits c w cmd answer w') : r = (.ok (cmd.report answer), w') := by
  obtain ⟨w₁, op, horders, hstep⟩ := h
  cases hr with
  | refused hnone => exact absurd horders (hnone _ _)
  | failed horders' hstep' =>
      obtain ⟨rfl, rfl⟩ := horders.unique horders'
      rw [hstep] at hstep'
      cases hstep'
  | done horders' hstep' =>
      obtain ⟨rfl, rfl⟩ := horders.unique horders'
      rw [hstep] at hstep'
      cases hstep'
      rfl

theorem result_issueBody (a key : String) (o : IssueOptions) :
    Result c w (.issue a key o) (issueBody c a key o w) := by
  unfold issueBody
  split
  next f hspec =>
    refine .refused ?_
    rintro w₁ op ⟨⟩
    next hspec' =>
      rw [hspec] at hspec'
      cases hspec'
  next spec hspec => exact result_printed (.issue hspec) rfl fun _ => rfl

theorem result_reviseBody (a key : String) (e : Expiry) (preset? : Option Preset) :
    Result c w (.revise a key e preset?) (reviseBody c a key e preset? w) := by
  unfold reviseBody
  split
  next f hat =>
    refine .refused ?_
    rintro w₁ op ⟨⟩
    next hat' =>
      rw [hat] at hat'
      cases hat'
  next expiresAt? hat => exact result_printed (.revise hat) rfl fun _ => rfl

/-- A changing command is something done with the engine. -/
theorem perform_eq_act (hcmd : cmd.isChange) (s : Setup) (c : Call) (m : Machine) :
    ∃ caught body, cmd.perform s c m = s.act c m (c.readings 0) caught body ∧
      ∀ w, Result c w cmd (body w) := by
  cases cmd with
  | openAccount a =>
      refine ⟨Fault.isReported, fun w => printed (openedPrints a) (w.openAccount a),
        by rw [perform], fun w => ?_⟩
      exact result_printed (.openAccount a) (by rw [World.step]) fun _ => rfl
  | issue a key o =>
      exact ⟨Fault.isReported, issueBody c a key o, by rw [perform],
        fun w => result_issueBody a key o⟩
  | revise a key e preset? =>
      exact ⟨Fault.isReported, reviseBody c a key e preset?, by rw [perform],
        fun w => result_reviseBody a key e preset?⟩
  | revoke a key =>
      refine ⟨Fault.isRefusal, fun w => printed _ (w.revoke a key), by rw [perform], fun w => ?_⟩
      exact result_printed (.revoke a key) (by rw [World.step]) fun _ => rfl
  | revokeAll a =>
      refine ⟨Fault.isRefusal, fun w => printed _ (w.revokeAll a), by rw [perform], fun w => ?_⟩
      exact result_printed (.revokeAll a) (by rw [World.step]) fun _ => rfl
  | prune a =>
      refine ⟨Fault.isRefusal, fun w => printed _ (w.prune a), by rw [perform], fun w => ?_⟩
      exact result_printed (.prune a) (by rw [World.step]) fun _ => rfl
  | setMints a mints =>
      refine ⟨Fault.isRefusal, fun w => printed _ (w.setMints a mints), by rw [perform],
        fun w => ?_⟩
      exact result_printed (.setMints a mints) (by rw [World.step]) fun _ => rfl
  | _ => cases hcmd

theorem Commits.setMints {a : String} {mints : List String}
    (h : Commits c w (.setMints a mints) answer w') : answer = .mints mints.eraseDups := by
  obtain ⟨w₁, op, horders, hstep⟩ := h
  cases horders
  rw [World.step, World.setMints_eq] at hstep
  rcases w.changed_cases a (Account.setMints mints) fun ms => some (.mintsUpdated ms) with
    ⟨f, w'', hfault, -⟩ | ⟨x, ms, x', s', -, hbody, -, hok⟩
  · rw [hfault] at hstep
    cases hstep
  · obtain ⟨-, rfl, -⟩ := Account.setMints_eq_ok_iff.1 hbody
    rw [hok] at hstep
    cases hstep
    rfl

/-- A command that repeats no bracket is told of in a way that can be printed. -/
theorem printed_report (hcmd : cmd.SpeaksPlainly)
    (h : Commits c w cmd answer w') : ∀ p ∈ cmd.report answer, p.IsPrinted := by
  obtain ⟨w₁, op, horders, hstep⟩ := h
  cases horders with
  | openAccount a =>
      rcases w.step_openAccount a with ⟨f, hfault⟩ | ⟨x, s', hx, -, hok⟩
      · rw [hfault] at hstep
        cases hstep
      · rw [hok] at hstep
        cases hstep
        exact printed_openedPrints hx
  | issue hspec =>
      cases answer with
      | key k => exact printed_keyPrints (by decide) hcmd k
      | _ => exact List.forall_mem_nil _
  | revise hat =>
      cases answer with
      | key k => exact printed_keyPrints (by decide) hcmd k
      | _ => exact List.forall_mem_nil _
  | revoke a key =>
      cases answer with
      | key k =>
          rw [report, List.forall_mem_singleton]
          exact isPrintable_revokedLine hcmd
      | _ => exact List.forall_mem_nil _
  | revokeAll a =>
      cases answer with
      | count n => exact printed_countPrints (by decide) n
      | _ => exact List.forall_mem_nil _
  | prune a =>
      cases answer with
      | count n => exact printed_countPrints (by decide) n
      | _ => exact List.forall_mem_nil _
  | setMints a mints =>
      have hcommits : Commits c w (.setMints a mints) answer w' := ⟨w, _, .setMints a mints, hstep⟩
      rw [hcommits.setMints]
      exact printed_mintsPrints fun m hm => hcmd m (List.mem_eraseDups.1 hm)

end Command

namespace Ending

theorem code_ofPrints (ps : List Print) : (ofPrints ps).code = 0 ↔ ∀ p ∈ ps, p.IsPrinted := by
  rw [← printAll_eq_none_iff]
  unfold ofPrints printing
  split
  next ls h => simp [h, code]
  next ls u h => simp [h, code]

theorem code_ofReport (message : String) : (ofReport message).code = 1 := by
  unfold ofReport printing
  split <;> rfl

theorem code_ofFlaws (flaws : List (Settings.Field × Settings.Flaw)) :
    (ofFlaws flaws).code ≠ 0 := by
  unfold ofFlaws printing
  split <;> exact Nat.one_ne_zero

theorem code_ofOutcome_error (caught : Fault → Bool) (f : Fault) :
    (ofOutcome caught (.error f)).code = 1 := by
  rw [ofOutcome]
  split
  · exact code_ofReport _
  · rfl

end Ending

namespace Setup

variable {s : Setup} {c : Call} {m : Machine} {f : Files} {cmd : Command} {answer : Answer}
  {w : World}

@[simp] theorem texts_prepare (s : Setup) (f : Files) : (s.prepare f).1.texts = f.texts := by
  have hfolder := f.texts_makeFolder s.folder
  unfold prepare
  split
  next g j hg _ =>
    rw [hg] at hfolder
    rw [Files.texts_makeFolder, hfolder]
  next => exact hfolder

/-- Whether a place is that of a draft whose document would have to take the place of a folder. -/
def IsStuck (s : Setup) (f : Files) (x : Place) : Prop :=
  ∃ q a, f.locate s.folder = .ok q ∧ x = q ++ [Folder.draftName a] ∧
    q ++ [Folder.fileName a] ∈ f.folders

/-- It is not that of a document. -/
theorem not_isStuck_document (q : Place) (a : String) :
    ¬ s.IsStuck f (q ++ [Folder.fileName a]) := by
  rintro ⟨q', b, -, hx, -⟩
  have hname := List.append_inj_right' hx rfl
  exact Folder.draftName_ne_fileName b a (List.singleton_inj.1 hname).symm

/-- Only the texts of the folder are kept where no event has been recorded. -/
theorem keep_of_sink {kept : Folder} (hstore : w.store = .folder kept)
    (hsink : w.sink = (s.world c (c.readings 0) f).sink) :
    s.keep w f = f.setTexts s.folder kept.texts := by
  have hrecord (g : Files) : s.record [] g = g := by
    unfold record
    split
    · rfl
    · split <;> rfl
  unfold keep
  rw [hstore, hsink]
  unfold world
  cases s.journal? with
  | none => rfl
  | some j => exact hrecord _

/-- Files kept of a world with the accounts and the events that it began with. -/
theorem text?_keep (hstore : w.store = (s.world c (c.readings 0) f).store)
    (hsink : w.sink = (s.world c (c.readings 0) f).sink) (x : Place) :
    (s.keep w f).text? x = f.text? x := by
  rw [keep_of_sink hstore hsink]
  exact f.text?_setTexts_folderAt s.folder x

/-- A draft that has stayed behind is one whose document would have to take the place of
a folder. -/
theorem text?_keep_drafts {x : Place} (hx : ¬ s.IsStuck f x)
    (hstore : (s.world c (c.readings 0) f).store.Drafts w.store)
    (hsink : w.sink = (s.world c (c.readings 0) f).sink) : (s.keep w f).text? x = f.text? x := by
  generalize hw : w.store = s' at hstore
  cases hstore with
  | nothing => exact text?_keep hw hsink x
  | @draft g a hg hfolder text =>
      obtain rfl : f.folderAt s.folder = g := Store.folder.inj hg
      rw [keep_of_sink hw hsink]
      cases hq : f.locate s.folder with
      | error e => rw [Files.setTexts, hq]
      | ok q =>
          cases hname : Place.nameIn? q x with
          | none => exact Files.text?_setTexts_other hq _ hname
          | some name =>
              obtain rfl := Place.nameIn?_eq_some hname
              have hne : name ≠ Folder.draftName a := by
                rintro rfl
                exact hx ⟨q, a, hq, rfl, Files.mem_of_hasFolder hq hfolder⟩
              rw [Files.text?_setTexts hq, Folder.drafted, field?_putField, if_neg hne,
                Files.field?_folderAt hq]

def Commits (s : Setup) (c : Call) (f : Files) (cmd : Command) (answer : Answer) (w : World) :
    Prop :=
  ∃ g, s.prepare f = (g, none) ∧ cmd.Commits c (s.world c (c.readings 0) g) answer w

/-- With the folders in place, a command does what its operation does. -/
theorem commits_of_step {w₁ : World} {op : Operation} (hprepare : s.prepare f = (f, none))
    (horders : cmd.Orders c (s.world c (c.readings 0) f) w₁ op)
    (hstep : (w₁.step op).1 = .ok answer) : ∃ w, s.Commits c f cmd answer w :=
  ⟨_, f, hprepare, w₁, op, horders, Prod.ext hstep rfl⟩

theorem not_commits_of_step {w₁ : World} {op : Operation} {e : Fault}
    (hprepare : s.prepare f = (f, none))
    (horders : cmd.Orders c (s.world c (c.readings 0) f) w₁ op)
    (hstep : (w₁.step op).1 = .error e) : ∀ answer w, ¬ s.Commits c f cmd answer w := by
  rintro answer w ⟨g, hg, w₂, op', horders', hstep'⟩
  obtain rfl : f = g := congrArg Prod.fst (hprepare.symm.trans hg)
  obtain ⟨rfl, rfl⟩ := horders.unique horders'
  rw [hstep'] at hstep
  cases hstep

theorem printed_report (s : Setup) (hcmd : cmd.SpeaksPlainly)
    (h : s.Commits c m.files cmd answer w) : ∀ p ∈ cmd.report answer, p.IsPrinted := by
  obtain ⟨g, -, hcommits⟩ := h
  exact Command.printed_report hcmd hcommits

theorem perform_of_commits (hcmd : cmd.isChange) (h : s.Commits c m.files cmd answer w) :
    (cmd.perform s c m).2 = { m with files := s.keep w (s.prepare m.files).1 } ∧
      ((cmd.perform s c m).1.code = 0 ↔ ∀ p ∈ cmd.report answer, p.IsPrinted) := by
  obtain ⟨caught, body, hperform, hresult⟩ := Command.perform_eq_act hcmd s c m
  obtain ⟨g, hprepare, hcommits⟩ := h
  have hbody := (hresult (s.world c (c.readings 0) g)).of_commits hcommits
  rw [hperform, act, hprepare]
  dsimp only
  rw [hbody]
  exact ⟨rfl, Ending.code_ofPrints _⟩

/-- A place keeps its text when a command is not carried out, if the operation that fails
leaves it. -/
theorem perform_of_fails (hcmd : cmd.isChange)
    (h : ∀ answer w, ¬ s.Commits c m.files cmd answer w) :
    (cmd.perform s c m).1.code = 1 ∧ ∀ x,
      (∀ g w₁ op e w', s.prepare m.files = (g, none) →
        cmd.Orders c (s.world c (c.readings 0) g) w₁ op → w₁.step op = (.error e, w') →
          (s.keep w' g).text? x = g.text? x) →
      (cmd.perform s c m).2.files.text? x = m.files.text? x := by
  obtain ⟨caught, body, hperform, hresult⟩ := Command.perform_eq_act hcmd s c m
  have htexts := s.texts_prepare m.files
  have hprepared (x : Place) : (s.prepare m.files).1.text? x = m.files.text? x := by
    rw [Files.text?, htexts, Files.text?]
  rw [hperform, act]
  cases hprepare : s.prepare m.files with
  | mk g e =>
      rw [hprepare] at hprepared
      cases e with
      | some e => exact ⟨rfl, fun x _ => hprepared x⟩
      | none =>
          have hbody := hresult (s.world c (c.readings 0) g)
          cases hr : body (s.world c (c.readings 0) g) with
          | mk r w' =>
              rw [hr] at hbody
              simp only [hr]
              cases hbody with
              | done horders hstep => exact absurd ⟨g, hprepare, _, _, horders, hstep⟩ (h _ _)
              | failed horders hstep =>
                  refine ⟨Ending.code_ofOutcome_error _ _, fun x hx => ?_⟩
                  exact (hx g _ _ _ _ rfl horders hstep).trans (hprepared x)
              | refused hnone =>
                  refine ⟨Ending.code_ofOutcome_error _ _, fun x _ => ?_⟩
                  exact (text?_keep rfl rfl x).trans (hprepared x)

theorem perform_of_not_commits (hcmd : cmd.isChange)
    (h : ∀ answer w, ¬ s.Commits c m.files cmd answer w) :
    (cmd.perform s c m).1.code ≠ 0 ∧ ∀ x, ¬ s.IsStuck (s.prepare m.files).1 x →
      (cmd.perform s c m).2.files.text? x = m.files.text? x := by
  obtain ⟨hcode, htexts⟩ := perform_of_fails hcmd h
  refine ⟨hcode ▸ Nat.one_ne_zero, fun x hx => htexts x ?_⟩
  intro g w₁ op e w' hprepare horders hstep
  obtain ⟨hstore, hsink⟩ := horders.drafts hstep
  rw [hprepare] at hx
  exact text?_keep_drafts hx hstore hsink

end Setup

namespace Call

def comesTo? (c : Call) (f : Files) (args : List String) : Option (Setup × Command) :=
  match CommandLine.parse args with
  | .error _ => none
  | .ok line =>
    match checkPaths f line.paths, line.command?, Settings.ofEnvironment c.environment with
    | none, some (name, args), .ok settings =>
      match checkPaths f (Command.paths name args), Command.parse name args with
      | none, .ok cmd => some (.of line settings, cmd)
      | _, _ => none
    | _, _, _ => none

variable {c : Call} {m : Machine} {args : List String}

theorem code_checkPaths {f : Files} {paths : List (String × String)} {e : Ending}
    (h : checkPaths f paths = some e) : e.code ≠ 0 := by
  obtain ⟨p, -, hp⟩ := List.exists_of_findSome?_eq_some h
  unfold checkPath at hp
  split at hp
  · cases hp
    exact Nat.one_ne_zero
  · split at hp
    · cases hp
    · split at hp <;> cases hp
      decide
    · split at hp <;> cases hp
      decide

/-- Whether a call ends with a complaint, or with what one of its arguments asks for. -/
inductive TurnsAway (args : List String) : Ending → Prop
  | complaint {e : Ending} (h : e.code ≠ 0) : TurnsAway args e
  | shown {i : Inquiry} (h : i.flag ∈ args) : TurnsAway args (.halted (.inquiry i))

theorem TurnsAway.code_eq_zero_iff {e : Ending} (h : TurnsAway args e) :
    e.code = 0 ↔ ∃ i : Inquiry, i.flag ∈ args ∧ e = .halted (.inquiry i) := by
  cases h with
  | complaint hcode =>
      refine iff_of_false hcode ?_
      rintro ⟨i, -, rfl⟩
      exact hcode rfl
  | @shown i hi => exact iff_of_true rfl ⟨i, hi, rfl⟩

theorem turnsAway_halted {α : Type} {h : Halt}
    (hasks : OnlyAsks args (.error h : Except Halt α)) : TurnsAway args (.halted h) := by
  cases h with
  | misuse => exact .complaint (by decide)
  | inquiry i => exact .shown (hasks i rfl)

theorem turnsAway_misnamed {f : Files} {words : List String} (h : words ⊆ args) :
    TurnsAway args (misnamed f words) := by
  unfold misnamed
  split
  next e he => exact turnsAway_halted ((he ▸ CommandLine.onlyAsks words).mono h)
  next line _ =>
    cases hpaths : checkPaths f line.paths with
    | some e => exact .complaint (code_checkPaths hpaths)
    | none => exact .complaint (by decide)

/-- A call is the command that it comes to, or else it is turned away. -/
theorem run_cases (c : Call) (m : Machine) (args : List String) :
    (∃ s cmd, c.comesTo? m.files args = some (s, cmd) ∧ run c m args = cmd.perform s c m) ∨
      c.comesTo? m.files args = none ∧ ∃ e, TurnsAway args e ∧ run c m args = (e, m) := by
  have hasks := CommandLine.onlyAsks args
  unfold comesTo? run
  cases hline : CommandLine.parse args with
  | error h => exact .inr ⟨rfl, _, turnsAway_halted (hline ▸ hasks), rfl⟩
  | ok line =>
      have hwords := CommandLine.words_subset hline
      dsimp only
      cases hpaths : checkPaths m.files line.paths with
      | some e => exact .inr ⟨rfl, e, .complaint (code_checkPaths hpaths), rfl⟩
      | none =>
          cases hcommand : line.command? with
          | none => exact .inr ⟨rfl, _, turnsAway_misnamed hwords, rfl⟩
          | some named =>
              obtain ⟨name, rest⟩ := named
              cases Settings.ofEnvironment c.environment with
              | error flaws => exact .inr ⟨rfl, _, .complaint (Ending.code_ofFlaws flaws), rfl⟩
              | ok settings =>
                  dsimp only
                  cases hpaths : checkPaths m.files (Command.paths name rest) with
                  | some e => exact .inr ⟨rfl, e, .complaint (code_checkPaths hpaths), rfl⟩
                  | none =>
                      cases hparse : Command.parse name rest with
                      | ok cmd => exact .inl ⟨_, cmd, rfl, rfl⟩
                      | error h =>
                          have hrest := List.Subset.trans (CommandLine.rest_subset hcommand) hwords
                          have hasks := (Command.onlyAsks name rest).mono hrest
                          exact .inr ⟨rfl, _, turnsAway_halted (hparse ▸ hasks), rfl⟩

/-- What a call without options works with. -/
def plainSetup : Setup := .of ⟨[], []⟩ {}

def treeOf (a : Account) : Files :=
  ⟨[[".session-keys"]], [([".session-keys", Folder.fileName a.authority], a.toJson.render .sheet)]⟩

theorem folderAt_treeOf (a : Account) : (treeOf a).folderAt plainSetup.folder =
    { texts := [(Folder.fileName a.authority, a.toJson.render .sheet)] } := by
  have hroom : min Folder.maxName (Path.maxSize - (plainSetup.folder.child "").text.utf8ByteSize) =
      Folder.maxName := by
    decide +kernel
  have hlocate : (treeOf a).locate plainSetup.folder = .ok [".session-keys"] := rfl
  unfold Files.folderAt
  rw [hlocate]
  dsimp only
  rw [hroom]
  rfl

/-- An account that is kept there is found there. -/
theorem load_treeOf (c : Call) (r : Reading) {a : Account} (ha : a.WellFormed)
    (hwritable : a.toJson.isWritable) (hplace : Folder.HasPlace {} a.authority) :
    (plainSetup.world c r (treeOf a)).store.load a.authority = .ok a := by
  have hsaved : ({} : Folder).save a = .ok ((treeOf a).folderAt plainSetup.folder) :=
    Folder.save_eq_ok_iff.2 ⟨hwritable, hplace, folderAt_treeOf a⟩
  exact (Folder.load_of_save hsaved rfl).trans (Account.ofJson_toJson ha)

/-- What becomes of it can be saved there again. -/
theorem exists_save_treeOf (c : Call) (r : Reading) {a b : Account}
    (hwritable : b.toJson.isWritable) (hauthority : b.authority = a.authority)
    (hplace : Folder.HasPlace {} a.authority) :
    ∃ s', (plainSetup.world c r (treeOf a)).store.save b = .ok s' := by
  have hstore : (plainSetup.world c r (treeOf a)).store =
      .folder { texts := [(Folder.fileName a.authority, a.toJson.render .sheet)] } :=
    congrArg Store.folder (folderAt_treeOf a)
  rw [hstore]
  refine Store.exists_save_folder hwritable ?_
  rw [hauthority]
  exact ⟨hplace.draft, hplace.name⟩

/-- Every list of mints that is short enough can be set on an account that is kept there. -/
theorem commits_treeOf (c : Call) {a : Account} (ha : a.WellFormed)
    (hwritable : a.toJson.isWritable) (hplace : Folder.HasPlace {} a.authority)
    {mints : List String} (hmints : mints.length ≤ Allowlist.maxMints) :
    ∃ w, plainSetup.Commits c (treeOf a) (.setMints a.authority mints)
      (.mints mints.eraseDups) w := by
  let w := plainSetup.world c (c.readings 0) (treeOf a)
  have hload : w.store.load a.authority = .ok a :=
    load_treeOf c (c.readings 0) ha hwritable hplace
  have hchanged : { a with mints := ⟨mints.eraseDups⟩ }.toJson.isWritable = true := by
    rw [Account.isWritable_iff] at hwritable ⊢
    exact hwritable
  obtain ⟨s', hsave⟩ : ∃ s', w.store.save { a with mints := ⟨mints.eraseDups⟩ } = .ok s' :=
    exists_save_treeOf c (c.readings 0) hchanged rfl hplace
  have hbody : a.setMints mints = .ok (mints.eraseDups, { a with mints := ⟨mints.eraseDups⟩ }) :=
    Account.setMints_eq_ok_iff.2 ⟨hmints, rfl, rfl⟩
  refine Setup.commits_of_step rfl (.setMints _ _) ?_
  rw [World.step, World.setMints_eq,
    World.changed_of_ok hload hbody hsave fun ms => some (.mintsUpdated ms)]
  rfl

/-! ## The code and the commit -/

/-- A call that comes to no command changes nothing, and its code is zero only if it shows the help
or the version that one of its arguments asks for. A changing command that is carried out keeps what
it has done, and its code is zero just when its report can be printed; one that is not ends with a
code other than zero, every text being as it was, but for the draft of a document that cannot take
the place of a folder. So the code tells whether the command was carried out, unless the arguments
that are repeated in the report have brackets in them.
-/
theorem exits_with_commit (c : Call) (m : Machine) (args : List String) :
    (c.comesTo? m.files args = none → (run c m args).2 = m ∧ ((run c m args).1.code = 0 ↔
      ∃ i : Inquiry, i.flag ∈ args ∧ (run c m args).1 = .halted (.inquiry i))) ∧
    ∀ s cmd, c.comesTo? m.files args = some (s, cmd) → cmd.isChange →
      (∀ answer w, s.Commits c m.files cmd answer w →
        (run c m args).2 = { m with files := s.keep w (s.prepare m.files).1 } ∧
          ((run c m args).1.code = 0 ↔ ∀ p ∈ cmd.report answer, p.IsPrinted)) ∧
      ((∀ answer w, ¬ s.Commits c m.files cmd answer w) → (run c m args).1.code ≠ 0 ∧
        ∀ x, ¬ s.IsStuck (s.prepare m.files).1 x →
          (run c m args).2.files.text? x = m.files.text? x) ∧
      (cmd.SpeaksPlainly →
        ((run c m args).1.code = 0 ↔ ∃ answer w, s.Commits c m.files cmd answer w) ∧
          ((run c m args).1.code ≠ 0 → ∀ x, ¬ s.IsStuck (s.prepare m.files).1 x →
            (run c m args).2.files.text? x = m.files.text? x)) := by
  rcases c.run_cases m args with ⟨s, cmd, hcall, hrun⟩ | ⟨hnone, e, he, hrun⟩
  · rw [hcall, hrun]
    refine ⟨nofun, ?_⟩
    rintro s' cmd' ⟨⟩ hcmd
    have hfailed := Setup.perform_of_not_commits (s := s) (c := c) (m := m) hcmd
    refine ⟨fun answer w => Setup.perform_of_commits hcmd, hfailed, fun hplain => ?_⟩
    by_cases hdone : ∃ answer w, s.Commits c m.files cmd answer w
    · obtain ⟨answer, w, hcommits⟩ := hdone
      have hcode := (Setup.perform_of_commits hcmd hcommits).2.2
        (s.printed_report hplain hcommits)
      exact ⟨⟨fun _ => ⟨answer, w, hcommits⟩, fun _ => hcode⟩, fun hne => absurd hcode hne⟩
    · have hnot : ∀ answer w, ¬ s.Commits c m.files cmd answer w :=
        fun answer w h => hdone ⟨answer, w, h⟩
      obtain ⟨hcode, htexts⟩ := hfailed hnot
      exact ⟨⟨fun h => absurd h hcode, fun h => absurd h hdone⟩, fun _ => htexts⟩
  · rw [hnone, hrun]
    refine ⟨fun _ => ⟨rfl, he.code_eq_zero_iff⟩, fun s cmd h => ?_⟩
    cases h

/-- A list of mints that is set on the only account, one that is set on an account that is not
there, and calls without an account, of which one asks for help. -/
theorem exits_with_commit_mints :
    let c : Call := ⟨[], fun _ => ⟨1700000000, 4250000000⟩, ⟨1700000000, 250000⟩⟩
    let m : Machine := { files := treeOf { authority := "1", address := "p", bump := 255 } }
    (run c m ["mints", "set", "1", "m"]).1.code = 0 ∧
    ((run c m ["mints", "set", "2", "m"]).1.code ≠ 0 ∧ ∀ q a,
      (run c m ["mints", "set", "2", "m"]).2.files.text? (q ++ [Folder.fileName a]) =
        m.files.text? (q ++ [Folder.fileName a])) ∧
    (run c m ["mints", "set"]).1.code ≠ 0 ∧
    (run c m ["mints", "set", "--help"]).1.code = 0 ∧
      (run c m ["mints", "set", "--help"]).2 = m := by
  intro c m
  refine ⟨?_, ?_, ?_, ?_⟩
  · obtain ⟨-, -, hplain⟩ := (exits_with_commit c m ["mints", "set", "1", "m"]).2 _ _ rfl rfl
    have hspeaks : (Command.setMints "1" ["m"]).SpeaksPlainly := by
      rw [Command.SpeaksPlainly, List.forall_mem_singleton]
      decide
    have hwell := Account.wellFormed_blank "1" "p" 255
    exact (hplain hspeaks).1.2
      ⟨_, commits_treeOf c hwell (by decide +kernel) ⟨rfl, rfl⟩ (by decide)⟩
  · obtain ⟨-, hfailed, -⟩ := (exits_with_commit c m ["mints", "set", "2", "m"]).2 _ _ rfl rfl
    obtain ⟨hcode, htexts⟩ := hfailed (Setup.not_commits_of_step rfl (.setMints _ _) rfl)
    exact ⟨hcode, fun q a => htexts _ (Setup.not_isStuck_document q a)⟩
  · intro hcode
    obtain ⟨i, hi, -⟩ := ((exits_with_commit c m ["mints", "set"]).1 rfl).2.1 hcode
    cases i <;> exact absurd hi (by decide)
  · obtain ⟨hsame, hcode⟩ := (exits_with_commit c m ["mints", "set", "--help"]).1 rfl
    exact ⟨hcode.2 ⟨.help, by decide, rfl⟩, hsame⟩

/-- A mint that reads as a closing tag is kept, but it cannot be printed. -/
theorem fails_though_committed :
    let c : Call := ⟨[], fun _ => ⟨1700000000, 4250000000⟩, ⟨1700000000, 250000⟩⟩
    let m : Machine := { files := treeOf { authority := "1", address := "p", bump := 255 } }
    let place : Place := [".session-keys", "1.json"]
    (∃ s answer w,
      c.comesTo? m.files ["mints", "set", "1", "[/]"] = some (s, .setMints "1" ["[/]"]) ∧
        s.Commits c m.files (.setMints "1" ["[/]"]) answer w) ∧
    (run c m ["mints", "set", "1", "[/]"]).1.code ≠ 0 ∧
    (run c m ["mints", "set", "1", "[/]"]).2.files.text? place ≠ m.files.text? place := by
  intro c m place
  have hwell := Account.wellFormed_blank "1" "p" 255
  obtain ⟨w, hcommits⟩ := commits_treeOf c hwell (by decide +kernel) ⟨rfl, rfl⟩
    (show ["[/]"].length ≤ Allowlist.maxMints by decide)
  have hrun : run c m ["mints", "set", "1", "[/]"] =
    (Command.setMints "1" ["[/]"]).perform plainSetup c m := rfl
  refine ⟨⟨_, _, w, rfl, hcommits⟩, ?_, by decide +kernel⟩
  rw [hrun, Ne, (Setup.perform_of_commits rfl hcommits).2]
  intro h
  obtain ⟨ls, hls⟩ := h (.text "  [/]") (List.mem_cons_of_mem _ List.mem_cons_self)
  cases hls

end Call

end Keyring
