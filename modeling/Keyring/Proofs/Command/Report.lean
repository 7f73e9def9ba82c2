import Keyring.Command.Run
import Keyring.Engine.Run
import Keyring.Proofs.Command.Markup
import Keyring.Proofs.Derivation.Domains
import Keyring.Proofs.Json.Numbers

/-!
# What is printed of a change

Each command that changes something prints what has come of it. All that it prints beside its own
arguments has no bracket in it: numbers, dates, permissions, and identities in base 58. So such a
report can be printed when the key, or every mint, among the arguments has no opening bracket.
-/

namespace Keyring

open Markup (IsPrintable)

def IsPlain (s : String) : Prop := '[' ∉ s.toList

instance : DecidablePred IsPlain := fun _ => instDecidableNot

/-! ## Texts without brackets -/

section

variable {s t : String}

@[simp] theorem isPlain_append : IsPlain (s ++ t) ↔ IsPlain s ∧ IsPlain t := by
  unfold IsPlain
  rw [String.toList_append, List.mem_append, not_or]

theorem bracket_not_mem_toDigits (n : Nat) : '[' ∉ Nat.toDigits 10 n := by
  intro h
  exact absurd (Json.Reader.isDigit_of_mem_toDigits h) (by decide)

@[simp] theorem isPlain_natText (n : Nat) : IsPlain (toString n) := by
  unfold IsPlain
  rw [show (toString n).toList = Nat.toDigits 10 n from Nat.toList_repr]
  exact bracket_not_mem_toDigits n

@[simp] theorem isPlain_intText (n : Int) : IsPlain (toString n) := by
  cases n with
  | ofNat m => exact isPlain_natText m
  | negSucc m =>
      unfold IsPlain
      rw [Json.Reader.toString_negSucc, List.mem_cons, not_or]
      exact ⟨by decide, bracket_not_mem_toDigits (m + 1)⟩

@[simp] theorem isPlain_padded (width n : Nat) : IsPlain (Calendar.padded width n) := by
  unfold IsPlain Calendar.padded
  rw [String.toList_ofList, List.mem_append, not_or]
  refine ⟨fun h => ?_, bracket_not_mem_toDigits n⟩
  exact absurd (List.eq_of_mem_replicate h) (by decide)

theorem isPlain_isoText {i : Calendar.Instant} (h : Calendar.isoText? i = some s) : IsPlain s := by
  have hmicros : IsPlain (if i.micros = 0 then "" else "." ++ Calendar.padded 6 i.micros) := by
    split
    · decide
    · simp only [isPlain_append, isPlain_padded]
      decide
  unfold Calendar.isoText? at h
  dsimp only at h
  generalize Calendar.dateOf (i.seconds / Calendar.secondsPerDay) = date at h
  by_cases hyear : date.year < 1 ∨ 9999 < date.year
  · rw [if_pos hyear] at h
    cases h
  · rw [if_neg hyear] at h
    obtain rfl := Option.some.inj h
    simp only [isPlain_append, isPlain_padded, hmicros]
    decide

@[simp] theorem SessionKey.isPlain_description (k : SessionKey) : IsPlain k.description := by
  unfold description
  split
  · simp only [isPlain_append, isPlain_intText]
    decide
  · split
    next date hdate =>
      simp only [isPlain_append, isPlain_intText, isPlain_isoText hdate]
      decide
    next =>
      simp only [isPlain_append, isPlain_intText]
      decide

@[simp] theorem Permissions.isPlain_summary (p : Permissions) : IsPlain p.summary := by
  have hgranted : ∀ t d x : Bool, IsPlain (", ".intercalate
      ([("transfer", t), ("delegate", d), ("custom", x)].filterMap fun g =>
        if g.2 then some g.1 else none)) := by
    decide
  have hcap : IsPlain (if p.isUnlimited then "unlimited" else toString p.cap) := by
    split
    · decide
    · exact isPlain_natText _
  unfold summary
  dsimp only
  split
  · decide
  · split
    · simp only [isPlain_append, hgranted, hcap]
      decide
    · exact isPlain_append.2 ⟨hgranted _ _ _, by decide⟩

theorem isPlain_of_decode {bs : Bytes} (h : Base58.decode s = .ok bs) : IsPlain s := by
  intro hs
  exact absurd (Base58.mem_alphabet_of_decode h _ hs) (by decide)

/-- An account is opened for an identity, at an address that is one. -/
theorem isPlain_of_opened {authority program : String} {a : Account}
    (h : Account.opened authority program = .ok a) : IsPlain authority ∧ IsPlain a.address := by
  unfold Account.opened at h
  split at h
  next => cases h
  next d hd =>
    cases h
    unfold Derivation.ownerAddress at hd
    split at hd
    next => cases hd
    next bs hbs =>
      obtain ⟨-, -, hcreate⟩ := Derivation.findBelow_eq_ok hd
      obtain ⟨-, -, prog, -, -, haddress⟩ := Derivation.createAddress_eq_ok_iff.1 hcreate
      have hdigest : Sha2.sha256 (Derivation.preimage d.signerSeeds prog) ≠ [] := by
        rw [← List.length_pos_iff_ne_nil, Sha2.length_sha256]
        decide
      rw [haddress]
      exact ⟨isPlain_of_decode (Derivation.decodeIdentity_eq_ok_iff.1 hbs),
        isPlain_of_decode (Base58.decode_encode hdigest)⟩

end

/-! ## Printing -/

namespace Print

def IsPrinted (p : Print) : Prop := ∃ ls, p.lines = .ok ls

theorem isPrinted_text {s : String} : (Print.text s).IsPrinted ↔ IsPrintable s := Iff.rfl

end Print

theorem printAll_eq_none_iff {ps : List Print} :
    (printAll ps).2 = none ↔ ∀ p ∈ ps, p.IsPrinted := by
  induction ps with
  | nil => simp [printAll]
  | cons p ps ih =>
      rw [printAll, List.forall_mem_cons, ← ih]
      unfold Print.IsPrinted
      cases p.lines with
      | error u => simp
      | ok ls => simp

namespace Command

def report : Command → Answer → List Print
  | .openAccount authority, .account a => openedPrints authority a
  | .issue _ key _, .key k => keyPrints "Created" key k
  | .revise _ key _ _, .key k => keyPrints "Updated" key k
  | .revoke _ key, .key _ =>
    [.text ("[green]Revoked[/green] session key [bold]" ++ key ++ "[/bold]")]
  | .revokeAll _, .count n => countPrints "Revoked" n
  | .prune _, .count n => countPrints "Pruned" n
  | .setMints _ _, .mints mints => mintsPrints mints
  | _, _ => []

/-- That what a command repeats of its arguments has no opening bracket. -/
def SpeaksPlainly : Command → Prop
  | .issue _ key _ => IsPlain key
  | .revise _ key _ _ => IsPlain key
  | .revoke _ key => IsPlain key
  | .setMints _ mints => ∀ m ∈ mints, IsPlain m
  | _ => True

theorem isPrintable_keyLine {done key : String} (hdone : IsPlain done) (hkey : IsPlain key) :
    IsPrintable ("[green]" ++ done ++ "[/green] session key [bold]" ++ key ++ "[/bold]") := by
  have h := Markup.isPrintable_green_bold (b := " session key ") hdone (by decide) (by decide) hkey
  have hsplit : "[/green] session key [bold]" = "[/green]" ++ (" session key " ++ "[bold]") := rfl
  rw [hsplit]
  simpa only [String.append_assoc] using h

theorem isPrintable_revokedLine {key : String} (hkey : IsPlain key) :
    IsPrintable ("[green]Revoked[/green] session key [bold]" ++ key ++ "[/bold]") := by
  have hdone : IsPlain "Revoked" := by decide
  have hsplit : "[green]Revoked[/green] session key [bold]" =
      "[green]" ++ "Revoked" ++ "[/green] session key [bold]" := rfl
  rw [hsplit]
  exact isPrintable_keyLine hdone hkey

theorem printed_openedPrints {authority program : String} {a : Account}
    (h : Account.opened authority program = .ok a) :
    ∀ p ∈ openedPrints authority a, p.IsPrinted := by
  obtain ⟨hauthority, haddress⟩ := isPlain_of_opened h
  have hline := Markup.isPrintable_green_bold (a := "Initialized") (b := " owner account for ")
    (by decide) (by decide) (by decide) hauthority
  have hsplit : "[green]Initialized[/green] owner account for [bold]" =
      "[green]" ++ "Initialized" ++ "[/green]" ++ (" owner account for " ++ "[bold]") := rfl
  have haddressLine : IsPlain ("  Address: " ++ a.address) :=
    isPlain_append.2 ⟨by decide, haddress⟩
  have hbumpLine : IsPlain ("  Bump:    " ++ toString a.bump) :=
    isPlain_append.2 ⟨by decide, isPlain_intText _⟩
  simp only [openedPrints, List.forall_mem_cons]
  refine ⟨?_, Markup.isPrintable_plain haddressLine, Markup.isPrintable_plain hbumpLine,
    List.forall_mem_nil _⟩
  rw [hsplit, Print.isPrinted_text]
  simpa only [String.append_assoc] using hline

theorem printed_keyPrints {done key : String} (hdone : IsPlain done) (hkey : IsPlain key)
    (k : SessionKey) : ∀ p ∈ keyPrints done key k, p.IsPrinted := by
  have hdescription : IsPlain ("  " ++ k.description) :=
    isPlain_append.2 ⟨by decide, k.isPlain_description⟩
  have hsummary : IsPlain ("  Permissions: " ++ k.permissions.summary) :=
    isPlain_append.2 ⟨by decide, k.permissions.isPlain_summary⟩
  simp only [keyPrints, List.forall_mem_cons]
  exact ⟨isPrintable_keyLine hdone hkey, Markup.isPrintable_plain hdescription,
    Markup.isPrintable_plain hsummary, List.forall_mem_nil _⟩

theorem printed_countPrints {done : String} (hdone : IsPlain done) (n : Nat) :
    ∀ p ∈ countPrints done n, p.IsPrinted := by
  have hcount : IsPlain (" " ++ toString n ++ " session key(s).") := by
    simp only [isPlain_append, isPlain_natText]
    decide
  have hline := Markup.isPrintable_green (b := " " ++ toString n ++ " session key(s).") hdone hcount
  have hsplit : "[/green] " = "[/green]" ++ " " := rfl
  simp only [countPrints, List.forall_mem_singleton]
  rw [hsplit, Print.isPrinted_text]
  simpa only [String.append_assoc] using hline

theorem printed_mintsPrints {mints : List String} (hmints : ∀ m ∈ mints, IsPlain m) :
    ∀ p ∈ mintsPrints mints, p.IsPrinted := by
  unfold mintsPrints
  split
  · rw [List.forall_mem_singleton]
    exact Markup.isPrintable_green (a := "Allowlist cleared") (b := "; all mints are permitted.")
      (by decide) (by decide)
  · have hcount : IsPlain (" (" ++ toString mints.length ++ "):") := by
      simp only [isPlain_append, isPlain_natText]
      decide
    have hline := Markup.isPrintable_green (a := "Allowed mints set")
      (b := " (" ++ toString mints.length ++ "):") (by decide) hcount
    have hsplit : "[green]Allowed mints set[/green] (" =
        "[green]" ++ "Allowed mints set" ++ "[/green]" ++ " (" := rfl
    rw [List.forall_mem_cons]
    constructor
    · rw [hsplit, Print.isPrinted_text]
      simpa only [String.append_assoc] using hline
    · intro p hp
      obtain ⟨m, hm, rfl⟩ := List.mem_map.1 hp
      exact Markup.isPrintable_plain (isPlain_append.2 ⟨by decide, hmints m hm⟩)

end Command

end Keyring
