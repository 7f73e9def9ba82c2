import Keyring.Command.Arguments
import Keyring.Proofs.Outcome

/-!
# Arguments that ask

What is read of arguments is among them: the words, and the options that stand alone. So arguments
are taken for an inquiry about the program only if its option is one of them.
-/

namespace Keyring

/-- Whether an inquiry that is found among arguments is there. -/
def OnlyAsks {α : Type} (args : List String) (r : Except Halt α) : Prop :=
  ∀ i, r = .error (.inquiry i) → i.flag ∈ args

section

variable {α β : Type} {args args' : List String} {r : Except Halt α}

theorem onlyAsks_ok (x : α) : OnlyAsks args (.ok x) := nofun

theorem onlyAsks_misuse : OnlyAsks args (.error .misuse : Except Halt α) := nofun

theorem OnlyAsks.mono (h : OnlyAsks args r) (hargs : args ⊆ args') : OnlyAsks args' r :=
  fun i hi => hargs (h i hi)

theorem OnlyAsks.bind {f : α → Except Halt β} (h : OnlyAsks args r)
    (hf : ∀ x, r = .ok x → OnlyAsks args (f x)) : OnlyAsks args (r >>= f) := by
  cases r with
  | error e =>
      rintro i hi
      obtain rfl : e = .inquiry i := Except.error.inj hi
      exact h i rfl
  | ok x => exact hf x rfl

end

namespace Arguments

variable {known : List Flag} {mixed : Bool} {a b : Arguments}
    {args words : List String} {s : String}

theorem split_fst {arg name : String} (h : split arg = (name, none)) : name = arg := by
  obtain ⟨hname, hnone⟩ := Prod.mk.inj h
  have hlength : arg.toList.length ≤ (arg.toList.takeWhile (· != '=')).length := by
    refine Nat.not_lt.1 fun hlt => ?_
    rw [if_pos hlt] at hnone
    cases hnone
  rw [← hname, (List.takeWhile_prefix _).eq_of_length_le hlength, String.ofList_toList]

/-- What is read of arguments is among them, or has been read before. -/
theorem mem_of_parseFrom (h : parseFrom known mixed a args = some b) :
    (s ∈ b.flags → s ∈ a.flags ∨ s ∈ args) ∧ (s ∈ b.words → s ∈ a.words ∨ s ∈ args) := by
  fun_induction parseFrom known mixed a args with
  | case5 a arg rest _ _ name value? hsplit k hk _ hvalue ih =>
      -- An option that stands alone has no equals sign, so that its name is all of it.
      obtain rfl : name = arg := by
        cases value? with
        | none => exact split_fst hsplit
        | some v => exact absurd rfl hvalue
      grind
  | _ => grind [put]

theorem words_subset (h : parse known mixed args = .ok a) : a.words ⊆ args := by
  unfold parse at h
  split at h
  next => cases h
  next b hb =>
    split at h
    next => cases h
    next =>
      obtain rfl := Except.ok.inj h
      intro s hs
      simpa using (mem_of_parseFrom hb).2 hs

theorem onlyAsks_parse (known : List Flag) (mixed : Bool) (args : List String) :
    OnlyAsks args (parse known mixed args) := by
  intro i h
  unfold parse at h
  split at h
  next => cases h
  next b hb =>
    split at h
    next j hj =>
      obtain rfl : j = i := Halt.inquiry.inj (Except.error.inj h)
      obtain ⟨name, hname, hflag⟩ := List.exists_of_findSome?_eq_some hj
      have hmem := (mem_of_parseFrom hb).1 (List.mem_reverse.1 hname)
      obtain rfl : j.flag = name := by simpa using List.find?_some hflag
      simpa using hmem
    next => cases h

theorem misnamed_eq {i : Inquiry} (h : misnamed words = .inquiry i) : i.flag ∈ words := by
  unfold misnamed at h
  split at h
  next e he => exact onlyAsks_parse _ _ _ i (h ▸ he)
  next => cases h

theorem onlyAsks_misnamed {α : Type} (words : List String) :
    OnlyAsks words (.error (misnamed words) : Except Halt α) :=
  fun _ h => misnamed_eq (Except.error.inj h)

theorem onlyAsks_int? (a : Arguments) (name : String) : OnlyAsks args (a.int? name) := by
  unfold int?
  split
  · exact onlyAsks_ok _
  · split
    · exact onlyAsks_ok _
    · exact onlyAsks_misuse

theorem onlyAsks_preset? (a : Arguments) (name : String) : OnlyAsks args (a.preset? name) := by
  unfold preset?
  split
  · exact onlyAsks_ok _
  · split
    · exact onlyAsks_ok _
    · exact onlyAsks_misuse

end Arguments

namespace Command

open Arguments

theorem onlyAsks_expiry? (a : Arguments) {args : List String} : OnlyAsks args (expiry? a) :=
  (onlyAsks_int? a _).bind fun _ _ => (onlyAsks_int? a _).bind fun _ _ => onlyAsks_ok _

theorem onlyAsks_parseIssue (args : List String) : OnlyAsks args (parseIssue args) := by
  refine (onlyAsks_parse _ _ args).bind fun a _ => (onlyAsks_expiry? a).bind fun _ _ =>
    (onlyAsks_preset? a _).bind fun _ _ => (onlyAsks_int? a _).bind fun _ _ =>
      (onlyAsks_int? a _).bind fun _ _ => ?_
  split
  · exact onlyAsks_ok _
  · exact onlyAsks_misuse

theorem onlyAsks_parseRevise (args : List String) : OnlyAsks args (parseRevise args) := by
  refine (onlyAsks_parse _ _ args).bind fun a _ => (onlyAsks_expiry? a).bind fun _ _ =>
    (onlyAsks_preset? a _).bind fun _ _ => ?_
  split
  · exact onlyAsks_ok _
  · exact onlyAsks_misuse

section

variable {known : List Flag} {args : List String}

/-- Commands of which nothing is read but options that stand alone, and words. -/
theorem onlyAsks_words {f : Arguments → Except Halt Command}
    (hf : ∀ a, f a = .error .misuse ∨ ∃ cmd, f a = .ok cmd) :
    OnlyAsks args (Arguments.parse known true args >>= f) := by
  refine (onlyAsks_parse known true args).bind fun a _ => ?_
  rcases hf a with h | ⟨cmd, h⟩ <;> rw [h]
  · exact onlyAsks_misuse
  · exact onlyAsks_ok cmd

theorem onlyAsks_named {name : String} {f : Arguments → Except Halt Command}
    (hf : ∀ a, f a = .error .misuse ∨ ∃ cmd, f a = .ok cmd) :
    OnlyAsks (name :: args) (Arguments.parse known true args >>= f) :=
  (onlyAsks_words hf).mono (List.subset_cons_self _ _)

theorem onlyAsks_parseAccount (name : String) (args : List String) :
    OnlyAsks (name :: args) (parseAccount name args) := by
  unfold parseAccount
  split
  · exact onlyAsks_named fun a => by split <;> simp
  · exact onlyAsks_named fun a => by split <;> simp
  · exact onlyAsks_misnamed _

theorem onlyAsks_parseKey (name : String) (args : List String) :
    OnlyAsks (name :: args) (parseKey name args) := by
  unfold parseKey
  split
  · exact (onlyAsks_parseIssue args).mono (List.subset_cons_self _ _)
  · exact (onlyAsks_parseRevise args).mono (List.subset_cons_self _ _)
  · exact onlyAsks_named fun a => by split <;> simp
  · exact onlyAsks_named fun a => by split <;> simp
  · exact onlyAsks_named fun a => by split <;> simp
  · exact onlyAsks_named fun a => by split <;> simp
  · exact onlyAsks_misnamed _

theorem onlyAsks_parseMints (name : String) (args : List String) :
    OnlyAsks (name :: args) (parseMints name args) := by
  unfold parseMints
  split
  · exact onlyAsks_named fun a => by split <;> simp
  · exact onlyAsks_misnamed _

theorem onlyAsks_parseGroup {members : String → List String → Except Halt Command}
    (hmembers : ∀ name args, OnlyAsks (name :: args) (members name args)) :
    OnlyAsks args (parseGroup members args) := by
  refine (onlyAsks_parse _ _ args).bind fun a ha => ?_
  have hwords := words_subset ha
  split
  next name rest h => exact (hmembers name rest).mono (h ▸ hwords)
  next => exact onlyAsks_misuse

/-- Only an option among the arguments of a command asks about the program. -/
theorem onlyAsks (name : String) (args : List String) : OnlyAsks args (parse name args) := by
  unfold parse
  split
  · refine onlyAsks_words fun a => ?_
    split <;> simp
  · refine onlyAsks_words fun a => ?_
    split <;> simp
  · exact onlyAsks_parseGroup onlyAsks_parseAccount
  · exact onlyAsks_parseGroup onlyAsks_parseKey
  · exact onlyAsks_parseGroup onlyAsks_parseMints
  · exact onlyAsks_misuse

end

end Command

namespace CommandLine

variable {args : List String} {l : CommandLine}

theorem onlyAsks (args : List String) : OnlyAsks args (parse args) := by
  unfold parse
  rw [Outcome.map_eq_bind]
  exact (Arguments.onlyAsks_parse _ _ args).bind fun _ _ => onlyAsks_ok _

theorem words_subset (h : parse args = .ok l) : l.words ⊆ args := by
  obtain ⟨a, ha, rfl⟩ := Outcome.map_eq_ok.1 h
  exact Arguments.words_subset ha

theorem rest_subset {name : String} {rest : List String} (h : l.command? = some (name, rest)) :
    rest ⊆ l.words := by
  unfold command? at h
  split at h
  next first others hwords =>
    split at h
    next =>
      obtain ⟨-, rfl⟩ := Prod.mk.inj (Option.some.inj h)
      rw [hwords]
      exact List.subset_cons_self _ _
    next => cases h
  next => cases h

end CommandLine

end Keyring
