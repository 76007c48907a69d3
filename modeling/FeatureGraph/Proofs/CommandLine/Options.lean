import FeatureGraph.CommandLine.Program
import FeatureGraph.Proofs.Result
import Mathlib.Data.List.TakeWhile

/-! # Options that are named in full

An option with its full name, and its value after an equals sign, is read as it is written. The options of a
command mean nothing to the program itself. -/
namespace FeatureGraph.CommandLine

def Flag.argument (o : Flag) (value : String) : String :=
  if o.kind = .flag then "--" ++ o.name else "--" ++ o.name ++ "=" ++ value

def Flag.word (o : Flag) (value : String) : Word := .option o (if o.kind = .flag then none else some value)

/-- A name that an equals sign ends. -/
def Flag.Plain (o : Flag) : Prop := o.name ≠ "" ∧ '=' ∉ o.name.toList

instance (o : Flag) : Decidable o.Plain := inferInstanceAs (Decidable (_ ∧ _))

def Distinct (options : List Flag) : Prop :=
  ∀ o ∈ options, o.Plain ∧ (options.find? fun p => p.name.toList == o.name.toList) = some o

instance (options : List Flag) : Decidable (Distinct options) := inferInstanceAs (Decidable (∀ _ ∈ _, _))

section Words
variable {options : List Flag} {o : Flag} {value arg : String} {r : List Char}

theorem Word.of_dashed (h : arg.toList = '-' :: '-' :: r) (hr : r ≠ []) : Word.of options arg =
    let name := r.takeWhile (· ≠ '=')
    match options.find? fun o => o.name.toList == r with
    | some o => .ok (.option o none)
    | none =>
      match options.find? fun o => o.name.toList == name with
      | some o => .ok (.option o (given r))
      | none =>
        match options.filter fun o => name.isPrefixOf o.name.toList with
        | [] => .ok (unnamed ('-' :: '-' :: r))
        | [o] => .ok (.option o (given r))
        | _ => .error .usage := by
  obtain ⟨c, cs, rfl⟩ := List.exists_cons_of_ne_nil hr
  rw [Word.of, h]
  rfl

def Flag.body (o : Flag) (value : String) : List Char :=
  if o.kind = .flag then o.name.toList else o.name.toList ++ '=' :: value.toList

theorem Flag.toList_argument : (o.argument value).toList = '-' :: '-' :: o.body value := by
  rw [Flag.argument, Flag.body]
  split <;> simp

theorem Flag.body_ne_nil (h : o.Plain) : o.body value ≠ [] := by
  have hname : o.name.toList ≠ [] := by simpa using h.1
  rw [Flag.body]
  split <;> simp [hname]

theorem Flag.takeWhile_body (h : o.Plain) : (o.body value).takeWhile (· ≠ '=') = o.name.toList := by
  have hname : ∀ c ∈ o.name.toList, decide (c ≠ '=') = true := fun c hc => decide_eq_true fun heq => h.2 (heq ▸ hc)
  rw [Flag.body]
  split
  · exact List.takeWhile_eq_self_iff.2 hname
  · rw [List.takeWhile_append_of_pos hname]
    simp

theorem Flag.given_body (h : o.Plain) (hk : o.kind ≠ .flag) : given (o.body value) = some value := by
  have hname : ∀ c ∈ o.name.toList, decide (c ≠ '=') = true := fun c hc => decide_eq_true fun heq => h.2 (heq ▸ hc)
  rw [Flag.body, if_neg hk, given, List.dropWhile_append_of_pos hname]
  simp

theorem Word.of_argument (h : Distinct options) (ho : o ∈ options) :
    Word.of options (o.argument value) = .ok (o.word value) := by
  obtain ⟨hplain, hfind⟩ := h o ho
  rw [Word.of_dashed Flag.toList_argument (Flag.body_ne_nil hplain)]
  simp only [Flag.takeWhile_body hplain, hfind]
  by_cases hk : o.kind = .flag
  · rw [show o.body value = o.name.toList from if_pos hk, hfind, Flag.word, if_pos hk]
  · have hnone : (options.find? fun p => p.name.toList == o.body value) = none := by
      refine List.find?_eq_none.2 fun p hp heq => (h p hp).1.2 ?_
      rw [beq_iff_eq.1 heq, Flag.body, if_neg hk]
      simp
    rw [hnone, Flag.given_body hplain hk, Flag.word, if_neg hk]

/-- An option whose name begins none of the options. -/
theorem Word.of_foreign (ho : o.Plain) (h : ∀ p ∈ options, ¬o.name.toList <+: p.name.toList) :
    ∃ w, Word.of options (o.argument value) = .ok w ∧ w ≠ .dashes := by
  rw [Word.of_dashed Flag.toList_argument (Flag.body_ne_nil ho)]
  simp only [Flag.takeWhile_body ho]
  have hbody : (options.find? fun p => p.name.toList == o.body value) = none := by
    refine List.find?_eq_none.2 fun p hp heq => h p hp ?_
    rw [beq_iff_eq.1 heq, Flag.body]
    split
    · exact List.prefix_rfl
    · exact List.prefix_append _ _
  have hname : (options.find? fun p => p.name.toList == o.name.toList) = none := by
    refine List.find?_eq_none.2 fun p hp heq => h p hp ?_
    exact beq_iff_eq.1 heq ▸ List.prefix_rfl
  have hprefix : (options.filter fun p => o.name.toList.isPrefixOf p.name.toList) = [] := by
    refine List.filter_eq_nil_iff.2 fun p hp heq => h p hp (List.isPrefixOf_iff_prefix.1 heq)
  rw [hbody, hname, hprefix]
  refine ⟨_, rfl, ?_⟩
  rw [unnamed]
  split <;> simp

end Words

def Accepted (options : List Flag) (p : Flag × String) : Prop :=
  p.1 ∈ options ∧ p.1 ≠ helpFlag ∧ (p.1.kind = .flag → p.2 = "") ∧
    (p.1.kind = .whole → (Number.integer? p.2.toList).isSome)

section Reading
variable {options : List Flag} {ps : List (Flag × String)} {done : Read}

def arguments (ps : List (Flag × String)) : List String := ps.map fun p => p.1.argument p.2

def settingsOf (ps : List (Flag × String)) : Settings := ps.map fun p => (p.1.name, p.2)

theorem classify_arguments (h : Distinct options) (hps : ∀ p ∈ ps, p.1 ∈ options) :
    classify options (arguments ps) = .ok (ps.map fun p => (p.1.argument p.2, p.1.word p.2)) := by
  induction ps with
  | nil => rfl
  | cons p ps ih =>
    have hword : Word.of options (p.1.argument p.2) = .ok (p.1.word p.2) := Word.of_argument h (hps p (by simp))
    have hne : p.1.word p.2 ≠ .dashes := by simp [Flag.word]
    have hrest := ih fun p' hp => hps p' (by simp [hp])
    rw [arguments, List.map_cons, classify, hword]
    simp only [bind, Except.bind, hne, if_false]
    rw [arguments] at hrest
    rw [hrest]
    rfl

theorem exists_classify {args : List String} (h : ∀ a ∈ args, ∃ w, Word.of options a = .ok w ∧ w ≠ .dashes) :
    ∃ ws, classify options args = .ok ws ∧ ws.map (·.1) = args := by
  induction args with
  | nil => exact ⟨[], rfl, rfl⟩
  | cons a args ih =>
    obtain ⟨w, hw, hne⟩ := h a (by simp)
    obtain ⟨ws, hws, hmap⟩ := ih fun a' ha => h a' (by simp [ha])
    refine ⟨(a, w) :: ws, ?_, by simp [hmap]⟩
    rw [classify, hw]
    simp only [bind, Except.bind, hne, if_false, hws]
    rfl

theorem readWords_flag {commands : Bool} {o : Flag} {arg : String} {r : List (String × Word)} (hhelp : o ≠ helpFlag)
    (hk : o.kind = .flag) : readWords commands done ((arg, .option o none) :: r) =
      readWords commands { done with settings := done.settings ++ [(o.name, "")] } r := by
  rw [readWords.eq_def]
  simp only [if_neg hhelp, if_pos hk]

theorem readWords_given {commands : Bool} {o : Flag} {arg value : String} {r : List (String × Word)}
    (hk : o.kind ≠ .flag) (hwhole : o.kind = .whole → (Number.integer? value.toList).isSome) :
    readWords commands done ((arg, .option o (some value)) :: r) =
      readWords commands { done with settings := done.settings ++ [(o.name, value)] } r := by
  have haccept : accept o value done.settings = .ok (done.settings ++ [(o.name, value)]) := by
    rw [accept, if_neg]
    rintro ⟨hw, hnone⟩
    rw [Option.isNone_iff_eq_none.1 hnone] at hwhole
    cases hwhole hw
  rw [readWords.eq_def]
  simp only [if_neg hk, haccept]
  rfl

theorem readWords_refused {commands : Bool} {o : Flag} {arg value : String} {r : List (String × Word)}
    (hk : o.kind = .whole) (hnone : Number.integer? value.toList = none) :
    readWords commands done ((arg, .option o (some value)) :: r) = .error .usage := by
  have hflag : o.kind ≠ .flag := by simp [hk]
  have haccept : accept o value done.settings = .error .usage := if_pos ⟨hk, by rw [hnone]; rfl⟩
  rw [readWords.eq_def]
  simp only [if_neg hflag, haccept]
  rfl

/-- Options that accept their values are set one after the other. -/
theorem readWords_arguments {rest : List (String × Word)} (h : ∀ p ∈ ps, Accepted options p) :
    readWords false done ((ps.map fun p => (p.1.argument p.2, p.1.word p.2)) ++ rest) =
      readWords false { done with settings := done.settings ++ settingsOf ps } rest := by
  induction ps generalizing done with
  | nil => simp [settingsOf]
  | cons p ps ih =>
    obtain ⟨o, value⟩ := p
    obtain ⟨-, hhelp, hflag, hwhole⟩ := h (o, value) (by simp)
    have hrest : ∀ p ∈ ps, Accepted options p := fun p hp => h p (by simp [hp])
    rw [List.map_cons, List.cons_append]
    by_cases hk : o.kind = .flag
    · obtain rfl : value = "" := hflag hk
      rw [Flag.word, if_pos hk, readWords_flag hhelp hk, ih hrest]
      simp [settingsOf]
    · rw [Flag.word, if_neg hk, readWords_given hk hwhole, ih hrest]
      simp [settingsOf]

/-- The program leaves the options of the command for query texts to the command. -/
theorem ofArguments_eq (h : ∀ p ∈ ps, p.1 ∈ cypherOptions) : Invocation.ofArguments ("cypher" :: arguments ps) = (do
    let r ← readWords false {} (ps.map fun p => (p.1.argument p.2, p.1.word p.2))
    if r.stray then throw .usage
    return ⟨none, .cypher r.settings⟩) := by
  have hdistinct : Distinct (helpFlag :: cypherOptions) := by decide
  have hforeign : ∀ o ∈ cypherOptions, ∀ p ∈ helpFlag :: programOptions, ¬o.name.toList <+: p.name.toList := by decide
  obtain ⟨ws, hws, hmap⟩ : ∃ ws, classify (helpFlag :: programOptions) ("cypher" :: arguments ps) =
      .ok (("cypher", .value) :: ws) ∧ ws.map (·.1) = arguments ps := by
    have harguments : ∀ a ∈ arguments ps, ∃ w, Word.of (helpFlag :: programOptions) a = .ok w ∧ w ≠ .dashes := by
      intro a ha
      obtain ⟨p, hp, rfl⟩ := List.mem_map.1 ha
      exact Word.of_foreign (hdistinct p.1 (by simp [h p hp])).1 (hforeign p.1 (h p hp))
    obtain ⟨ws, hws, hmap⟩ := exists_classify harguments
    refine ⟨ws, ?_, hmap⟩
    rw [classify, hws]
    rfl
  have hprogram : read true programOptions ("cypher" :: arguments ps) = .ok { rest := "cypher" :: arguments ps } := by
    rw [read, hws, ← hmap]
    rfl
  have hcommand : read false cypherOptions (arguments ps) =
      readWords false {} (ps.map fun p => (p.1.argument p.2, p.1.word p.2)) := by
    rw [read, classify_arguments hdistinct fun p hp => List.mem_cons_of_mem _ (h p hp)]
    rfl
  rw [Invocation.ofArguments, hprogram]
  simp only [bind, Except.bind, hcommand]
  cases readWords false {} (ps.map fun p => (p.1.argument p.2, p.1.word p.2)) <;> rfl

/-- The command for query texts is read with its options as they are given. -/
theorem ofArguments_cypher (h : ∀ p ∈ ps, Accepted cypherOptions p) :
    Invocation.ofArguments ("cypher" :: arguments ps) = .ok ⟨none, .cypher (settingsOf ps)⟩ := by
  rw [ofArguments_eq fun p hp => (h p hp).1, ← List.append_nil (ps.map _), readWords_arguments h]
  rfl

/-- An option for a number refuses other values. -/
theorem ofArguments_refused {o : Flag} {value : String} (h : ∀ p ∈ ps, Accepted cypherOptions p)
    (ho : o ∈ cypherOptions) (hk : o.kind = .whole) (hnone : Number.integer? value.toList = none) :
    Invocation.ofArguments ("cypher" :: arguments (ps ++ [(o, value)])) = .error .usage := by
  have hmem : ∀ p ∈ ps ++ [(o, value)], p.1 ∈ cypherOptions :=
    List.forall_mem_append.2 ⟨fun p hp => (h p hp).1, List.forall_mem_singleton.2 ho⟩
  have hword : o.word value = .option o (some value) := by simp [Flag.word, hk]
  rw [ofArguments_eq hmem, List.map_append, readWords_arguments h, List.map_singleton, hword,
    readWords_refused hk hnone]
  rfl

end Reading

/-! ## What arguments set -/

section Accepting
variable {options : List Flag} {commands : Bool} {done r : Read} {s : Settings}

theorem Word.mem_of_option {o : Flag} {arg : String} {value : Option String}
    (h : Word.of options arg = .ok (.option o value)) : o ∈ options := by
  unfold Word.of at h
  split at h
  · cases h
  · dsimp only at h
    split at h
    · next o' ho =>
      cases h
      exact List.mem_of_find?_eq_some ho
    · split at h
      · next o' ho =>
        cases h
        exact List.mem_of_find?_eq_some ho
      · split at h
        · unfold unnamed at h
          split at h <;> cases h
        · next o' ho =>
          cases h
          exact (List.mem_filter.1 (ho ▸ List.mem_singleton_self o)).1
        · cases h
  · cases h
  · cases h
  · unfold unnamed at h
    split at h <;> cases h
  · cases h

theorem mem_of_classify {args : List String} {ws : List (String × Word)} (h : classify options args = .ok ws)
    {arg : String} {o : Flag} {value : Option String} (hmem : (arg, .option o value) ∈ ws) : o ∈ options := by
  induction args generalizing ws with
  | nil =>
    cases h
    cases hmem
  | cons first args ih =>
    rw [classify] at h
    obtain ⟨w, hw, h⟩ := exists_of_bind_eq_ok h
    split at h
    · next hdashes =>
      cases h
      simp [hdashes] at hmem
    · obtain ⟨rest, hrest, h⟩ := exists_of_bind_eq_ok h
      cases h
      rcases List.mem_cons.1 hmem with heq | hmem
      · cases heq
        exact Word.mem_of_option hw
      · exact ih hrest hmem

def Settings.IsAccepted (options : List Flag) (s : Settings) : Prop :=
  ∃ ps, (∀ p ∈ ps, Accepted options p) ∧ s = settingsOf ps

theorem Settings.IsAccepted.append {o : Flag} {value : String} (h : s.IsAccepted options)
    (hp : Accepted options (o, value)) : Settings.IsAccepted options (s ++ [(o.name, value)]) := by
  obtain ⟨ps, hps, rfl⟩ := h
  exact ⟨ps ++ [(o, value)], List.forall_mem_append.2 ⟨hps, List.forall_mem_singleton.2 hp⟩, by simp [settingsOf]⟩

theorem exists_of_accept {o : Flag} {value : String} {settings : Settings} (h : accept o value settings = .ok s) :
    (o.kind = .whole → (Number.integer? value.toList).isSome) ∧ s = settings ++ [(o.name, value)] := by
  unfold accept at h
  split at h
  · cases h
  · next hwhole =>
    refine ⟨fun hk => ?_, (Except.ok.inj h).symm⟩
    exact Option.isSome_iff_ne_none.2 fun hnone => hwhole ⟨hk, by rw [hnone]; rfl⟩

theorem isAccepted_of_readWords {ws : List (String × Word)} (h : readWords commands done ws = .ok r)
    (hws : ∀ {arg o value}, (arg, .option o value) ∈ ws → o ∈ helpFlag :: options)
    (hdone : done.settings.IsAccepted options) : r.settings.IsAccepted options := by
  induction done, ws using readWords.induct commands with
  | case1 =>
    cases h
    exact hdone
  | case2 done arg rest hcommands =>
    rw [readWords.eq_def] at h
    simp only [if_pos hcommands] at h
    cases h
    exact hdone
  | case3 done arg rest hcommands ih | case5 done arg rest hcommands ih =>
    rw [readWords.eq_def] at h
    simp only [if_neg hcommands] at h
    exact ih h (fun hmem => hws (List.mem_cons_of_mem _ hmem)) hdone
  | case4 done arg rest hcommands =>
    rw [readWords.eq_def] at h
    simp only [if_pos hcommands] at h
    cases h
  | case6 done arg rest ih => exact ih h (fun hmem => hws (List.mem_cons_of_mem _ hmem)) hdone
  | case7 done arg more rest => cases h
  | case8 done arg rest =>
    rw [readWords.eq_def] at h
    simp only [if_true] at h
    cases h
  | case9 done arg o rest hhelp hflag ih =>
    have ho : o ∈ options := (List.mem_cons.1 (hws List.mem_cons_self)).resolve_left hhelp
    rw [readWords_flag hhelp hflag] at h
    refine ih h (fun hmem => hws (List.mem_cons_of_mem _ hmem)) (hdone.append ⟨ho, hhelp, fun _ => rfl, ?_⟩)
    simp [hflag]
  | case10 done arg o hhelp hflag value rest ih =>
    have ho : o ∈ options := (List.mem_cons.1 (hws List.mem_cons_self)).resolve_left hhelp
    rw [readWords.eq_def] at h
    simp only [if_neg hhelp, if_neg hflag] at h
    obtain ⟨settings, haccept, h⟩ := exists_of_bind_eq_ok h
    obtain ⟨hwhole, rfl⟩ := exists_of_accept haccept
    refine ih _ h (fun hmem => hws (List.mem_cons_of_mem _ (List.mem_cons_of_mem _ hmem))) ?_
    exact hdone.append ⟨ho, hhelp, fun hk => absurd hk hflag, hwhole⟩
  | case11 done arg o rest hhelp hflag hrest =>
    rw [readWords.eq_def] at h
    simp only [if_neg hhelp, if_neg hflag] at h
    cases h
  | case12 done arg o value rest hflag =>
    rw [readWords.eq_def] at h
    simp only [if_pos hflag] at h
    cases h
  | case13 done arg o value rest hflag ih =>
    have hhelp : o ≠ helpFlag := by
      rintro rfl
      exact hflag rfl
    have ho : o ∈ options := (List.mem_cons.1 (hws List.mem_cons_self)).resolve_left hhelp
    rw [readWords.eq_def] at h
    simp only [if_neg hflag] at h
    obtain ⟨settings, haccept, h⟩ := exists_of_bind_eq_ok h
    obtain ⟨hwhole, rfl⟩ := exists_of_accept haccept
    refine ih _ h (fun hmem => hws (List.mem_cons_of_mem _ hmem)) ?_
    exact hdone.append ⟨ho, hhelp, fun hk => absurd hk hflag, hwhole⟩

/-- Whatever the arguments of a command are, what they set are options that accept their values. -/
theorem isAccepted_of_ofArguments {args : List String} {path : Option String}
    (h : Invocation.ofArguments args = .ok ⟨path, .cypher s⟩) : s.IsAccepted cypherOptions := by
  have hread {args : List String} {r : Read} (h : read false cypherOptions args = .ok r) :
      r.settings.IsAccepted cypherOptions := by
    obtain ⟨ws, hws, h⟩ := exists_of_bind_eq_ok h
    exact isAccepted_of_readWords h (mem_of_classify hws) ⟨[], nofun, rfl⟩
  unfold Invocation.ofArguments at h
  obtain ⟨top, -, h⟩ := exists_of_bind_eq_ok h
  dsimp only at h
  split at h
  · obtain ⟨r, -, h⟩ := exists_of_bind_eq_ok h
    dsimp only [bind, Except.bind, pure, Except.pure] at h
    split at h <;> cases h
  · obtain ⟨r, hr, h⟩ := exists_of_bind_eq_ok h
    dsimp only [bind, Except.bind, pure, Except.pure] at h
    split at h
    · cases h
    · cases h
      exact hread hr
  · cases h

end Accepting
end FeatureGraph.CommandLine
