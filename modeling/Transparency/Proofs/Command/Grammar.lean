import Mathlib
import Transparency.Proofs.Command.Options
import Transparency.Proofs.Decimal.Natural

/-!
# The grammar of the command line

What arguments may look like, said without the reader. A `Group` is an option with its value, a switch, or a positional
argument; a `Breach` is what keeps the arguments from beginning with a group. Arguments begin with one or the other,
whatever follows (`Setting.group_or_breach`), so from the left they fall into groups up to their end or to the first
breach, and that is what the reader makes of them (`Setting.readAll_eq_ok_iff`, `Setting.readAll_eq_error_iff`).

Settings of different kinds do not get in each other's way, so groups of different kinds may change places
(`Options.read_swap`).
-/

namespace Transparency

namespace Setting

/-! ## Groups and breaches -/

/-- The words that are options. -/
def optionWords : List String := ["--prefs", "--min-scts", "--timeout", "--report-only", "--verbose"]

/-- An argument that starts with two dashes. -/
def Dashed (word : String) : Prop := "--".toList <+: word.toList

/-- Arguments that make up one setting. The value of an option may look like anything. -/
inductive Group : List String → Setting → Prop where
  | file (path : String) : Group ["--prefs", path] (.file path)
  | minimum {number : String} {count : Nat} : Decimal.Numeral number.toList count → count < 2 ^ 64 →
      Group ["--min-scts", number] (.minimum count)
  | timeout {number : String} {seconds : Nat} : Decimal.Numeral number.toList seconds → seconds < 2 ^ 64 →
      Group ["--timeout", number] (.timeout seconds)
  | reportOnly : Group ["--report-only"] .reportOnly
  | verbose : Group ["--verbose"] .verbose
  | positional {text : String} : ¬Dashed text → Group [text] (.positional text)

/-- Arguments that do not begin with a group, and what is wrong with their beginning. -/
inductive Breach : List String → OptionFault → Prop where
  | noFile : Breach ["--prefs"] .noFile
  | noMinimum : Breach ["--min-scts"] .noMinimum
  | badMinimum {number : String} {fault : Decimal.NaturalFault} (rest : List String) :
      Decimal.Flaw number.toList fault → Breach ("--min-scts" :: number :: rest) (.badMinimum fault)
  | noTimeout : Breach ["--timeout"] .noTimeout
  | badTimeout {number : String} {fault : Decimal.NaturalFault} (rest : List String) :
      Decimal.Flaw number.toList fault → Breach ("--timeout" :: number :: rest) (.badTimeout fault)
  | unknown {word : String} (rest : List String) : Dashed word → word ∉ optionWords →
      Breach (word :: rest) (.unknown word)

/-- Arguments that fall into groups from left to right. -/
inductive Splits : List String → List Setting → Prop where
  | nil : Splits [] []
  | cons {group rest : List String} {setting : Setting} {settings : List Setting} : Group group setting →
      Splits rest settings → Splits (group ++ rest) (setting :: settings)

theorem isOption_iff {word : String} : isOption word = true ↔ Dashed word := by
  rw [isOption, decide_eq_true_iff, Dashed, List.prefix_iff_eq_take, eq_comm]
  rfl

theorem Dashed.of_mem {word : String} (mem : word ∈ optionWords) : Dashed word := by
  rw [← isOption_iff]
  revert word
  decide

/-- Every argument is an option, or is positional, or is unknown. -/
theorem option_or_positional (word : String) : word ∈ optionWords ∨ ¬Dashed word ∨ Dashed word ∧ word ∉ optionWords := by
  by_cases known : word ∈ optionWords
  · exact .inl known
  · by_cases dashed : Dashed word
    · exact .inr (.inr ⟨dashed, known⟩)
    · exact .inr (.inl dashed)

/-- **Arguments begin with a group or with a breach.** -/
theorem group_or_breach (word : String) (rest : List String) :
    (∃ group behind setting, word :: rest = group ++ behind ∧ Group group setting) ∨
      ∃ fault, Breach (word :: rest) fault := by
  obtain known | positional | ⟨dashed, unknown⟩ := option_or_positional word
  · simp only [optionWords, List.mem_cons, List.not_mem_nil, or_false] at known
    obtain rfl | rfl | rfl | rfl | rfl := known
    · rcases rest with _ | ⟨path, rest⟩
      · exact .inr ⟨_, .noFile⟩
      · exact .inl ⟨_, rest, _, rfl, .file path⟩
    · rcases rest with _ | ⟨number, rest⟩
      · exact .inr ⟨_, .noMinimum⟩
      · obtain ⟨count, numeral, fits⟩ | ⟨fault, flaw⟩ := Decimal.numeral_or_flaw number.toList
        · exact .inl ⟨_, rest, _, rfl, .minimum numeral fits⟩
        · exact .inr ⟨_, .badMinimum rest flaw⟩
    · rcases rest with _ | ⟨number, rest⟩
      · exact .inr ⟨_, .noTimeout⟩
      · obtain ⟨seconds, numeral, fits⟩ | ⟨fault, flaw⟩ := Decimal.numeral_or_flaw number.toList
        · exact .inl ⟨_, rest, _, rfl, .timeout numeral fits⟩
        · exact .inr ⟨_, .badTimeout rest flaw⟩
    · exact .inl ⟨_, rest, _, rfl, .reportOnly⟩
    · exact .inl ⟨_, rest, _, rfl, .verbose⟩
  · exact .inl ⟨_, rest, _, rfl, .positional positional⟩
  · exact .inr ⟨_, .unknown rest dashed unknown⟩

/-- A group is not empty, so what is behind it is shorter. -/
theorem Group.length_lt {group : List String} {setting : Setting} (said : Group group setting)
    (behind : List String) : behind.length < (group ++ behind).length := by
  rw [List.length_append]
  have some_there : 0 < group.length := by cases said <;> exact Nat.succ_pos _
  omega

/-- **Arguments fall into groups**, up to their end or to the first breach. -/
theorem splits_or_breach : ∀ arguments : List String,
    (∃ settings, Splits arguments settings) ∨
      ∃ front settings rest fault, arguments = front ++ rest ∧ Splits front settings ∧ Breach rest fault
  | [] => .inl ⟨[], .nil⟩
  | word :: rest => by
    obtain ⟨group, behind, setting, split, said⟩ | ⟨fault, breach⟩ := group_or_breach word rest
    · -- no group is empty, so less is left behind it
      have shorter : behind.length < (word :: rest).length := by
        rw [split]
        exact said.length_lt behind
      rw [split]
      obtain ⟨settings, others⟩ | ⟨front, settings, tail, fault, rfl, others, breach⟩ := splits_or_breach behind
      · exact .inl ⟨_, .cons said others⟩
      · exact .inr ⟨_, _, tail, fault, (List.append_assoc ..).symm, .cons said others, breach⟩
    · exact .inr ⟨[], [], _, fault, rfl, .nil, breach⟩
termination_by arguments => arguments.length
decreasing_by exact shorter

theorem Splits.append {front rest : List String} {settings others : List Setting} (first : Splits front settings)
    (second : Splits rest others) : Splits (front ++ rest) (settings ++ others) := by
  induction first with
  | nil => exact second
  | cons said _ ih =>
    rw [List.append_assoc]
    exact .cons said ih

theorem Splits.single {group : List String} {setting : Setting} (said : Group group setting) :
    Splits group [setting] := by
  have alone := Splits.cons said .nil
  rwa [List.append_nil] at alone

/-! ## Reading them -/

/-- What does not take the next argument as its value is read by itself. -/
theorem readAll_cons {word : String} (alone : word ∉ ["--prefs", "--min-scts", "--timeout"]) (rest : List String) :
    readAll (word :: rest) =
      if word = "--report-only" then (readAll rest).map (reportOnly :: ·)
      else if word = "--verbose" then (readAll rest).map (verbose :: ·)
      else if isOption word then .error (.unknown word)
      else (readAll rest).map (positional word :: ·) := by
  simp only [List.mem_cons, List.not_mem_nil, or_false, not_or] at alone
  rcases rest with _ | ⟨next, rest⟩ <;>
    simp only [readAll, if_neg alone.1, if_neg alone.2.1, if_neg alone.2.2]

theorem Group.readAll {group : List String} {setting : Setting} (said : Group group setting) (rest : List String) :
    readAll (group ++ rest) = (readAll rest).map (setting :: ·) := by
  cases said with
  | file path =>
    show Setting.readAll ("--prefs" :: path :: rest) = _
    rw [Setting.readAll, if_pos rfl]
  | @minimum number count numeral fits =>
    show Setting.readAll ("--min-scts" :: number :: rest) = _
    rw [Setting.readAll, if_neg (by decide), if_pos rfl, Decimal.readNatural_eq_ok_iff.mpr ⟨numeral, fits⟩]
  | @timeout number seconds numeral fits =>
    show Setting.readAll ("--timeout" :: number :: rest) = _
    rw [Setting.readAll, if_neg (by decide), if_neg (by decide), if_pos rfl,
      Decimal.readNatural_eq_ok_iff.mpr ⟨numeral, fits⟩]
  | reportOnly =>
    show Setting.readAll ("--report-only" :: rest) = _
    rw [readAll_cons (by decide), if_pos rfl]
  | verbose =>
    show Setting.readAll ("--verbose" :: rest) = _
    rw [readAll_cons (by decide), if_neg (by decide), if_pos rfl]
  | @positional text plain =>
    -- it is none of the words, since all of them start with dashes
    have other : ∀ word ∈ optionWords, text ≠ word := fun word mem same => plain (same ▸ Dashed.of_mem mem)
    show Setting.readAll (text :: rest) = _
    rw [readAll_cons, if_neg (other _ (by decide)), if_neg (other _ (by decide)), if_neg (mt isOption_iff.mp plain)]
    exact fun mem => other text (List.mem_append_left ["--report-only", "--verbose"] mem) rfl

theorem Breach.readAll {arguments : List String} {fault : OptionFault} (breach : Breach arguments fault) :
    readAll arguments = .error fault := by
  cases breach with
  | noFile | noMinimum | noTimeout => rfl
  | badMinimum rest flaw =>
    rw [Setting.readAll, if_neg (by decide), if_pos rfl, Decimal.readNatural_eq_error_iff.mpr flaw]
  | badTimeout rest flaw =>
    rw [Setting.readAll, if_neg (by decide), if_neg (by decide), if_pos rfl,
      Decimal.readNatural_eq_error_iff.mpr flaw]
  | @unknown word rest dashed unknown =>
    have other : ∀ known ∈ optionWords, word ≠ known := fun known mem same => unknown (same ▸ mem)
    rw [readAll_cons, if_neg (other _ (by decide)), if_neg (other _ (by decide)), if_pos (isOption_iff.mpr dashed)]
    exact fun mem => unknown (List.mem_append_left ["--report-only", "--verbose"] mem)

/-- Groups in front are read one after the other, whatever follows. -/
theorem Splits.readAll {front : List String} {settings : List Setting} (splits : Splits front settings)
    (rest : List String) : readAll (front ++ rest) = (readAll rest).map (settings ++ ·) := by
  induction splits with
  | nil =>
    rw [List.nil_append]
    rcases Setting.readAll rest <;> rfl
  | cons said _ ih =>
    rw [List.append_assoc, said.readAll, ih]
    rcases Setting.readAll rest <;> rfl

theorem Splits.readAll_eq_ok {arguments : List String} {settings : List Setting} (splits : Splits arguments settings) :
    Setting.readAll arguments = .ok settings := by
  have read := splits.readAll []
  rw [List.append_nil] at read
  rw [read, Setting.readAll, Except.map, List.append_nil]

/-- **What falls into groups is read**, and nothing else. -/
theorem readAll_eq_ok_iff {arguments : List String} {settings : List Setting} :
    readAll arguments = .ok settings ↔ Splits arguments settings := by
  refine ⟨fun read => ?_, Splits.readAll_eq_ok⟩
  obtain ⟨others, splits⟩ | ⟨front, others, rest, fault, rfl, splits, breach⟩ := splits_or_breach arguments
  · obtain rfl := Except.ok.inj (read.symm.trans splits.readAll_eq_ok)
    exact splits
  · rw [splits.readAll, breach.readAll] at read
    cases read

/-- **The first breach is the fault**, whatever follows. -/
theorem readAll_eq_error_iff {arguments : List String} {fault : OptionFault} :
    readAll arguments = .error fault ↔
      ∃ front settings rest, arguments = front ++ rest ∧ Splits front settings ∧ Breach rest fault := by
  constructor
  · intro read
    obtain ⟨settings, splits⟩ | ⟨front, settings, rest, other, rfl, splits, breach⟩ := splits_or_breach arguments
    · cases read.symm.trans splits.readAll_eq_ok
    · rw [splits.readAll, breach.readAll] at read
      obtain rfl := Except.error.inj read
      exact ⟨front, settings, rest, rfl, splits, breach⟩
  · rintro ⟨front, settings, rest, rfl, splits, breach⟩
    rw [splits.readAll, breach.readAll]
    rfl

/-! ## Kinds of settings -/

/-- The option that a setting belongs to; a positional argument belongs to none. -/
def option? : Setting → Option String
  | file _ => some "--prefs"
  | minimum _ => some "--min-scts"
  | timeout _ => some "--timeout"
  | reportOnly => some "--report-only"
  | verbose => some "--verbose"
  | positional _ => none

end Setting

namespace Options

open Setting

/-- Settings of different kinds change different things. -/
theorem apply_comm {a b : Setting} (different : a.option? ≠ b.option?) (options : Options) :
    (options.apply a).apply b = (options.apply b).apply a := by
  cases a <;> cases b <;> first | rfl | exact absurd rfl different

variable {environmentFile : Option String} {arguments : List String}

/-- What is read from groups and what follows them. -/
theorem read_append {front : List String} {settings : List Setting} (splits : Splits front settings)
    (rest : List String) :
    Options.read environmentFile (front ++ rest) =
      (readAll rest).map fun others => ((initial environmentFile).ofSettings settings).ofSettings others := by
  rw [Options.read, splits.readAll]
  rcases readAll rest with fault | others
  · rfl
  · exact congrArg Except.ok List.foldl_append

/-- **Groups of different kinds may change places.** -/
theorem read_swap {front group other : List String} {settings : List Setting} {a b : Setting}
    (splits : Splits front settings) (first : Group group a) (second : Group other b)
    (different : a.option? ≠ b.option?) (rest : List String) :
    Options.read environmentFile (front ++ (group ++ (other ++ rest))) =
      Options.read environmentFile (front ++ (other ++ (group ++ rest))) := by
  have before := (splits.append (.single first)).append (.single second)
  have after := (splits.append (.single second)).append (.single first)
  have same : (initial environmentFile).ofSettings (settings ++ [a] ++ [b]) =
      (initial environmentFile).ofSettings (settings ++ [b] ++ [a]) := by
    simp only [ofSettings, List.foldl_append, List.foldl_cons, List.foldl_nil]
    exact apply_comm different _
  have read_before := @read_append environmentFile _ _ before rest
  have read_after := @read_append environmentFile _ _ after rest
  simp only [List.append_assoc] at read_before read_after same
  rw [read_before, read_after, same]

/-- What settings say, if nothing else does. -/
theorem ofSettings_initial (environmentFile : Option String) (settings : List Setting) :
    (initial environmentFile).ofSettings settings =
      { file := ⟨(last? path? settings).getD (environmentFile.getD "ctswitch-prefs.json")⟩
        minimum := (last? count? settings).getD 2
        timeout := (last? seconds? settings).getD 30
        reportOnly := settings.contains .reportOnly
        verbose := settings.contains .verbose
        positional := settings.filterMap text? } := by
  rw [ofSettings_eq]
  rcases environmentFile with _ | path <;> rfl

/-- **Reading follows the grammar**, and does not mind the order of groups of different kinds.

* What falls into groups is read: of each option with a value the last group counts, else the environment if it names
  a file, else the default; a switch is set exactly if it occurs; and the positional arguments are in their order.
* Anything else is refused for the first breach, whatever follows.
* A group may be moved past one of another kind. -/
theorem read_by_grammar (environmentFile : Option String) (arguments : List String) :
    (∀ options, Options.read environmentFile arguments = .ok options ↔
      ∃ settings, Splits arguments settings ∧ options =
        { file := ⟨(last? path? settings).getD (environmentFile.getD "ctswitch-prefs.json")⟩
          minimum := (last? count? settings).getD 2
          timeout := (last? seconds? settings).getD 30
          reportOnly := settings.contains .reportOnly
          verbose := settings.contains .verbose
          positional := settings.filterMap text? }) ∧
    (∀ fault, Options.read environmentFile arguments = .error fault ↔
      ∃ front settings rest, arguments = front ++ rest ∧ Splits front settings ∧ Breach rest fault) ∧
    ∀ front settings group a other b rest, arguments = front ++ (group ++ (other ++ rest)) → Splits front settings →
      Group group a → Group other b → a.option? ≠ b.option? →
      Options.read environmentFile arguments =
        Options.read environmentFile (front ++ (other ++ (group ++ rest))) := by
  refine ⟨fun options => ?_, fun fault => ?_, ?_⟩
  · constructor
    · intro read
      rw [Options.read] at read
      rcases split : readAll arguments with fault | settings <;> rw [split] at read
      · cases read
      · refine ⟨settings, readAll_eq_ok_iff.mp split, ?_⟩
        rw [← ofSettings_initial]
        exact (Except.ok.inj read).symm
    · rintro ⟨settings, splits, rfl⟩
      rw [Options.read, splits.readAll_eq_ok, ← ofSettings_initial]
      rfl
  · rw [← readAll_eq_error_iff, Options.read]
    rcases readAll arguments with other | settings
    · exact ⟨fun same => congrArg _ (Except.error.inj same), fun same => congrArg _ (Except.error.inj same)⟩
    · constructor
      · intro same
        cases same
      · intro same
        cases same
  · rintro front settings group a other b rest rfl splits first second different
    exact read_swap splits first second different rest

/-- A value that looks like an option is a value, a number may have a plus sign, and its option may change places with
what is positional. A malformed number is the fault, though an unknown option follows. -/
theorem dashed_value_is_a_value :
    Options.read (some "e") ["a", "--min-scts", "+3", "--prefs", "--verbose", "-b"] =
      .ok { file := ⟨"--verbose"⟩, minimum := 3, positional := ["a", "-b"] } ∧
    Options.read (some "e") ["a", "--min-scts", "+3", "--prefs", "--verbose", "-b"] =
      Options.read (some "e") ["--min-scts", "+3", "a", "--prefs", "--verbose", "-b"] ∧
    Options.read none ["a", "--timeout", "1s", "--nope"] = .error (.badTimeout .invalidDigit) := by
  have positional : ∀ text ∈ ["a", "-b"], ¬Dashed text := by
    intro text mem
    rw [← isOption_iff]
    revert text
    decide
  have a : Group ["a"] (.positional "a") := .positional (positional _ (by decide))
  have b : Group ["-b"] (.positional "-b") := .positional (positional _ (by decide))
  have three : Decimal.Numeral "+3".toList 3 :=
    @Decimal.Numeral.signed ['3'] (by decide) (List.forall_mem_singleton.mpr (by decide))
  have minimum : Group ["--min-scts", "+3"] (.minimum 3) := .minimum three (by decide)
  refine ⟨?_, ?_, ?_⟩
  · refine ((read_by_grammar _ _).1 _).mpr
      ⟨[.positional "a", .minimum 3, .file "--verbose", .positional "-b"], ?_, by decide⟩
    exact .cons a (.cons minimum (.cons (.file "--verbose") (.cons b .nil)))
  · exact (read_by_grammar _ _).2.2 [] [] _ _ _ _ ["--prefs", "--verbose", "-b"] rfl .nil a minimum (by decide)
  · have flaw : Decimal.Flaw "1s".toList .invalidDigit :=
      .plain (by decide) (@Decimal.Trouble.invalidDigit ['1'] [] 's' (List.forall_mem_singleton.mpr (by decide))
        (by decide) (by decide))
    exact ((read_by_grammar _ _).2.1 _).mpr ⟨_, _, _, rfl, .single a, .badTimeout ["--nope"] flaw⟩

end Options

end Transparency
