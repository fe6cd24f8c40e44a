import Transparency.Proofs.HostPolicy.Grammar
import Transparency.Proofs.Inspector
import Transparency.Proofs.Manager.Reporting

/-!
# Policies in force

A policy comes into force when an inspector is made by it. This succeeds for the policies whose patterns all belong to the
grammar, and for the others it fails with the first pattern that does not. A manager takes any policy, but makes its
inspector in this way only; so whatever has happened, the inspector that it keeps goes by a policy of the grammar, and
with another policy it never gets one.

`HostPolicy.in_force_only_in_grammar` says all of this, and that no pattern in force is idle.
-/

namespace Transparency

variable {ι σ : Type}

/-! ## Messages -/

/-- A message about a pattern ends in the pattern. -/
theorem PatternFault.exists_message_eq (fault : PatternFault) (pattern : String) :
    ∃ opening, fault.message pattern = opening ++ "'" ++ pattern ++ "'" := by
  have quoted (opening text : String) (ends : text = opening ++ "'") :
      text ++ pattern ++ "'" = opening ++ "'" ++ pattern ++ "'" := by rw [ends]
  cases fault with
  | emptyName => exact ⟨"Empty host pattern ", quoted _ _ (by decide)⟩
  | misplacedWildcard => exact ⟨"Wildcard only allowed as leading '*.' in ", quoted _ _ (by decide)⟩
  | emptyLabel => exact ⟨"Malformed host pattern ", quoted _ _ (by decide)⟩

theorem Error.exists_message_eq_of_pattern (pattern : String) (fault : PatternFault) :
    ∃ opening, (Error.config (.pattern pattern fault)).message = opening ++ "'" ++ pattern ++ "'" := by
  obtain ⟨opening, ending⟩ := fault.exists_message_eq pattern
  have message_eq : (Error.config (.pattern pattern fault)).message = "Configuration error: " ++ fault.message pattern :=
    rfl
  refine ⟨"Configuration error: " ++ opening, ?_⟩
  rw [message_eq, ending, ← String.append_assoc, ← String.append_assoc, ← String.append_assoc]

/-! ## Making inspectors -/

namespace Inspector

variable {verifier : Verifier σ} {policy : HostPolicy} {report : String → Outcome → σ → σ}

/-- An inspector is made by every policy of the grammar. -/
theorem exists_of_inGrammar (inGrammar : policy.InGrammar) (verifier : Verifier σ)
    (report : String → Outcome → σ → σ) :
    ∃ inspector, make verifier policy report = .ok inspector ∧ inspector.policy = policy := by
  rcases made : make verifier policy report with error | inspector
  · obtain ⟨pattern, fault, first, -⟩ := make_eq_error_iff.mp made
    rw [HostPolicy.firstFault?_eq_none_iff.mpr inGrammar] at first
    cases first
  · exact ⟨inspector, rfl, (of_make made).2.1⟩

/-- By any other policy none is made, on account of its first pattern outside the grammar. -/
theorem exists_error_of_not_inGrammar (outside : ¬policy.InGrammar) (verifier : Verifier σ)
    (report : String → Outcome → σ → σ) :
    ∃ pattern fault, policy.FirstOutside pattern ∧
      make verifier policy report = .error (.config (.pattern pattern fault)) := by
  rcases first : policy.firstFault? with _ | ⟨pattern, fault⟩
  · exact absurd (HostPolicy.firstFault?_eq_none_iff.mp first) outside
  · exact ⟨pattern, fault, (HostPolicy.firstFault?_eq_some_iff.mp first).1,
      make_eq_error_iff.mpr ⟨pattern, fault, first, rfl⟩⟩

/-- The policy of an inspector that was made belongs to the grammar. -/
theorem inGrammar (inspector : Inspector σ) : inspector.policy.InGrammar :=
  HostPolicy.firstFault?_eq_none_iff.mp inspector.valid

end Inspector

/-! ## Managers -/

namespace Fleet

variable [DecidableEq ι] [Journal σ] {manager : Manager σ} {start : Fleet ι σ} {entry : Entry σ}

/-- What a manager keeps after a history is an inspector that it made. -/
theorem inspector_made_after (new : start.memory = {}) :
    ∀ history : List (Operation ι σ), (start.after manager history).memory.inspector = some entry →
      ∃ inspector, manager.Makes inspector ∧ entry = { inspector.toInterceptor with handle := manager.handle }
  | [], kept => by
    rw [after, new] at kept
    cases kept
  | .call place ask :: earlier, kept => by
    simp only [after, step, call, Manager.answer_eq] at kept
    rcases Manager.inspector_of_reconcile (fits_after new earlier) kept with before | ⟨s, t, made⟩
    · exact inspector_made_after new earlier before
    · exact Manager.makes_of_construct made
  | .edit _ _ :: earlier, kept => inspector_made_after new earlier kept
  | .other _ :: earlier, kept => inspector_made_after new earlier kept

end Fleet

/-! ## Policies of the grammar -/

/-- **A policy is in force only if its patterns belong to the grammar.** A policy has no fault exactly if all its patterns
belong to the grammar; otherwise its fault is that of the first pattern that does not, include patterns before exclude
patterns. An inspector is made by every policy of the grammar, and by another policy none is made; the error names the
first pattern outside the grammar. Whatever inspector a manager keeps after any history goes by the manager's policy,
which belongs to the grammar then; with another policy the manager never keeps one, and every call fails that wants it.
Each pattern of a policy without a fault matches some host that is made of labels: a policy that includes only this
pattern covers the host, and one that excludes only this pattern does not. -/
theorem HostPolicy.in_force_only_in_grammar [DecidableEq ι] [Journal σ] (policy : HostPolicy) :
    (policy.firstFault? = none ↔ policy.InGrammar) ∧
    (∀ pattern fault, policy.firstFault? = some (pattern, fault) ↔
      policy.FirstOutside pattern ∧ HostPattern.Flaw (HostPattern.name pattern.toList) fault) ∧
    (∀ (verifier : Verifier σ) (report : String → Outcome → σ → σ),
      (policy.InGrammar → ∃ inspector, Inspector.make verifier policy report = .ok inspector ∧
        inspector.policy = policy) ∧
      (¬policy.InGrammar → ∃ pattern fault opening, policy.FirstOutside pattern ∧
        Inspector.make verifier policy report = .error (.config (.pattern pattern fault)) ∧
        (Error.config (.pattern pattern fault)).message = opening ++ "'" ++ pattern ++ "'")) ∧
    (∀ (manager : Manager σ) (start : Fleet ι σ) (history : List (Operation ι σ)),
      manager.policy = policy → start.memory = {} →
      let fleet := start.after manager history
      (∀ entry, fleet.memory.inspector = some entry → policy.InGrammar ∧ ∃ inspector : Inspector σ,
        inspector.policy = policy ∧ entry = { inspector.toInterceptor with handle := manager.handle }) ∧
      (¬policy.InGrammar → fleet.memory.inspector = none ∧ ∀ place ask,
        (fleet.call manager place ask).1.result.isOk = !ask.desired manager fleet.state)) ∧
    (policy.firstFault? = none → ∀ pattern ∈ policy.patterns, ∃ host : String,
      [] ∉ labels (withoutFinalDots host.toList) ∧ HostPattern.names pattern (normalizedHost host) = true ∧
      ({ includeHosts := [pattern] } : HostPolicy).covers host = true ∧
      ({ excludeHosts := [pattern] } : HostPolicy).covers host = false) := by
  refine ⟨firstFault?_eq_none_iff, fun _ _ => firstFault?_eq_some_iff, fun verifier report => ⟨?_, ?_⟩, ?_, ?_⟩
  · exact fun inGrammar => Inspector.exists_of_inGrammar inGrammar verifier report
  · intro outside
    obtain ⟨pattern, fault, first, refused⟩ := Inspector.exists_error_of_not_inGrammar outside verifier report
    obtain ⟨opening, message_eq⟩ := Error.exists_message_eq_of_pattern pattern fault
    exact ⟨pattern, fault, opening, first, refused, message_eq⟩
  · rintro manager start history rfl new fleet
    refine ⟨fun entry kept => ?_, fun outside => ?_⟩
    · obtain ⟨inspector, made, rfl⟩ := Fleet.inspector_made_after new history kept
      have inGrammar := inspector.inGrammar
      rw [made.policy_eq] at inGrammar
      exact ⟨inGrammar, inspector, made.policy_eq, rfl⟩
    · have malformed : manager.policy.firstFault?.isSome = true := by
        rw [← Option.ne_none_iff_isSome]
        exact mt firstFault?_eq_none_iff.mp outside
      have empty : fleet.memory = {} := Fleet.memory_after_of_malformed malformed new history
      refine ⟨by rw [empty], fun place ask => ?_⟩
      exact (Fleet.call_of_malformed malformed empty place ask).1
  · intro accepted pattern mem
    obtain ⟨host, labelled, named⟩ := (firstFault?_eq_none_iff.mp accepted pattern mem).exists_host
    refine ⟨host, labelled, named, ?_, ?_⟩ <;> simp [covers_eq, named]

namespace Directory

/-- A policy with two patterns outside the grammar. -/
def stray : HostPolicy where
  includeHosts := ["*.example.com", "api.*.com"]
  excludeHosts := ["legacy..example.com"]

/-- A manager with this policy, which is asked to attach its inspector. -/
def strayManager : Manager Desk := { Desk.manager with policy := stray }

/-- The policy never comes into force, on account of the star in its second pattern; and a policy of the grammar has no
idle pattern. -/
theorem stray_never_in_force :
    (stray.FirstOutside "api.*.com" ∧
      ((Desk.fleet Unit {}).after strayManager [.call () (.value true)]).memory.inspector = none) ∧
    ∃ host : String, HostPattern.names "*.example.com" (normalizedHost host) = true := by
  have found : stray.firstFault? = some ("api.*.com", .misplacedWildcard) := by decide
  obtain ⟨faultless, first, -, managers, -⟩ :=
    HostPolicy.in_force_only_in_grammar (ι := Unit) (σ := Desk) stray
  have outside : ¬stray.InGrammar := by
    rw [← faultless, found]
    exact nofun
  obtain ⟨-, -, -, -, matching⟩ := HostPolicy.in_force_only_in_grammar (ι := Unit) (σ := Desk) policy
  obtain ⟨host, -, named, -⟩ := matching (by decide) "*.example.com" (by decide)
  refine ⟨⟨((first _ _).mp found).1, ?_⟩, host, named⟩
  exact ((managers strayManager (Desk.fleet Unit {}) [.call () (.value true)] rfl rfl).2 outside).1

end Directory

end Transparency
