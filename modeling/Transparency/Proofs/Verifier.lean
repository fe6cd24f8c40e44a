import Mathlib
import Transparency.Verifier
import Transparency.Proofs.Certificate.Grammar
import Transparency.Proofs.Certificate.Timestamp

/-!
# What the presence verifier makes of a certificate

The presence verifier has one answer for given bytes, whatever the host and whatever the state it works on
(`Answers`). The answer is told from two things that the grammar of certificates says about the bytes: whether they
start with a certificate, and for how many timestamps it counts (`PresenceVerifier.judges_by_count`). So the bytes after
a certificate do not matter, and asking for more timestamps makes the verifier stricter and never more lenient.
-/

namespace Transparency

open Bytes

namespace PresenceVerifier

/-- The verifiers that can be had, each with the number of timestamps that it asks for. -/
inductive Offered : Nat → PresenceVerifier → Prop where
  | default : Offered 2 default
  | ofMinimum {minimum : Nat} {verifier : PresenceVerifier} : ofMinimum minimum = .ok verifier →
      Offered minimum verifier

/-- The outcome of a verifier for a certificate, for every host and in every state. -/
def Answers (verifier : PresenceVerifier) (certificate : Bytes) (outcome : Outcome) : Prop :=
  ∀ (σ : Type) [Journal σ] (host : String) (s : σ), (verifier.toVerifier.verify host certificate s).1 = outcome

/-- The outcome where so many timestamps are asked for and so many are found. -/
structure Weighs (minimum found : Nat) (outcome : Outcome) : Prop where
  noTimestamps_iff : outcome = .failure .noTimestamps ↔ found = 0
  tooFewTimestamps_iff : ∀ n required, outcome = .failure (.tooFewTimestamps n required) ↔
    (n = found ∧ required = minimum) ∧ 0 < found ∧ found < minimum
  trusted_iff : ∀ n, outcome = .success (.trusted n) ↔ n = found ∧ minimum ≤ found
  not_trusted : found = 0 → outcome.isSuccess = false

/-- What becomes of an outcome if more timestamps are asked for: trust may be lost, and is never gained. -/
structure Raises (higher : Nat) (outcome raised : Outcome) : Prop where
  trusted : ∀ n, outcome = .success (.trusted n) →
    raised = if n < higher then .failure (.tooFewTimestamps n higher) else .success (.trusted n)
  failure : outcome.isFailure = true → raised.isFailure = true

variable {minimum : Nat} {verifier : PresenceVerifier} {bytes : Bytes} {outcome : Outcome}

/-! ## Verifiers -/

theorem offered_iff : Offered minimum verifier ↔ verifier.minimum = minimum := by
  constructor
  · rintro (_ | made)
    · rfl
    · rw [PresenceVerifier.ofMinimum] at made
      split at made
      · cases made
        rfl
      · cases made
  · rintro rfl
    exact .ofMinimum (dif_pos verifier.minimum_pos)

theorem answers_iff : verifier.Answers bytes outcome ↔ verifier.judge bytes = outcome :=
  ⟨fun answers => answers (List Note) "" [], fun judged _ _ _ _ => judged⟩

theorem answers_judge (verifier : PresenceVerifier) (bytes : Bytes) : verifier.Answers bytes (verifier.judge bytes) :=
  answers_iff.mpr rfl

/-! ## Verdicts -/

theorem verdict_zero (verifier : PresenceVerifier) : verifier.verdict 0 = .failure .noTimestamps := rfl

theorem verdict_of_lt {found : Nat} (some_found : 0 < found) (few : found < verifier.minimum) :
    verifier.verdict found = .failure (.tooFewTimestamps found verifier.minimum) := by
  rw [verdict, if_neg some_found.ne', if_pos few]

theorem verdict_of_le {found : Nat} (enough : verifier.minimum ≤ found) :
    verifier.verdict found = .success (.trusted found) := by
  have some_found : 0 < found := verifier.minimum_pos.trans_le enough
  rw [verdict, if_neg some_found.ne', if_neg enough.not_gt]

theorem weighs_verdict (verifier : PresenceVerifier) (found : Nat) :
    Weighs verifier.minimum found (verifier.verdict found) := by
  have positive := verifier.minimum_pos
  rcases Nat.eq_zero_or_pos found with rfl | some_found
  · rw [verdict_zero]
    exact ⟨by simp, by simp, by simp [positive.ne'], fun _ => rfl⟩
  · rcases Nat.lt_or_ge found verifier.minimum with few | enough
    · rw [verdict_of_lt some_found few]
      exact ⟨by simp [some_found.ne'], by simp [some_found, few, eq_comm], by simp [few], fun _ => rfl⟩
    · rw [verdict_of_le enough]
      exact ⟨by simp [some_found.ne'], by simp [enough], by simp [enough, eq_comm], fun none_found => by omega⟩

theorem raises_verdict {raised : PresenceVerifier} (higher : verifier.minimum ≤ raised.minimum) (found : Nat) :
    Raises raised.minimum (verifier.verdict found) (raised.verdict found) := by
  rcases Nat.lt_or_ge found verifier.minimum with few | enough
  · have untrusted : ∀ n, verifier.verdict found ≠ .success (.trusted n) := fun n trusted =>
      few.not_ge ((weighs_verdict verifier found).trusted_iff n |>.mp trusted).2
    refine ⟨fun n trusted => absurd trusted (untrusted n), fun _ => ?_⟩
    rcases Nat.eq_zero_or_pos found with rfl | some_found
    · rfl
    · rw [verdict_of_lt some_found (few.trans_le higher)]
      rfl
  · rw [verdict_of_le enough]
    refine ⟨fun n trusted => ?_, nofun⟩
    cases trusted
    split
    next few => exact verdict_of_lt (verifier.minimum_pos.trans_le enough) few
    next still_enough => exact verdict_of_le (Nat.le_of_not_lt still_enough)

/-! ## Judging -/

theorem judge_of_error {fault : CertificateFault} (unreadable : Certificate.parse bytes = .error fault) :
    verifier.judge bytes = .failure (.unparseableCertificate fault.message) := by
  rw [judge, unreadable]

theorem judge_of_ok {certificate : Certificate} (readable : Certificate.parse bytes = .ok certificate) :
    verifier.judge bytes = verifier.verdict certificate.timestamps.length := by
  rw [judge, readable]

theorem judge_eq_unparseable_iff {detail : String} :
    verifier.judge bytes = .failure (.unparseableCertificate detail) ↔
      ∃ fault, Certificate.parse bytes = .error fault ∧ fault.message = detail := by
  rcases read : Certificate.parse bytes with fault | certificate
  · simp [judge_of_error read]
  · rw [judge_of_ok read, verdict]
    split_ifs <;> simp

/-- A certificate is judged by its own bytes. -/
theorem judge_append {certificate : Certificate} {front : Bytes} (spelled : certificate.SpelledBy front)
    (rest : Bytes) : verifier.judge (front ++ rest) = verifier.verdict certificate.timestamps.length :=
  judge_of_ok (Certificate.parse_eq_ok_iff.mpr (startsWith_append spelled rest))

theorem raises_judge {raised : PresenceVerifier} (higher : verifier.minimum ≤ raised.minimum) (bytes : Bytes) :
    Raises raised.minimum (verifier.judge bytes) (raised.judge bytes) := by
  rcases read : Certificate.parse bytes with fault | certificate
  · rw [judge_of_error read, judge_of_error read]
    exact ⟨nofun, id⟩
  · rw [judge_of_ok read, judge_of_ok read]
    exact raises_verdict higher _

/-- **The presence verifier judges by the number of timestamps.** A verifier that can be had has one outcome for given
bytes, for all hosts and states. It is that the certificate cannot be read, with the fault that the reader finds, if and
only if the bytes do not start with a certificate. If they do, then the certificate counts for some number of
timestamps, by which the outcome is found; and with any other bytes after the certificate the outcome is the same. A
verifier that asks for more may refuse what this one trusts, and trusts nothing that this one refuses; and there is one
for every number. -/
theorem judges_by_count (offered : Offered minimum verifier) (bytes : Bytes) :
    ∃ outcome, verifier.Answers bytes outcome ∧
      (∀ detail, outcome = .failure (.unparseableCertificate detail) ↔
        ∃ fault, Certificate.parse bytes = .error fault ∧ fault.message = detail) ∧
      ((∃ detail, outcome = .failure (.unparseableCertificate detail)) ↔
        ¬∃ certificate : Certificate, StartsWith certificate.SpelledBy bytes) ∧
      (∀ (certificate : Certificate) (front rest : Bytes), certificate.SpelledBy front → bytes = front ++ rest →
        (∃ found, certificate.Counts found) ∧ (∀ found, certificate.Counts found → Weighs minimum found outcome) ∧
          ∀ other, verifier.Answers (front ++ other) outcome) ∧
      ∀ higher, minimum ≤ higher → (∃ raised, Offered higher raised) ∧
        ∀ raised, Offered higher raised →
          ∃ outcome', raised.Answers bytes outcome' ∧ Raises higher outcome outcome' := by
  obtain rfl := offered_iff.mp offered
  refine ⟨verifier.judge bytes, answers_judge verifier bytes, fun _ => judge_eq_unparseable_iff, ?_, ?_, ?_⟩
  · -- either the reader finds a fault or it finds a certificate
    simp only [judge_eq_unparseable_iff, ← Certificate.parse_eq_ok_iff]
    rcases Certificate.parse bytes with fault | certificate <;> simp
  · rintro certificate front rest spelled rfl
    refine ⟨⟨_, Certificate.counts_iff.mpr rfl⟩, ?_, fun other => ?_⟩
    · intro found counts
      rw [judge_append spelled, Certificate.counts_iff.mp counts]
      exact weighs_verdict verifier found
    · rw [answers_iff, judge_append spelled, judge_append spelled]
  · intro higher le_higher
    have positive : 0 < higher := verifier.minimum_pos.trans_le le_higher
    refine ⟨⟨⟨higher, positive⟩, offered_iff.mpr rfl⟩, fun raised raised_offered => ?_⟩
    obtain rfl := offered_iff.mp raised_offered
    exact ⟨raised.judge bytes, answers_judge raised bytes, raises_judge le_higher bytes⟩

end PresenceVerifier

namespace Specimen

open PresenceVerifier

/-- An element under a tag. -/
def element (tag : UInt8) (content : Bytes) : Bytes :=
  tag :: ((if content.length < 128 then [content.length.toUInt8]
    else [0x82, (content.length / 256).toUInt8, content.length.toUInt8]) ++ content)

/-- A content behind its length. -/
def block (content : Bytes) : Bytes := (content.length / 256).toUInt8 :: content.length.toUInt8 :: content

/-- A timestamp of a log. -/
def timestamp (log : UInt8) : Bytes :=
  block (0 :: (List.replicate 32 log ++ List.replicate 8 1 ++ [0, 0, 4, 3, 0, 0]))

/-- An extension of a kind. -/
def extension (id value : Bytes) : Bytes := element 0x30 (element 0x06 id ++ element 0x04 value)

/-- The value of an extension that holds a list. -/
def list (items : List Bytes) : Bytes := element 0x04 (block items.flatten)

def algorithm : Bytes := element 0x30 (element 0x06 [0x2A])

def date : Bytes := element 0x17 ("240101000000Z".toList.map (·.toNat.toUInt8))

/-- A foreign extension, a list of one, an extension that is broken, a list of two with rubbish after them, and a list
of rubbish. -/
def extensions : Bytes :=
  extension [0x55, 0x1D, 0x13] (list [timestamp 1]) ++
    extension Certificate.timestampListId (list [timestamp 1]) ++
    extension Certificate.timestampListId [0x04, 0x7F] ++
    extension Certificate.timestampListId (list [timestamp 2, timestamp 3, [0]]) ++
    extension Certificate.timestampListId (list [[0]])

/-- A certificate with those extensions. -/
def certificate : Bytes :=
  element 0x30 (element 0x30 (element 0x02 [1] ++ algorithm ++ element 0x30 [] ++ element 0x30 (date ++ date) ++
    element 0x30 [] ++ element 0x30 (algorithm ++ element 0x03 [0]) ++ element 0xA3 (element 0x30 extensions)) ++
    algorithm ++ element 0x03 [0])

def three : PresenceVerifier where
  minimum := 3

def four : PresenceVerifier where
  minimum := 4

theorem timestamps_certificate : (Certificate.parse certificate).map (·.timestamps.length) = .ok 3 := by
  decide +kernel

/-- Three timestamps are enough for the verifier that asks for three, also with a byte after the certificate, but not
for the one that asks for four. -/
theorem trusted_by_three_only :
    (ofMinimum 3 = .ok three ∧ ofMinimum 4 = .ok four) ∧
      (∃ leaf : Certificate, StartsWith leaf.SpelledBy certificate ∧ leaf.Counts 3) ∧
      three.Answers certificate (.success (.trusted 3)) ∧
      three.Answers (certificate ++ [0xFF]) (.success (.trusted 3)) ∧
      four.Answers certificate (.failure (.tooFewTimestamps 3 4)) := by
  obtain ⟨leaf, read, count⟩ := map_eq_ok_iff.mp timestamps_certificate
  have counts : leaf.Counts 3 := Certificate.counts_iff.mpr count
  obtain ⟨rest, front, spelled, split⟩ := Certificate.parse_eq_ok_iff.mp read
  obtain ⟨outcome, answers, -, -, readable, raising⟩ := judges_by_count (.ofMinimum rfl : Offered 3 three) certificate
  obtain ⟨-, weighs, others⟩ := readable leaf front rest spelled split
  obtain rfl : outcome = .success (.trusted 3) := ((weighs 3 counts).trusted_iff 3).mpr ⟨rfl, le_rfl⟩
  refine ⟨⟨rfl, rfl⟩, ⟨leaf, split ▸ startsWith_append spelled rest, counts⟩, answers, ?_, ?_⟩
  · rw [split, List.append_assoc]
    exact others (rest ++ [0xFF])
  · obtain ⟨outcome', answers', raises⟩ := (raising 4 (by decide)).2 four (.ofMinimum rfl)
    obtain rfl : outcome' = .failure (.tooFewTimestamps 3 4) := raises.trusted 3 rfl
    exact answers'

/-- A text is no certificate. -/
example : PresenceVerifier.default.judge ("not a certificate".toList.map (·.toNat.toUInt8)) =
    .failure (.unparseableCertificate "Parsing Error: NomError(Eof)") := by decide +kernel

end Specimen

end Transparency
