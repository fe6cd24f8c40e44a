import Transparency.Proofs.Debouncer.Streak

/-!
# Counting lines

What a report does depends on what went before by one bit only. A `Page` is this bit and the lines, and `Page.tell` is
what a report does to it (`Ledger.page_report`).

A report that is a failure leaves the `Page.prospect` alone, the number of lines that there are after one more failure;
a success raises it by one at most. So any reports lead to at most one line more than there are successes among them,
and, if the debouncer was not failing before, to one line at least as soon as there is a failure.
-/

namespace Transparency

variable {σ α : Type}

/-- What can be read off a debouncer and its ledger. -/
structure Page where
  /-- whether the last outcome was a failure -/
  failing : Bool
  lines : List (String × String)

namespace Page

/-- The page after a report. -/
def tell (page : Page) (report : Finding) : Page where
  failing := report.outcome.isFailure
  lines := page.lines ++ if report.outcome.isFailure && !page.failing then [report.line] else []

/-- How many lines there are after one more failure. -/
def prospect (page : Page) : Nat := page.lines.length + (!page.failing).toNat

theorem length_le_prospect (page : Page) : page.lines.length ≤ page.prospect := Nat.le_add_right _ _

theorem prospect_of_failing {page : Page} (failing : page.failing = true) : page.prospect = page.lines.length := by
  rw [prospect, failing]
  rfl

theorem prospect_of_silent {page : Page} (silent : page.failing = false) : page.prospect = page.lines.length + 1 := by
  rw [prospect, silent]
  rfl

theorem prospect_le (page : Page) : page.prospect ≤ page.lines.length + 1 :=
  Nat.add_le_add_left (Bool.toNat_le _) _

variable {report : Finding}

/-- A failure is the failure that was in prospect. -/
theorem prospect_tell_failure (page : Page) (failed : report.outcome.isFailure = true) :
    (page.tell report).prospect = page.prospect := by
  rw [prospect, prospect, tell, failed]
  cases page.failing <;> simp

/-- A success makes room for one more line at most. -/
theorem prospect_tell_success (page : Page) (passed : report.outcome.isFailure = false) :
    page.prospect ≤ (page.tell report).prospect ∧ (page.tell report).prospect ≤ page.prospect + 1 := by
  rw [prospect, prospect, tell, passed]
  cases page.failing <;> simp

theorem prospect_le_foldl_tell (reports : List Finding) (page : Page) :
    page.prospect ≤ (reports.foldl tell page).prospect := by
  induction reports generalizing page with
  | nil => exact Nat.le_refl _
  | cons report reports ih =>
    rw [List.foldl_cons]
    refine Nat.le_trans ?_ (ih (page.tell report))
    rcases failed : report.outcome.isFailure
    · exact (prospect_tell_success page failed).1
    · exact Nat.le_of_eq (prospect_tell_failure page failed).symm

theorem prospect_foldl_tell_le (reports : List Finding) (page : Page) :
    (reports.foldl tell page).prospect ≤ page.prospect + reports.countP (·.outcome.isSuccess) := by
  induction reports generalizing page with
  | nil => exact Nat.le_refl _
  | cons report reports ih =>
    have later := ih (page.tell report)
    rw [List.foldl_cons, List.countP_cons]
    rcases failed : report.outcome.isFailure
    · have raised := (prospect_tell_success page failed).2
      have counts : report.outcome.isSuccess = true := by rw [Outcome.isSuccess, failed]; rfl
      rw [if_pos counts]
      omega
    · rw [prospect_tell_failure page failed] at later
      omega

/-- Lines are added, never taken back. -/
theorem lines_prefix_foldl_tell (reports : List Finding) (page : Page) :
    page.lines <+: (reports.foldl tell page).lines := by
  induction reports generalizing page with
  | nil => exact List.prefix_rfl
  | cons report reports ih => exact (List.prefix_append _ _).trans (ih (page.tell report))

/-- **At most one line more than there are successes.** -/
theorem length_foldl_tell_le (reports : List Finding) (page : Page) :
    (reports.foldl tell page).lines.length ≤ page.lines.length + reports.countP (·.outcome.isSuccess) + 1 := by
  have first := prospect_le page
  have last := length_le_prospect (reports.foldl tell page)
  have between := prospect_foldl_tell_le reports page
  omega

/-- **A line for the failures**, if the debouncer was not failing before. -/
theorem length_lt_foldl_tell {reports : List Finding} {page : Page} (silent : page.failing = false)
    (mem : report ∈ reports) (failed : report.outcome.isFailure = true) :
    page.lines.length < (reports.foldl tell page).lines.length := by
  obtain ⟨earlier, later, rfl⟩ := List.append_of_mem mem
  rw [List.foldl_append, List.foldl_cons]
  -- right after the failure the debouncer is failing, so what was in prospect is there
  have now : ((earlier.foldl tell page).tell report).failing = true := failed
  calc page.lines.length
      < page.prospect := by rw [prospect_of_silent silent]; exact Nat.lt_succ_self _
    _ ≤ (earlier.foldl tell page).prospect := prospect_le_foldl_tell earlier page
    _ = ((earlier.foldl tell page).tell report).prospect := (prospect_tell_failure _ failed).symm
    _ = ((earlier.foldl tell page).tell report).lines.length := prospect_of_failing now
    _ ≤ (later.foldl tell ((earlier.foldl tell page).tell report)).lines.length :=
      (lines_prefix_foldl_tell later _).length_le

end Page

namespace Debouncer.Ledger

variable [Journal σ] {debouncer : Debouncer σ} (ledger : debouncer.Ledger)

/-- The page in a state. -/
def page (s : σ) : Page := ⟨debouncer.isFailing s, ledger.lines s⟩

/-- A report is told to the page. -/
theorem page_report (host : String) (outcome : Outcome) (s : σ) :
    ledger.page (debouncer.report host outcome s) = (ledger.page s).tell ⟨host, outcome⟩ := by
  rw [report, page, ledger.isFailing_record, lines_record, record_fst]
  rfl

/-- A note that is no line leaves the page alone. -/
theorem page_note {note : Note} (plain : note.isLine = false) (s : σ) :
    ledger.page (Journal.record note s) = ledger.page s := by
  rw [page, ledger.isFailing_note note s plain, ledger.lines_note note s plain]
  rfl

end Debouncer.Ledger

end Transparency
