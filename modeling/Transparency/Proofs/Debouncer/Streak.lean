import Transparency.Debouncer

/-!
# Streaks of failures

What a debouncer does is determined by the reports that reached it. A report *begins a streak* if it is a failure and
either the first report of all or the next one after a success. `beginnings` picks these reports out; the definition
looks at reports only and knows nothing of the flag that the debouncer keeps.

The lines that went through the sink are shown by a `Ledger`. Its laws say that the sink and the flag do not get into
each other's way, and that notes which are no lines leave both alone. So the sink may be the journal itself.

`Ledger.Agrees` is the invariant: the flag says whether the last report was a failure, and the lines are those of the
reports that began a streak, in order. Each report keeps it (`Ledger.Agrees.report`), and so does everything that leaves
flag and lines alone.
-/

namespace Transparency

variable {σ α : Type}

/-- Whether a note is a line that went through a sink: it has a category. -/
def Note.isLine (note : Note) : Bool := note.fields.any fun field => field.1 = "category"

/-! ## Reports -/

/-- An outcome that a debouncer is told of. -/
structure Finding where
  host : String
  outcome : Outcome
  deriving DecidableEq, Repr

/-- Whether a report begins a streak of failures after these, the latest first: it is a failure, and it is the first
report or directly follows a success. -/
def Finding.begins (report : Finding) (earlier : List Finding) : Bool :=
  report.outcome.isFailure && earlier.head?.all (·.outcome.isSuccess)

/-- The reports that begin a streak of failures. The latest report stands first. -/
def beginnings : List Finding → List Finding
  | [] => []
  | report :: earlier => if report.begins earlier then report :: beginnings earlier else beginnings earlier

/-- Whether there was a report and the last one was a failure. -/
def endsFailing (reports : List Finding) : Bool := reports.head?.any (·.outcome.isFailure)

theorem endsFailing_eq_true_iff {reports : List Finding} :
    endsFailing reports = true ↔ ∃ last earlier, reports = last :: earlier ∧ last.outcome.isFailure = true := by
  cases reports with
  | nil => simp [endsFailing]
  | cons last earlier => simp [endsFailing]

/-- A failure begins a streak unless the last report was a failure. -/
theorem Finding.begins_eq (report : Finding) (earlier : List Finding) :
    report.begins earlier = (report.outcome.isFailure && !endsFailing earlier) := by
  cases earlier with
  | nil => rfl
  | cons last earlier => rfl

/-- The line about a report, after its category. -/
def Finding.line (report : Finding) : String × String :=
  ("network", report.host ++ " -> " ++ report.outcome.message)

/-! ## Ledgers -/

namespace Debouncer

/-- Shows the lines that went through the sink of a debouncer, the first one first. -/
structure Ledger [Journal σ] (debouncer : Debouncer σ) where
  /-- the lines that are shown, each with its category -/
  lines : σ → List (String × String)
  lines_set : ∀ failing s, lines (debouncer.streak.set failing s) = lines s
  lines_sink : ∀ category line s, lines (debouncer.sink category line s) = lines s ++ [(category, line)]
  lines_note : ∀ note s, note.isLine = false → lines (Journal.record note s) = lines s
  isFailing_sink : ∀ category line s, debouncer.isFailing (debouncer.sink category line s) = debouncer.isFailing s
  isFailing_note : ∀ note s, note.isLine = false →
    debouncer.isFailing (Journal.record note s) = debouncer.isFailing s

namespace Ledger

/-- If the sink is the journal and the notes can be read off the state, then the lines are among the notes. The last
note stands first. -/
def ofNotes [Journal σ] {streak : Cell σ Bool} (notes : σ → List Note)
    (notes_record : ∀ note s, notes (Journal.record note s) = note :: notes s)
    (notes_set : ∀ failing s, notes (streak.set failing s) = notes s)
    (get_record : ∀ note s, streak.get (Journal.record note s) = streak.get s) : Ledger ⟨streak, Sink.journal⟩ where
  lines s := ((notes s).filter Note.isLine).reverse.map fun line =>
    ((line.fields.head?.map Prod.snd).getD "", line.message)
  lines_set failing s := by rw [notes_set]
  lines_sink category line s := by
    have isLine : Note.isLine ⟨.warn, line, [("category", category)]⟩ = true := rfl
    simp [Sink.journal, note, notes_record, isLine]
  lines_note note s plain := by simp [notes_record, plain]
  isFailing_sink _ _ s := get_record _ s
  isFailing_note note s _ := get_record note s

variable [Journal σ] {debouncer : Debouncer σ} (ledger : debouncer.Ledger)

/-! ### A single report -/

omit [Journal σ] in
theorem isFailing_set (debouncer : Debouncer σ) (failing : Bool) (s : σ) :
    debouncer.isFailing (debouncer.streak.set failing s) = failing := debouncer.streak.get_set failing s

/-- A line is sent exactly at the first failure. -/
theorem record_fst (host : String) (outcome : Outcome) (s : σ) :
    (debouncer.record host outcome s).1 = (outcome.isFailure && !debouncer.isFailing s) := by
  rw [record, isFailing]
  cases outcome.isFailure <;> cases debouncer.streak.get s <;> rfl

include ledger in
/-- The flag afterwards says what the report said. -/
theorem isFailing_record (host : String) (outcome : Outcome) (s : σ) :
    debouncer.isFailing (debouncer.record host outcome s).2 = outcome.isFailure := by
  have flagged := isFailing_set debouncer outcome.isFailure s
  rw [record]
  rcases failed : outcome.isFailure <;> rw [failed] at flagged <;> cases debouncer.streak.get s
  · exact flagged
  · exact (ledger.isFailing_note _ _ rfl).trans flagged
  · exact (ledger.isFailing_sink networkCategory (line host outcome) _).trans flagged
  · exact flagged

/-- The line that is sent is about the report. -/
theorem lines_record (host : String) (outcome : Outcome) (s : σ) :
    ledger.lines (debouncer.record host outcome s).2 =
      ledger.lines s ++ if (debouncer.record host outcome s).1 then [Finding.line ⟨host, outcome⟩] else [] := by
  have flagged := ledger.lines_set outcome.isFailure s
  rw [record]
  rcases failed : outcome.isFailure <;> rw [failed] at flagged <;> cases debouncer.streak.get s
  · exact flagged.trans (List.append_nil _).symm
  · exact ((ledger.lines_note _ _ rfl).trans flagged).trans (List.append_nil _).symm
  · exact (ledger.lines_sink networkCategory (line host outcome) _).trans (by rw [flagged]; rfl)
  · exact flagged.trans (List.append_nil _).symm

/-- What a report adds to the lines depends on the flag only. -/
theorem lines_report_congr (host : String) (outcome : Outcome) {s t : σ}
    (isFailing_eq : debouncer.isFailing s = debouncer.isFailing t) (lines_eq : ledger.lines s = ledger.lines t) :
    ledger.lines (debouncer.report host outcome s) = ledger.lines (debouncer.report host outcome t) := by
  rw [report, report, lines_record, lines_record, record_fst, record_fst, isFailing_eq, lines_eq]

/-! ### Any number of reports -/

/-- The debouncer and its ledger say what the reports since some state say, the latest first. -/
structure Agrees (ledger : debouncer.Ledger) (start : σ) (reports : List Finding) (s : σ) : Prop where
  isFailing_eq : debouncer.isFailing s = endsFailing reports
  lines_eq : ledger.lines s = ledger.lines start ++ (beginnings reports).reverse.map Finding.line

variable {ledger} {start s t : σ} {reports : List Finding}

theorem Agrees.nil (silent : debouncer.isFailing start = false) : ledger.Agrees start [] start :=
  ⟨silent, (List.append_nil _).symm⟩

/-- What leaves the flag and the lines alone keeps the agreement. -/
theorem Agrees.quiet (agrees : ledger.Agrees start reports s)
    (isFailing_eq : debouncer.isFailing t = debouncer.isFailing s) (lines_eq : ledger.lines t = ledger.lines s) :
    ledger.Agrees start reports t :=
  ⟨isFailing_eq.trans agrees.isFailing_eq, lines_eq.trans agrees.lines_eq⟩

/-- A line is sent exactly if the report begins a streak. -/
theorem Agrees.record_fst (agrees : ledger.Agrees start reports s) (report : Finding) :
    (debouncer.record report.host report.outcome s).1 = report.begins reports := by
  rw [Ledger.record_fst, agrees.isFailing_eq, Finding.begins_eq]

/-- A report keeps the agreement. -/
theorem Agrees.report (agrees : ledger.Agrees start reports s) (report : Finding) :
    ledger.Agrees start (report :: reports) (debouncer.report report.host report.outcome s) := by
  refine ⟨ledger.isFailing_record _ _ s, ?_⟩
  rw [Debouncer.report, lines_record, agrees.record_fst, agrees.lines_eq, beginnings]
  cases report.begins reports <;> simp

end Ledger

end Debouncer

end Transparency
