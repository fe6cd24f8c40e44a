import Transparency.Proofs.Command.Agreement

/-!
# The lines of a fetch

If an argument is no URL, a fetch ends at the first such argument, and no request is sent
(`Command.run_fetch_of_flaw`). Otherwise each argument has its request, each request its result, and each result its
line, all in the same order.

A line has one of three `Command.Form`s. Its first letters say which (`Command.Form.read_of_fits`), so they say what
came of the request (`Command.Form.fits_lineOf_iff`), and the number of failed requests can be counted off the lines
(`Command.countP_lines`). `Command.reported_of_results` puts that together for any results, whatever schedule has
brought them about; `Command.every_target_is_reported` is about whole runs.
-/

namespace Transparency

theorem Report.ofLines_singleton (line : String) : ofLines [line] = line ++ "\n" := by
  rw [ofLines_cons]
  exact String.append_empty

namespace Command

variable {ν : Type} {options : Options} {machine ready : Machine ν} {target line : String}
  {result : Except Error Response} {results : List (Except Error Response)} {targets : List String}

/-! ## The form of a line -/

/-- The forms of a line about an argument. -/
inductive Form where
  /-- there is a response -/
  | status
  /-- the certificate was refused -/
  | refusal
  /-- something else went wrong -/
  | failure
  deriving DecidableEq

namespace Form

variable {form : Form}

/-- A line about an argument has a form. -/
def Fits (target line : String) : Form → Prop
  | status => ∃ code length : Nat, line = toString code ++ " " ++ target ++ " (" ++ toString length ++ " bytes)"
  | refusal => ∃ message, line = "CT  " ++ target ++ " " ++ message
  | failure => ∃ message, line = "ERR " ++ target ++ " " ++ message

/-- The form of a line, by its first letters. -/
def read (line : String) : Form :=
  if "CT  ".toList <+: line.toList then refusal else if "ERR ".toList <+: line.toList then failure else status

/-- The form for what came of a request. -/
def ofResult : Except Error Response → Form
  | .ok _ => status
  | .error error => if error.isCertificateTransparency then refusal else failure

theorem ofResult_eq_status_iff : ofResult result = status ↔ ∃ response, result = .ok response := by
  rcases result with error | response
  · rw [ofResult]
    split <;> simp
  · exact ⟨fun _ => ⟨response, rfl⟩, fun _ => rfl⟩

theorem ofResult_eq_refusal_iff :
    ofResult result = refusal ↔ ∃ error, result = .error error ∧ error.isCertificateTransparency = true := by
  rcases result with error | response
  · rw [ofResult]
    split <;> simp_all
  · exact ⟨nofun, nofun⟩

theorem ofResult_eq_failure_iff :
    ofResult result = failure ↔ ∃ error, result = .error error ∧ error.isCertificateTransparency = false := by
  rcases result with error | response
  · rw [ofResult]
    split <;> simp_all
  · exact ⟨nofun, nofun⟩

/-- A number begins with a digit. -/
theorem exists_digit (n : Nat) : ∃ digit rest, Nat.toDigits 10 n = digit :: rest ∧ digit.isDigit = true := by
  obtain ⟨digit, rest, digits⟩ := List.exists_cons_of_ne_nil (@Nat.toDigits_ne_nil n 10)
  refine ⟨digit, rest, digits, Nat.isDigit_of_mem_toDigits (by decide) (le_refl 10) (n := n) ?_⟩
  rw [digits]
  exact List.mem_cons_self

/-- **The first letters of a line tell its form.** -/
theorem read_of_fits (fits : form.Fits target line) : read line = form := by
  cases form with
  | status =>
    obtain ⟨code, length, rfl⟩ := fits
    -- the other forms begin with letters
    obtain ⟨digit, rest, digits, isDigit⟩ := exists_digit code
    have not_c : digit ≠ 'C' := by rintro rfl; cases isDigit
    have not_e : digit ≠ 'E' := by rintro rfl; cases isDigit
    simp [read, digits, not_c.symm, not_e.symm]
  | refusal =>
    obtain ⟨message, rfl⟩ := fits
    simp [read]
  | failure =>
    obtain ⟨message, rfl⟩ := fits
    simp [read]

theorem fits_lineOf (target : String) (result : Except Error Response) :
    (ofResult result).Fits target (lineOf target result) := by
  rcases result with error | response
  · rw [ofResult, lineOf]
    split
    · exact ⟨error.message, rfl⟩
    · exact ⟨error.message ++ _, String.append_assoc ..⟩
  · exact ⟨response.status.code, response.body.length, rfl⟩

/-- A line has no form but that for what it is about. -/
theorem fits_lineOf_iff : form.Fits target (lineOf target result) ↔ ofResult result = form := by
  refine ⟨fun fits => ?_, fun of_result => of_result ▸ fits_lineOf target result⟩
  rw [← read_of_fits fits, read_of_fits (fits_lineOf target result)]

@[simp] theorem read_lineOf (target : String) (result : Except Error Response) :
    read (lineOf target result) = ofResult result := read_of_fits (fits_lineOf target result)

end Form

/-! ## Lines and results -/

/-- A line tells what came of the request for an argument. -/
structure Tells (target : String) (result : Except Error Response) (line : String) : Prop where
  status_iff : Form.status.Fits target line ↔ ∃ response, result = .ok response
  refusal_iff :
    Form.refusal.Fits target line ↔ ∃ error, result = .error error ∧ error.isCertificateTransparency = true
  failure_iff :
    Form.failure.Fits target line ↔ ∃ error, result = .error error ∧ error.isCertificateTransparency = false
  of_response : ∀ response, result = .ok response →
    line = toString response.status.code ++ " " ++ target ++ " (" ++ toString response.body.length ++ " bytes)"
  of_refusal : ∀ error, result = .error error → error.isCertificateTransparency = true →
    line = "CT  " ++ target ++ " " ++ error.message
  /-- errors that may be gone at another try are marked, and no others -/
  of_failure : ∀ error, result = .error error → error.isCertificateTransparency = false →
    (line = "ERR " ++ target ++ " " ++ error.message ++ " (retryable)" ↔ error.isRecoverable = true) ∧
      (line = "ERR " ++ target ++ " " ++ error.message ↔ error.isRecoverable = false)

theorem append_mark_ne (text : String) : text ++ " (retryable)" ≠ text := by
  intro same
  have length_eq := congrArg String.length same
  simp at length_eq

theorem tells_lineOf (target : String) (result : Except Error Response) :
    Tells target result (lineOf target result) where
  status_iff := Form.fits_lineOf_iff.trans Form.ofResult_eq_status_iff
  refusal_iff := Form.fits_lineOf_iff.trans Form.ofResult_eq_refusal_iff
  failure_iff := Form.fits_lineOf_iff.trans Form.ofResult_eq_failure_iff
  of_response := by
    rintro response rfl
    rfl
  of_refusal := by
    rintro error rfl refused
    rw [lineOf, if_pos refused]
  of_failure := by
    rintro error rfl other
    rw [lineOf, if_neg (Bool.eq_false_iff.mp other)]
    cases error.isRecoverable with
    | true => simp
    | false => simp [(append_mark_ne _).symm]

/-- Nothing but the line about it tells what came of a request. -/
theorem Tells.eq_lineOf (tells : Tells target result line) : line = lineOf target result := by
  rcases result with error | response
  · rcases refused : error.isCertificateTransparency
    · -- the mark is there exactly if another try may succeed
      obtain ⟨marked, unmarked⟩ := tells.of_failure error rfl refused
      rw [lineOf, if_neg (Bool.eq_false_iff.mp refused)]
      rcases recoverable : error.isRecoverable
      · rw [unmarked.mpr recoverable]
        exact String.append_empty.symm
      · exact marked.mpr recoverable
    · rw [lineOf, if_pos refused]
      exact tells.of_refusal error rfl refused
  · exact tells.of_response response rfl

theorem isFailed_iff : isFailed result = true ↔ Form.ofResult result ≠ .status := by
  rw [Ne, Form.ofResult_eq_status_iff]
  cases result <;> simp [isFailed]

/-- **The failed requests are counted by their lines.** -/
theorem countP_lines (same_length : results.length = targets.length) :
    (List.zipWith lineOf targets results).countP (Form.read · ≠ .status) = (results.filter isFailed).length := by
  rw [← List.countP_eq_length_filter]
  induction targets generalizing results with
  | nil =>
    obtain rfl := List.length_eq_zero_iff.mp same_length
    rfl
  | cons target targets ih =>
    rcases results with _ | ⟨result, results⟩
    · cases same_length
    · have here : (Form.read (lineOf target result) ≠ .status) ↔ isFailed result = true := by
        rw [Form.read_lineOf, isFailed_iff]
      rw [List.zipWith_cons_cons, List.countP_cons, List.countP_cons, ih (Nat.succ.inj same_length)]
      simp only [decide_eq_true_eq, here]

/-- The report of a fetch by its results. -/
def reportOf (heading : String) (targets : List String) (results : List (Except Error Response)) : Report :=
  let failed := (results.filter isFailed).length
  .ofCommand (if failed = 0 then .ok () else .error (.requests failed targets.length))
    (heading :: List.zipWith lineOf targets results)

/-- A report tells under a heading, for each argument in order, what came of it, and whether anything failed. -/
structure Reported (heading : String) (targets : List String) (results : List (Except Error Response))
    (lines : List String) (report : Report) : Prop where
  stdout_eq : report.stdout = Report.ofLines (heading :: lines)
  length_eq : lines.length = targets.length
  tells : ∀ (place : Nat) (target : String), targets[place]? = some target →
    ∃ (result : Except Error Response) (line : String),
      results[place]? = some result ∧ lines[place]? = some line ∧ Tells target result line
  exit_iff : report.exit = 0 ↔ ∀ result ∈ results, ∃ response, result = .ok response
  passed : report.exit = 0 → report.stderr = ""
  /-- the lines that tell of errors are counted -/
  failed : report.exit ≠ 0 → report.exit = 2 ∧ report.stderr =
    "Error: " ++ (toString (lines.countP (Form.read · ≠ .status)) ++ " of " ++ toString targets.length ++
      " requests failed") ++ "\n"

/-- A report of results shows just the lines about them. -/
theorem Reported.lines_eq {heading : String} {lines : List String} {report : Report}
    (reported : Reported heading targets results lines report) : lines = List.zipWith lineOf targets results := by
  refine List.ext_getElem? fun place => ?_
  rw [List.getElem?_zipWith]
  rcases here : targets[place]? with _ | target
  · rw [List.getElem?_eq_none_iff, ← reported.length_eq] at here
    exact List.getElem?_eq_none here
  · obtain ⟨result, line, came, shown, tells⟩ := reported.tells place target here
    rw [came, shown, tells.eq_lineOf]

theorem filter_isFailed_eq_nil_iff :
    (results.filter isFailed).length = 0 ↔ ∀ result ∈ results, ∃ response, result = .ok response := by
  rw [List.length_eq_zero_iff, List.filter_eq_nil_iff]
  refine forall₂_congr fun result _ => ?_
  rw [isFailed_iff, not_not, Form.ofResult_eq_status_iff]

/-- **Any results are reported**, one for each argument, wherever they come from. -/
theorem reported_of_results (heading : String) (same_length : results.length = targets.length) :
    Reported heading targets results (List.zipWith lineOf targets results) (reportOf heading targets results) where
  stdout_eq := Report.stdout_ofCommand _ _
  length_eq := by rw [List.length_zipWith, same_length, Nat.min_self]
  tells place target here := by
    have inside : place < results.length := same_length ▸ (List.getElem?_eq_some_iff.mp here).1
    refine ⟨results[place], lineOf target results[place], List.getElem?_eq_getElem inside, ?_, tells_lineOf _ _⟩
    rw [List.getElem?_zipWith, here, List.getElem?_eq_getElem inside]
  exit_iff := by
    rw [← filter_isFailed_eq_nil_iff, reportOf]
    split
    next all_passed => exact ⟨fun _ => all_passed, fun _ => rfl⟩
    next some_failed => exact ⟨nofun, fun all_passed => absurd all_passed some_failed⟩
  passed := by
    rw [reportOf]
    split
    · exact fun _ => rfl
    · exact nofun
  failed := by
    rw [reportOf]
    split
    · exact fun failed => absurd rfl failed
    · intro _
      rw [countP_lines same_length]
      exact ⟨rfl, Report.ofLines_singleton _⟩

/-! ## Requests -/

theorem requestOf_of_parse {url : Url} (valid : Url.parse target = .ok url) :
    requestOf options target = .ok { url, timeout := some (options.timeout * 1000) } := by
  rw [requestOf, Request.get, Request.ofText, valid]
  rfl

theorem requestOf_of_flaw {fault : UrlFault} (flaw : Url.parse target = .error fault) :
    requestOf options target = .error (.url fault) := by
  rw [requestOf, Request.get, Request.ofText, flaw]
  rfl

/-- Arguments that all are URLs have their requests. -/
theorem exists_requestsOf (valid : ∀ target ∈ targets, ∃ url, Url.parse target = .ok url) :
    ∃ requests, requestsOf options targets = .ok requests ∧
      targets.Forall₂ (fun target request => requestOf options target = .ok request) requests := by
  induction targets with
  | nil => exact ⟨[], rfl, .nil⟩
  | cons target rest ih =>
    obtain ⟨url, here⟩ := valid target List.mem_cons_self
    obtain ⟨requests, others, matched⟩ := ih fun other mem => valid other (List.mem_cons_of_mem target mem)
    refine ⟨{ url, timeout := some (options.timeout * 1000) } :: requests, ?_,
      .cons (requestOf_of_parse here) matched⟩
    rw [requestsOf, requestOf_of_parse here, others]
    rfl

/-- The first argument that is no URL ends the search for requests. -/
theorem requestsOf_of_flaw {before after : List String} {fault : UrlFault}
    (valid : ∀ target ∈ before, ∃ url, Url.parse target = .ok url) (flaw : Url.parse target = .error fault) :
    requestsOf options (before ++ target :: after) = .error (.url fault) := by
  induction before with
  | nil => rw [List.nil_append, requestsOf, requestOf_of_flaw flaw]
  | cons first before ih =>
    obtain ⟨url, here⟩ := valid first List.mem_cons_self
    rw [List.cons_append, requestsOf, requestOf_of_parse here,
      ih fun other mem => valid other (List.mem_cons_of_mem first mem)]
    rfl

/-- One of the arguments that are no URLs is the first. -/
theorem exists_first_flaw (flawed : ∃ target ∈ targets, ∃ fault, Url.parse target = .error fault) :
    ∃ before target after fault, targets = before ++ target :: after ∧
      (∀ target ∈ before, ∃ url, Url.parse target = .ok url) ∧ Url.parse target = .error fault := by
  induction targets with
  | nil =>
    obtain ⟨target, mem, -⟩ := flawed
    cases mem
  | cons first rest ih =>
    rcases parsed : Url.parse first with fault | url
    · exact ⟨[], first, rest, fault, rfl, nofun, parsed⟩
    · -- this one is a URL, so the one that is none comes later
      obtain ⟨target, mem, fault, flaw⟩ := flawed
      have later : target ∈ rest := by
        obtain rfl | later := List.mem_cons.mp mem
        · cases parsed.symm.trans flaw
        · exact later
      obtain ⟨before, target, after, fault, rfl, valid, flaw⟩ := ih ⟨target, later, fault, flaw⟩
      refine ⟨first :: before, target, after, fault, rfl, ?_, flaw⟩
      exact List.forall_mem_cons.mpr ⟨⟨url, parsed⟩, valid⟩

/-! ## Fetching -/

/-- The first line of a fetch. -/
def heading (isOn : Bool) : String := "CT verification: " ++ stateWord isOn

/-- Making the client sends nothing. -/
theorem network_of_build {made : Except Error (Client (Machine ν))}
    {built : Builder (Machine ν) (Machine ν × ManagerState (Machine ν))} {memory : ManagerState (Machine ν)}
    (builds : (builder options).build (machine, {}) = (made, built, ready, memory)) :
    ready.network = machine.network := by
  have untouched : (manager options).Untouched (Machine.network : Machine ν → ν) :=
    ⟨⟨fun _ _ _ => rfl, fun _ => rfl⟩, fun _ => rfl⟩
  rcases called : (manager options).reconcileWithPreferences (builder options).chain {} machine with
    ⟨result, chain, memory', later⟩
  have kept : later.network = machine.network := by
    -- the manager reads the preference and makes a verifier, and neither is done over the network
    have reconciled := untouched.view_reconcile (ManagerState.fits_new _) ((manager options).desired machine).1
      (builder options).chain ((manager options).desired machine).2
    rw [untouched.makeVerifier, ite_self, untouched.view_desired] at reconciled
    exact (congrArg (·.2.2.2.network) called).symm.trans reconciled
  have ran := runPasses_of_reconcile called
  rcases result with error | change
  · rw [Builder.build_of_error ran] at builds
    cases builds
    exact kept
  · rw [Builder.build_of_ok ran] at builds
    cases builds
    exact kept

section

variable {client : Client (Machine ν)} {built : Builder (Machine ν) (Machine ν × ManagerState (Machine ν))}
  {memory : ManagerState (Machine ν)}

/-- A fetch ends at the first argument that is no URL, and the network has no part in it. -/
theorem run_fetch_of_flaw (network : Transport ν) {environmentFile : Option String} {arguments : List String}
    {error : Error} (read : Options.read environmentFile arguments = .ok options) (asked : options.positional ≠ [])
    (builds : (builder options).build (machine, {}) = (.ok client, built, ready, memory))
    (flaw : requestsOf options options.positional = .error error) :
    run network environmentFile ("fetch" :: arguments) machine =
      ({ exit := 2
         stdout := heading memory.isEnabled ++ "\n"
         stderr := "Error: " ++ ("Invalid URL: " ++ error.messageWithCause) ++ "\n" }, ready) := by
  rw [run_fetch, runWith_of_read read, fetch, if_neg asked]
  simp only [builds, flaw]
  rw [Report.ofCommand, Report.ofLines_singleton, Report.ofLines_singleton]
  rfl

/-- A fetch whose arguments have their requests reports what came of them. -/
theorem run_fetch_of_requests (network : Transport ν) {environmentFile : Option String} {arguments : List String}
    {requests : List Request} (read : Options.read environmentFile arguments = .ok options)
    (asked : options.positional ≠ [])
    (builds : (builder options).build (machine, {}) = (.ok client, built, ready, memory))
    (found : requestsOf options options.positional = .ok requests) :
    (run network environmentFile ("fetch" :: arguments) machine).1 =
      reportOf (heading memory.isEnabled) options.positional
        (client.executeAll (Machine.transport network) requests ready).1 := by
  rw [run_fetch, runWith_of_read read, fetch, if_neg asked]
  simp only [builds, found]
  rfl

/-- At the place of each request is what an execution of it came to. -/
def AreResults (client : Client (Machine ν)) (transport : Transport (Machine ν)) (requests : List Request)
    (results : List (Except Error Response)) : Prop :=
  ∀ (place : Nat) (request : Request), requests[place]? = some request →
    ∃ states result, results[place]? = some result ∧
      (Execution.requesting client.chain request).along client.chain transport states = .finished result

/-- Whatever order the work on the requests is done in, the results are reported. -/
theorem reported_of_reaches (heading : String) {transport : Transport (Machine ν)} {requests : List Request}
    {later : Machine ν} (same_length : requests.length = targets.length)
    (reached : Batch.Reaches client.chain transport (Batch.start client.chain requests ready)
      ⟨results.map .finished, later⟩) :
    AreResults client transport requests results ∧
      Reported heading targets results (List.zipWith lineOf targets results) (reportOf heading targets results) :=
  ⟨fun _ _ here => Batch.along_of_reaches reached here,
    reported_of_results heading ((Batch.length_of_reaches reached).trans same_length)⟩

/-- **A fetch reports every argument once, in order**, and its exit agrees with the report.

* If an argument is no URL, nothing is sent, whatever the network is, and no argument has a line.
* Otherwise the line of each argument tells what came of its request. The exit is zero exactly if all requests brought
  responses; if not, the lines that tell of errors are counted. It would be so whatever order the work on the requests
  was done in. -/
theorem every_target_is_reported {environmentFile : Option String} {arguments : List String}
    (read : Options.read environmentFile arguments = .ok options) (asked : options.positional ≠ [])
    (builds : (builder options).build (machine, {}) = (.ok client, built, ready, memory)) :
    ((∃ target ∈ options.positional, ∃ fault, Url.parse target = .error fault) →
      ready.network = machine.network ∧
      ∃ before target after fault, options.positional = before ++ target :: after ∧
        (∀ target ∈ before, ∃ url, Url.parse target = .ok url) ∧ Url.parse target = .error fault ∧
        ∀ network : Transport ν, run network environmentFile ("fetch" :: arguments) machine =
          ({ exit := 2
             stdout := heading memory.isEnabled ++ "\n"
             stderr := "Error: " ++ ("Invalid URL: " ++ (Error.url fault).messageWithCause) ++ "\n" }, ready)) ∧
    ((∀ target ∈ options.positional, ∃ url, Url.parse target = .ok url) →
      ∀ network : Transport ν, ∃ requests results lines,
        options.positional.Forall₂ (fun target request => requestOf options target = .ok request) requests ∧
        results = (client.executeAll (Machine.transport network) requests ready).1 ∧
        AreResults client (Machine.transport network) requests results ∧
        (run network environmentFile ("fetch" :: arguments) machine).1 =
          reportOf (heading memory.isEnabled) options.positional results ∧
        Reported (heading memory.isEnabled) options.positional results lines
          (run network environmentFile ("fetch" :: arguments) machine).1 ∧
        ∀ others later, Batch.Reaches client.chain (Machine.transport network)
            (Batch.start client.chain requests ready) ⟨others.map .finished, later⟩ →
          AreResults client (Machine.transport network) requests others ∧
            ∃ lines, Reported (heading memory.isEnabled) options.positional others lines
              (reportOf (heading memory.isEnabled) options.positional others)) := by
  refine ⟨fun flawed => ⟨network_of_build builds, ?_⟩, fun valid network => ?_⟩
  · obtain ⟨before, target, after, fault, split, valid, flaw⟩ := exists_first_flaw flawed
    have found : requestsOf options options.positional = .error (.url fault) := split ▸ requestsOf_of_flaw valid flaw
    exact ⟨before, target, after, fault, split, valid, flaw, fun network =>
      run_fetch_of_flaw network read asked builds found⟩
  · obtain ⟨requests, found, matched⟩ := @exists_requestsOf options _ valid
    have reached := Batch.reaches_executeAll client (Machine.transport network) requests ready
    have ran := run_fetch_of_requests network read asked builds found
    have all : ∀ others later, Batch.Reaches client.chain (Machine.transport network)
        (Batch.start client.chain requests ready) ⟨others.map .finished, later⟩ →
        AreResults client (Machine.transport network) requests others ∧
          Reported (heading memory.isEnabled) options.positional others (List.zipWith lineOf options.positional others)
            (reportOf (heading memory.isEnabled) options.positional others) :=
      fun others later reached => reported_of_reaches _ matched.length_eq.symm reached
    obtain ⟨are_results, reported⟩ := all _ _ reached
    rw [← ran] at reported
    exact ⟨requests, _, _, matched, rfl, are_results, ran, reported,
      fun others later reached => (all others later reached).imp_right fun reported => ⟨_, reported⟩⟩

end

end Command

namespace Drawer

open Command

/-- A network that leads to one host only, which has nothing to say. -/
def oneHost : Transport Unit := fun request s =>
  if request.url.hostText? = some "[::1]" then (.ok { url := request.url }, s) else Transport.offline request s

/-- A machine without the file. -/
def bare : Machine Unit where
  files := .empty ["home"]
  network := ()

/-- Without the file the client has nothing in its chain but what it was told to have. -/
theorem exists_build_on_bare {options : Options} (file : options.file = slip) (quiet : options.verbose = false) :
    ∃ built ready memory, (builder options).build (bare, {}) = (.ok ⟨{}, []⟩, built, ready, memory) ∧
      memory.isEnabled = false := by
  obtain ⟨result, built, ready, memory, build_eq, building⟩ := exists_building options bare
  have absent : options.file.load bare.files = .ok ⟨false⟩ := file ▸ PreferenceFile.load_absent read_empty
  have chain_eq : (builder options : Builder (Machine Unit) _).chain = [] := by
    rw [builder, quiet]
    rfl
  generalize state : memory.isEnabled = isOn at building
  cases building with
  | off => exact ⟨built, ready, memory, chain_eq ▸ build_eq, state⟩
  | on on | refused on => cases absent.symm.trans on

/-- The URL of the host. -/
def here : Url where
  scheme := "http"
  host := some (.ipv6 [0, 0, 0, 0, 0, 0, 0, 1])
  path := .segments [""]

/-- The URL of another host. -/
def there : Url where
  scheme := "http"
  host := some (.ipv6 [0, 0, 0, 0, 0, 0, 0, 2])
  path := .segments [""]

theorem parse_here : Url.parse "http://[::1]" = .ok here := by cbv

theorem parse_there : Url.parse "http://[::2]" = .ok there := by cbv

theorem steady_oneHost : (⟨{}, []⟩ : Client (Machine Unit)).Steady (Machine.transport oneHost) where
  chain := nofun
  transport _ _ _ := rfl

theorem execute_here (timeout : Option Nat) (machine : Machine Unit) :
    ((⟨{}, []⟩ : Client (Machine Unit)).execute (Machine.transport oneHost) { url := here, timeout } machine).1 =
      .ok { url := here } := by
  have reached : here.hostText? = some "[::1]" := by cbv
  simp [Client.execute, Chain.processRequest, Client.exchange, Machine.transport, oneHost, reached,
    Chain.processResponse]

theorem execute_there (timeout : Option Nat) (machine : Machine Unit) :
    ((⟨{}, []⟩ : Client (Machine Unit)).execute (Machine.transport oneHost) { url := there, timeout } machine).1 =
      .error (.http (.sending there.render (.connect .unreachable))) := by
  have elsewhere : there.hostText? = some "[::2]" := by cbv
  have sent : there.withoutCredentials = there := by cbv
  have sendable : there.sendFault? = none := by cbv
  simp [Client.execute, Chain.processRequest, Client.exchange, Machine.transport, oneHost, elsewhere,
    Transport.offline, Chain.notifyError, sent, sendable]

theorem lineOf_here : lineOf "http://[::1]" (.ok { url := here }) = "200 http://[::1] (0 bytes)" := by
  decide +kernel

theorem lineOf_there :
    lineOf "http://[::2]" (.error (.http (.sending there.render (.connect .unreachable)))) =
      "ERR http://[::2] HTTP error: error sending request for url (http://[::2]/): error trying to connect: " ++
        "tcp connect error: Network is unreachable (os error 101) (retryable)" := by
  decide +kernel

/-- One host answers and the other cannot be reached. If one of the arguments is no URL, neither is asked. -/
theorem bare_reports_both :
    let report := (run oneHost none ["fetch", "http://[::1]", "http://[::2]", "--prefs", "p"] bare).1
    report.exit = 2 ∧ report.stderr = "Error: 1 of 2 requests failed\n" ∧
      report.stdout = Report.ofLines ["CT verification: off", "200 http://[::1] (0 bytes)",
        "ERR http://[::2] HTTP error: error sending request for url (http://[::2]/): error trying to connect: " ++
          "tcp connect error: Network is unreachable (os error 101) (retryable)"] ∧
      (run oneHost none ["fetch", "http://[::1]", "here", "--prefs", "p"] bare).1.stdout =
        "CT verification: off\n" := by
  let both : Options := { file := slip, positional := ["http://[::1]", "http://[::2]"] }
  let flawed : Options := { file := slip, positional := ["http://[::1]", "here"] }
  obtain ⟨_, ready, _, builds, off⟩ := @exists_build_on_bare both rfl rfl
  obtain ⟨_, _, _, builds_flawed, off_flawed⟩ := @exists_build_on_bare flawed rfl rfl
  have read : Options.read none ["http://[::1]", "http://[::2]", "--prefs", "p"] = .ok both := rfl
  have read_flawed : Options.read none ["http://[::1]", "here", "--prefs", "p"] = .ok flawed := rfl
  have valid : ∀ target ∈ both.positional, ∃ url, Url.parse target = .ok url := by
    simp [both, parse_here, parse_there]
  have flaw : ∃ target ∈ flawed.positional, ∃ fault, Url.parse target = .error fault :=
    ⟨"here", by decide, .relativeWithoutBase, by cbv⟩
  obtain ⟨requests, results, lines, matched, came, -, -, reported, -⟩ :=
    (every_target_is_reported read (by decide) builds).2 valid oneHost
  obtain ⟨-, _, _, _, _, -, -, -, ran⟩ := (every_target_is_reported read_flawed (by decide) builds_flawed).1 flaw
  -- the requests are those for the two hosts, and the client does to them what it would do to each alone
  obtain _ | ⟨first, _ | ⟨second, _ | _⟩⟩ := matched
  cases first.symm.trans (requestOf_of_parse parse_here)
  cases second.symm.trans (requestOf_of_parse parse_there)
  rw [Batch.results_of_reaches steady_oneHost (Batch.reaches_executeAll _ _ _ _) ready, List.map_cons, List.map_cons,
    execute_here, execute_there, List.map_nil] at came
  obtain rfl := came
  obtain rfl := reported.lines_eq
  have trouble : (run oneHost none ["fetch", "http://[::1]", "http://[::2]", "--prefs", "p"] bare).1.exit ≠ 0 := by
    rw [Ne, reported.exit_iff]
    simp
  obtain ⟨exit_eq, stderr_eq⟩ := reported.failed trouble
  refine ⟨exit_eq, ?_, ?_, ?_⟩
  · rw [stderr_eq, countP_lines rfl]
    show "Error: " ++ (toString 1 ++ " of " ++ toString 2 ++ " requests failed") ++ "\n" = _
    decide +kernel
  · rw [reported.stdout_eq, off, ← lineOf_here, ← lineOf_there]
    rfl
  · rw [ran, off_flawed]
    rfl

end Drawer

end Transparency
