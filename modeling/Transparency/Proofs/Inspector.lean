import Transparency.Inspector

/-!
# What an inspector does about a response

For each response an inspector comes to a `Verdict`: an outcome, and what it had to ask the verifier for it, if
anything. There are four cases, and the verifier is asked in one of them only. Then the inspector reports the outcome
and rules by it.

To see what is asked and reported, an inspector can be *attended*: its verifier and its report write down each call of
them, beside the state that they work on. `Inspector.afterResponse_verdict` says what an attended inspector writes down
and that it is the inspector otherwise.
-/

namespace Transparency

variable {σ : Type}

/-! ## Verdicts -/

/-- The outcome for a response under a policy, by what the verifier thinks of certificates; and the certificate that
the verifier is asked about, if it is asked. The host is the one that served the response. -/
inductive Verdict (policy : HostPolicy) (judge : String → Bytes → Outcome) (response : Response) :
    Option Bytes → Outcome → Prop where
  /-- the policy leaves the host out -/
  | leftOut : policy.covers response.host = false → Verdict policy judge response none (.success .disabledForHost)
  /-- there is a certificate, whatever the scheme -/
  | shown (certificate : Bytes) : policy.covers response.host = true → response.certificate = some certificate →
      Verdict policy judge response (some certificate) (judge response.host certificate)
  /-- a TLS connection showed no certificate -/
  | unshown : policy.covers response.host = true → response.certificate = none → response.url.scheme = "https" →
      Verdict policy judge response none (.failure .noCertificates)
  /-- there was nothing to show -/
  | insecure : policy.covers response.host = true → response.certificate = none → response.url.scheme ≠ "https" →
      Verdict policy judge response none (.success .insecureConnection)

/-- There is one verdict on a response. -/
theorem Verdict.unique {policy : HostPolicy} {judge : String → Bytes → Outcome} {response : Response}
    {asked asked' : Option Bytes} {outcome outcome' : Outcome} (verdict : Verdict policy judge response asked outcome)
    (other : Verdict policy judge response asked' outcome') : asked = asked' ∧ outcome = outcome' := by
  cases verdict <;> cases other <;> simp_all

/-! ## Attended inspectors -/

/-- What an inspector calls while it works on a response. -/
inductive Errand where
  /-- the verifier is asked -/
  | asked (host : String) (certificate : Bytes)
  /-- an outcome is reported -/
  | told (host : String) (outcome : Outcome)
  deriving DecidableEq, Repr

/-- The verifier with each call of it written down. -/
def Verifier.attended (verifier : Verifier σ) : Verifier (σ × List Errand) where
  verify host certificate s :=
    let (outcome, inner) := verifier.verify host certificate s.1
    (outcome, inner, s.2 ++ [.asked host certificate])

namespace Inspector

/-- The inspector with each call of its verifier and each report written down. -/
def attended (inspector : Inspector σ) : Inspector (σ × List Errand) where
  verifier := inspector.verifier.attended
  policy := inspector.policy
  report host outcome s := (inspector.report host outcome s.1, s.2 ++ [.told host outcome])
  valid := inspector.valid

variable {verifier : Verifier σ} {policy : HostPolicy} {report : String → Outcome → σ → σ} {inspector : Inspector σ}
  {judge : String → Bytes → Outcome}

/-- An inspector that was made is made of what it was made from. -/
theorem of_make (made : make verifier policy report = .ok inspector) :
    inspector.verifier = verifier ∧ inspector.policy = policy ∧ inspector.report = report := by
  rw [make] at made
  split at made
  · obtain rfl := Except.ok.inj made
    exact ⟨rfl, rfl, rfl⟩
  · cases made

/-- Evaluating a response comes to the verdict on it, and asks the verifier what the verdict takes. -/
theorem exists_verdict
    (judges : ∀ host certificate s, (inspector.verifier.verify host certificate s).1 = judge host certificate)
    (response : Response) (s : σ) (log : List Errand) :
    ∃ asked, Verdict inspector.policy judge response asked (inspector.evaluate response s).1 ∧
      inspector.attended.evaluate response (s, log) =
        ((inspector.evaluate response s).1, (inspector.evaluate response s).2,
          log ++ asked.toList.map (.asked response.host)) := by
  have policy_eq : inspector.attended.policy = inspector.policy := rfl
  rw [evaluate, evaluate, policy_eq]
  rcases covered : inspector.policy.covers response.host
  · exact ⟨none, .leftOut covered, by simp⟩
  · rcases shown : response.certificate with _ | certificate
    · have https_iff : response.isHttps = true ↔ response.url.scheme = "https" := decide_eq_true_iff
      by_cases tls : response.url.scheme = "https"
      · rw [if_pos (https_iff.mpr tls)]
        exact ⟨none, .unshown covered shown tls, by simp⟩
      · rw [if_neg (mt https_iff.mp tls)]
        exact ⟨none, .insecure covered shown tls, by simp⟩
    · have verdict : Verdict _ judge response _ _ := .shown certificate covered shown
      rw [← judges response.host certificate s] at verdict
      exact ⟨some certificate, verdict, rfl⟩

/-- A response is refused exactly if its outcome is a failure and the policy refuses failures. -/
theorem ruling_eq_error_iff {host : String} {outcome : Outcome} {error : Error} :
    inspector.ruling host outcome = .error error ↔
      inspector.policy.failOnError = true ∧
        ∃ reason, outcome = .failure reason ∧ error = .certificateTransparency host reason.message := by
  cases outcome with
  | success => simp [ruling]
  | failure reason =>
    rw [ruling]
    split
    next refuses => simp [refuses, eq_comm]
    next passes => simp [passes]

/-! ## Working on a response -/

variable [Journal σ]

/-- **An inspector rules by the verdict on the response.** Let the verifier of an inspector answer by host and
certificate. Then the inspector reports once, the outcome of the verdict for the host that served the response, and
before that it asks the verifier what the verdict takes, and nothing else. It leaves the response as it is. It refuses
it exactly if the outcome is a failure and the policy refuses failures, for the host and the reason that it has
reported. All of this is the same for every request. -/
theorem afterResponse_verdict (made : make verifier policy report = .ok inspector)
    (judges : ∀ host certificate s, (verifier.verify host certificate s).1 = judge host certificate)
    (response : Response) (s : σ) (log : List Errand) :
    ∃ asked outcome result t, Verdict policy judge response asked outcome ∧
      (∀ request, inspector.toInterceptor.afterResponse request response s = (result, response, t) ∧
        inspector.attended.toInterceptor.afterResponse request response (s, log) =
          (result, response, t,
            log ++ asked.toList.map (.asked response.host) ++ [.told response.host outcome])) ∧
      ∀ error, result = .error error ↔
        policy.failOnError = true ∧
          ∃ reason, outcome = .failure reason ∧ error = .certificateTransparency response.host reason.message := by
  obtain ⟨rfl, rfl, rfl⟩ := of_make made
  obtain ⟨asked, verdict, attended⟩ := exists_verdict judges response s log
  refine ⟨asked, (inspector.evaluate response s).1, _, _, verdict, fun request => ⟨rfl, ?_⟩,
    fun _ => ruling_eq_error_iff⟩
  simp only [toInterceptor, inspect, attended]
  rfl

end Inspector

namespace Redirection

/-- A verifier that trusts nobody, and takes notes. -/
def verifier : Verifier (List Note) where
  verify host _ notes := (.failure .noTimestamps, note .info "asked" [("host", host)] notes)

/-- A policy that leaves some hosts out. -/
def policy : HostPolicy where
  excludeHosts := ["*.cdn.example"]

def report (host : String) (outcome : Outcome) (notes : List Note) : List Note :=
  note .info outcome.message [("host", host)] notes

def inspector : Inspector (List Note) := ⟨verifier, policy, report, by decide⟩

/-- A request that is not sent over TLS at first. -/
def request : Request where
  url := { scheme := "http", host := some (.name "start.example"), path := .segments [""] }

/-- What a shop answered in the end, over TLS. -/
def response : Response where
  url := { scheme := "https", host := some (.name "shop.example"), path := .segments [""] }
  certificate := some [0x30]

theorem made : Inspector.make verifier policy report = .ok inspector := rfl

theorem judges (host : String) (certificate : Bytes) (notes : List Note) :
    (verifier.verify host certificate notes).1 = .failure .noTimestamps := rfl

/-- The shop is refused, and not the host to which the request was sent first. -/
theorem shop_is_refused :
    (inspector.toInterceptor.afterResponse request response []).1 =
        .error (.certificateTransparency "shop.example" "no SCTs present") ∧
      (inspector.attended.toInterceptor.afterResponse request response ([], [])).2.2.2 =
        [.asked "shop.example" [0x30], .told "shop.example" (.failure .noTimestamps)] := by
  obtain ⟨asked, outcome, result, t, verdict, worked, refused⟩ :=
    Inspector.afterResponse_verdict made judges response [] []
  obtain ⟨rfl, rfl⟩ := verdict.unique (.shown [0x30] (by decide) rfl)
  obtain ⟨plain, attended⟩ := worked request
  rw [plain, attended]
  exact ⟨(refused _).mpr ⟨rfl, .noTimestamps, rfl, rfl⟩, rfl⟩

end Redirection

end Transparency
