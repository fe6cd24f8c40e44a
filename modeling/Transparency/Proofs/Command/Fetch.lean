import Transparency.Command.Fetch
import Transparency.Proofs.Client.Frame
import Transparency.Proofs.Client.Rebuilding
import Transparency.Proofs.Reading

/-!
# The client of a fetch

How making the client ends is settled by the file with the preferences and by the number of timestamps that is asked for
(`Command.Building`). The client checks certificates exactly if the file says so (`Command.Building.checks_iff`): a file
that cannot be loaded counts as one that says no. Only if the file says yes is the number looked at, and none is an
error.

The manager of the client has to do with its debouncer through reports only, although its verifier writes notes
(`Command.secluded_manager`). Whatever comes of a fetch, the files are not touched (`Command.files_fetch`).
-/

namespace Transparency

namespace Command

variable {ν : Type} {options : Options} {machine : Machine ν}

/-! ## The manager -/

theorem untouched_manager (options : Options) :
    (manager options).Untouched (Machine.files : Machine ν → FileSystem) where
  note _ _ _ := rfl
  readPreference _ := rfl
  makeVerifier _ := rfl

/-- The verifiers of the manager ask for timestamps. -/
theorem exists_presence {verifier : Verifier (Machine ν)}
    (made : ((manager options).makeVerifier machine).1 = .ok verifier) :
    ∃ presence : PresenceVerifier, verifier = presence.toVerifier := by
  obtain ⟨presence, -, same⟩ := map_eq_ok_iff.mp made
  exact ⟨presence, same.symm⟩

/-- The lines about failed checks, which are among the notes of the machine. -/
def ledger (options : Options) : (manager options : Manager (Machine ν)).debouncer.Ledger :=
  .ofNotes Machine.notes (fun _ _ => rfl) (fun _ _ => rfl) fun _ _ => rfl

/-- Neither the preference nor the verifier depends on anything but the files and the options. -/
theorem overlooks_manager (options : Options) :
    (manager options : Manager (Machine ν)).Overlooks fun machine other => machine.files = other.files where
  report := Debouncer.view_report (fun _ _ => rfl) (fun _ _ => rfl) fun _ _ _ => rfl
  readPreference machine other same := ⟨by simp only [manager, same], same⟩
  makeVerifier _ _ _ := rfl

/-- **The manager has to do with its debouncer through reports only.** Its verifier may write a note, but no line. -/
theorem secluded_manager (options : Options) :
    (manager options : Manager (Machine ν)).Secluded (ledger options) where
  readPreference := ⟨fun _ => rfl, fun _ => rfl⟩
  makeVerifier := ⟨fun _ => rfl, fun _ => rfl⟩
  verify _ _ made host certificate := by
    obtain ⟨presence, rfl⟩ := exists_presence made
    exact presence.sparedBy (ledger options) host certificate
  overlooks := ⟨_, overlooks_manager options⟩

theorem desired_of_load {value : Bool} (loaded : options.file.load machine.files = .ok ⟨value⟩) :
    (manager options).desired machine = (value, machine) := by
  simp only [Manager.desired, manager, loaded, Except.map]

/-- What does not say yes counts as no. -/
theorem desired_of_not_on (not_on : options.file.load machine.files ≠ .ok ⟨true⟩) :
    ((manager options).desired machine).1 = false := by
  rcases loaded : options.file.load machine.files with error | ⟨_ | _⟩
  · simp only [Manager.desired, manager, loaded, Except.map]
  · rw [desired_of_load loaded]
  · exact absurd loaded not_on

/-- An inspector of the manager, as it stands in a chain. -/
def entryOf (options : Options) (inspector : Inspector (Machine ν)) : Entry (Machine ν) :=
  { inspector.toInterceptor with handle := (manager options : Manager (Machine ν)).handle }

/-- The inspector can be made if some timestamps are asked for. -/
theorem exists_of_construct (enough : 0 < options.minimum) (machine : Machine ν) :
    ∃ inspector later, (manager options).Makes inspector ∧
      (manager options).construct machine = (.ok (entryOf options inspector), later) := by
  rcases made : (manager options).construct machine with ⟨error | entry, later⟩
  · -- a verifier can be made, and a policy without patterns has no malformed one
    cases Manager.obstacle_of_construct made with
    | noVerifier error failed => simp [manager, PresenceVerifier.ofMinimum, enough, Except.map] at failed
    | malformed verifier pattern fault _ malformed => cases malformed
  · obtain ⟨inspector, makes, rfl⟩ := Manager.makes_of_construct made
    exact ⟨inspector, later, makes, rfl⟩

theorem construct_of_none (none : options.minimum = 0) (machine : Machine ν) :
    (manager options).construct machine = (.error (.verifier .noMinimum), machine) := by
  simp [Manager.construct, manager, PresenceVerifier.ofMinimum, none, Except.map]

/-! ## The builder -/

/-- How making the client ends: with a client or an error, with the manager enabled or not, and on which machine. -/
inductive Building (options : Options) (machine : Machine ν) :
    Except Error (Client (Machine ν)) → (isOn : Bool) → Machine ν → Prop where
  /-- the preference is off or cannot be loaded, and the chain is as the builder had it -/
  | off {later : Machine ν} : options.file.load machine.files ≠ .ok ⟨true⟩ → later.files = machine.files →
      Building options machine (.ok ⟨{}, (builder options).chain⟩) false later
  /-- the preference is on, and the inspector comes last -/
  | on {inspector : Inspector (Machine ν)} {later : Machine ν} : options.file.load machine.files = .ok ⟨true⟩ →
      0 < options.minimum → (manager options).Makes inspector → later.files = machine.files →
      Building options machine (.ok ⟨{}, (builder options).chain.addShared (entryOf options inspector)⟩) true later
  /-- the preference is on, and no timestamps are asked for -/
  | refused : options.file.load machine.files = .ok ⟨true⟩ → options.minimum = 0 →
      Building options machine (.error (.verifier .noMinimum)) false machine

/-- The manager is the only pass. -/
theorem passes_builder (options : Options) :
    (builder options : Builder (Machine ν) _).passes = [(manager options).toPass Cell.second Cell.first] := by
  rw [builder]
  split <;> rfl

theorem config_builder (options : Options) : (builder options : Builder (Machine ν) _).config = {} := by
  rw [builder]
  split <;> rfl

theorem make_default (chain : Chain (Machine ν)) : Client.make {} chain = .ok ⟨{}, chain⟩ := by
  have usable : ({} : ClientConfig).error? = none := by decide
  rw [Client.make, usable]

/-- Running the passes is calling the manager. -/
theorem runPasses_of_reconcile {result : Except Error Change} {chain : Chain (Machine ν)}
    {memory : ManagerState (Machine ν)} {later : Machine ν}
    (called : (manager options).reconcileWithPreferences (builder options).chain {} machine =
      (result, chain, memory, later)) :
    Builder.runPasses (builder options).passes (builder options).chain (machine, ({} : ManagerState _)) =
      (result.map fun _ => (), chain, later, memory) := by
  rw [passes_builder, Builder.runPasses, Manager.toPass]
  simp only [Cell.first, Cell.second, called]
  rcases result with error | change <;> rfl

/-- What the builder makes of the manager's call. -/
theorem build_of_reconcile {result : Except Error Change} {chain : Chain (Machine ν)}
    {memory : ManagerState (Machine ν)} {later : Machine ν}
    (called : (manager options).reconcileWithPreferences (builder options).chain {} machine =
      (result, chain, memory, later)) :
    ∃ built last, (builder options).build (machine, {}) = (result.map fun _ => ⟨{}, chain⟩, built, last, memory) ∧
      last.files = later.files ∧ (result.isOk = false → last = later) := by
  have passed := runPasses_of_reconcile called
  rcases result with error | change
  · rw [Builder.build_of_error passed]
    exact ⟨_, _, rfl, rfl, fun _ => rfl⟩
  · rw [Builder.build_of_ok passed, config_builder, make_default]
    refine ⟨_, _, rfl, rfl, fun failed => ?_⟩
    cases failed

/-- **Making the client ends in one of these ways.** -/
theorem exists_building (options : Options) (machine : Machine ν) :
    ∃ result built later memory, (builder options).build (machine, {}) = (result, built, later, memory) ∧
      Building options machine result memory.isEnabled later := by
  have asked := (untouched_manager options).view_desired machine
  by_cases on : options.file.load machine.files = .ok ⟨true⟩
  · rcases Nat.eq_zero_or_pos options.minimum with none | enough
    · have called : (manager options).reconcileWithPreferences (builder options).chain {} machine =
          (.error (.verifier .noMinimum), (builder options).chain, {}, machine) := by
        rw [Manager.reconcileWithPreferences, desired_of_load on]
        exact Manager.reconcile_refuse rfl ((Manager.obtain_of_none rfl).trans (construct_of_none none machine))
      obtain ⟨built, last, build_eq, -, same⟩ := build_of_reconcile called
      obtain rfl := same rfl
      exact ⟨_, built, last, {}, build_eq, .refused on none⟩
    · obtain ⟨inspector, made, makes, constructed⟩ := exists_of_construct enough machine
      have called : (manager options).reconcileWithPreferences (builder options).chain {} machine =
          (.ok .attached, (builder options).chain.addShared (entryOf options inspector),
            ⟨some (entryOf options inspector), true⟩,
            Manager.announce .attached ((builder options).chain.addShared (entryOf options inspector)) made) := by
        rw [Manager.reconcileWithPreferences, desired_of_load on]
        exact Manager.reconcile_attach rfl ((Manager.obtain_of_none rfl).trans constructed)
      obtain ⟨built, last, build_eq, files, -⟩ := build_of_reconcile called
      have kept := (untouched_manager options).view_construct machine
      rw [constructed] at kept
      exact ⟨_, built, last, _, build_eq, .on on enough makes (files.trans kept)⟩
  · have called : (manager options).reconcileWithPreferences (builder options).chain {} machine =
        (.ok .unchanged, (builder options).chain, {}, ((manager options).desired machine).2) := by
      rw [Manager.reconcileWithPreferences]
      exact Manager.reconcile_stay (desired_of_not_on on)
    obtain ⟨built, last, build_eq, files, -⟩ := build_of_reconcile called
    exact ⟨_, built, last, {}, build_eq, .off on (files.trans asked)⟩

/-! ## The client -/

/-- A client checks certificates if an inspector of the manager stands in its chain. -/
def Checks (options : Options) (client : Client (Machine ν)) : Prop :=
  ∃ inspector, (manager options).Makes inspector ∧ entryOf options inspector ∈ client.chain

/-- Before the manager is called there is nothing but a logger. -/
theorem eq_logger_of_mem {entry : Entry (Machine ν)} (mem : entry ∈ (builder options).chain) :
    entry = { ({} : RequestLogger).toInterceptor with handle := ⟨"request-logger"⟩ } := by
  rw [builder] at mem
  split at mem
  · exact List.mem_singleton.mp mem
  · cases mem

namespace Building

variable {client : Client (Machine ν)} {isOn : Bool} {later : Machine ν} {result : Except Error (Client (Machine ν))}

theorem isOn_iff (building : Building options machine (.ok client) isOn later) :
    isOn = true ↔ options.file.load machine.files = .ok ⟨true⟩ := by
  cases building with
  | off not_on => exact ⟨nofun, fun on => absurd on not_on⟩
  | on on => exact ⟨fun _ => on, fun _ => rfl⟩

/-- **The client checks certificates exactly if the preference is on.** -/
theorem checks_iff (building : Building options machine (.ok client) isOn later) :
    Checks options client ↔ options.file.load machine.files = .ok ⟨true⟩ := by
  cases building with
  | off not_on =>
    refine ⟨?_, fun on => absurd on not_on⟩
    rintro ⟨inspector, -, mem⟩
    have handle_eq : (⟨"certificate-transparency"⟩ : Handle) = ⟨"request-logger"⟩ :=
      congrArg Entry.handle (eq_logger_of_mem mem)
    exact absurd handle_eq (by decide)
  | on on _ makes => exact ⟨fun _ => on, fun _ => ⟨_, makes, List.mem_concat_self⟩⟩

/-- The number of timestamps matters only if the preference is on. -/
theorem exists_client (enough : options.file.load machine.files = .ok ⟨true⟩ → 0 < options.minimum)
    (building : Building options machine result isOn later) : ∃ client, result = .ok client := by
  cases building with
  | off | on => exact ⟨_, rfl⟩
  | refused on none => exact absurd (enough on) (none ▸ Nat.lt_irrefl 0)

theorem files_eq (building : Building options machine result isOn later) : later.files = machine.files := by
  cases building with
  | off _ kept | on _ _ _ kept => exact kept
  | refused => rfl

theorem refused_of_none (building : Building options machine result isOn later)
    (on : options.file.load machine.files = .ok ⟨true⟩) (none : options.minimum = 0) :
    result = .error (.verifier .noMinimum) ∧ later = machine := by
  cases building with
  | off not_on => exact absurd on not_on
  | on _ enough => exact absurd enough (none ▸ Nat.lt_irrefl 0)
  | refused => exact ⟨rfl, rfl⟩

end Building

/-! ## The files -/

theorem untouched_inspector {inspector : Inspector (Machine ν)} (makes : (manager options).Makes inspector) :
    inspector.toInterceptor.Untouched Machine.files := by
  have reported : ∀ host outcome (s : Machine ν), (inspector.report host outcome s).files = s.files := by
    rw [makes.report_eq]
    exact Debouncer.view_report (fun _ _ => rfl) (fun _ _ => rfl) (fun _ _ _ => rfl)
  refine Inspector.untouched (fun _ _ => rfl) ?_ reported
  obtain ⟨asked, made⟩ := makes.verifier
  obtain ⟨presence, same⟩ := exists_presence made
  rw [same]
  exact presence.view_verify fun _ _ _ => rfl

theorem Building.untouched {client : Client (Machine ν)} {isOn : Bool} {later : Machine ν}
    (building : Building options machine (.ok client) isOn later) (network : Transport ν) :
    client.Untouched (Machine.transport network) Machine.files where
  note _ _ := rfl
  transport _ _ := rfl
  chain entry mem := by
    have logger : ∀ entry ∈ (builder options : Builder (Machine ν) _).chain,
        entry.toInterceptor.Untouched Machine.files := by
      intro entry mem
      rw [eq_logger_of_mem mem]
      exact RequestLogger.untouched (fun _ _ => rfl) {}
    cases building with
    | off => exact logger entry mem
    | on _ _ makes =>
      obtain mem | mem := List.mem_append.mp mem
      · exact logger entry mem
      · obtain rfl := List.mem_singleton.mp mem
        exact untouched_inspector makes

/-! ## Fetching -/

/-- No fetch touches the files. -/
theorem files_fetch (network : Transport ν) (options : Options) (machine : Machine ν) :
    (fetch network options machine).2.2.files = machine.files := by
  obtain ⟨result, built, later, memory, build_eq, building⟩ := exists_building options machine
  rw [fetch]
  split
  · rfl
  · simp only [build_eq]
    rcases result with error | client
    · exact building.files_eq
    · dsimp only
      split
      · exact building.files_eq
      next requests _ => exact ((building.untouched network).view_executeAll requests later).trans building.files_eq

/-- Unless it asks for no timestamps, the first line of a fetch tells whether the preference is on. -/
theorem exists_lines_of_fetch (network : Transport ν) (machine : Machine ν) (asked : options.positional ≠ [])
    (enough : options.file.load machine.files = .ok ⟨true⟩ → 0 < options.minimum) :
    ∃ isOn rest, (isOn = true ↔ options.file.load machine.files = .ok ⟨true⟩) ∧
      (fetch network options machine).2.1 = ("CT verification: " ++ stateWord isOn) :: rest := by
  obtain ⟨result, built, later, memory, build_eq, building⟩ := exists_building options machine
  obtain ⟨client, rfl⟩ := building.exists_client enough
  refine ⟨memory.isEnabled, ?_⟩
  rw [fetch, if_neg asked]
  simp only [build_eq]
  split
  · exact ⟨_, building.isOn_iff, rfl⟩
  · exact ⟨_, building.isOn_iff, rfl⟩

/-- If the preference is on and no timestamps are asked for, a fetch ends before anything is sent. -/
theorem fetch_of_none (network : Transport ν) (asked : options.positional ≠ [])
    (on : options.file.load machine.files = .ok ⟨true⟩) (none : options.minimum = 0) :
    fetch network options machine = (.error (.build (.verifier .noMinimum)), [], machine) := by
  obtain ⟨result, built, later, memory, build_eq, building⟩ := exists_building options machine
  obtain ⟨rfl, rfl⟩ := building.refused_of_none on none
  rw [fetch, if_neg asked]
  simp only [build_eq]

end Command

end Transparency
