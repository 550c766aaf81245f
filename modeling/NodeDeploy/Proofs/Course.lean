import NodeDeploy.Proofs.Plan
import NodeDeploy.Proofs.Recording
import NodeDeploy.Proofs.Scripts

/-! # The course of a pass

A pass works on the memory first and on the device last. What it has made of the memory, and what is
then left to be done on the device, can be told without the device; how the run of the script ends
is all that the device adds.

* `Engine.deployed` is the memory on the way to a ready node, and `Engine.errand` what is left to
  be done on the device, or why the way ends before.
* `Engine.ending` is how the way ends and what becomes of the device; `deploy_eq` says that these
  three tell all of it.
* `pass_of_missing`, `pass_of_live`, `pass_of_released` and `pass_of_kept` are the four courses that
  a pass takes, none of which fails. `pass_preserves`: to show that a pass leaves something true of
  the memory is to show it of its writes. `parts_of_pass`: only the way to a ready node makes parts
  of nodes. `pass_device`: to a device, each does what an errand does.
-/

namespace NodeDeploy

/-! ## Errands -/

/-- What is to be done on a device: the session to open and the script to run in it. -/
structure Errand where
  target : SessionTarget
  script : BootstrapScript

namespace Memory

def secretOf (k : ObjectKey) (m : Memory) : Except Failure Secret :=
  match m.secrets.find? k with
  | some secret => .ok secret
  | none => .error (.notFound ResourceKind.secret.kind k)

def loginOf (k : ObjectKey) (m : Memory) : Except Failure Credentials := do
  let secret ← m.secretOf k
  match Credentials.ofSecret? secret with
  | some c => .ok c
  | none => .error (.invalidConfig ("secret " ++ k.text ++ " has no username and password"))

def bundleOf (k : ObjectKey) (m : Memory) : Except Failure CertificateBundle := do
  let secret ← m.secretOf k
  (CertificateBundle.ofSecret certificateProfile secret).mapError .certificate

end Memory

namespace Driver

/-- The errand to a device at the first of its addresses; plain servers have none. -/
def errand (driver : Driver) (sshPort : Nat) (addresses : List String) (login : Credentials)
    (bundle : CertificateBundle) : Except Failure (Option Errand) :=
  match driver with
  | .network layout family =>
    match addresses with
    | address :: _ =>
      .ok (some ⟨⟨address, sshPort, login, family.platform⟩, layout.script bundle⟩)
    | [] => .error (.notReady "no ip provided")
  | .server _ => .ok none

end Driver

namespace Engine

def errandTo (e : Engine) (driver : Driver) (ns : String) (i : NodeIntent)
    (addresses : List String) (m : Memory) : Except Failure (Option Errand) :=
  match driver.secrets? i with
  | some secrets => do
    let login ← m.loginOf ⟨ns, secrets.credentials⟩
    let bundle ← m.bundleOf ⟨ns, secrets.certificates⟩
    driver.errand e.sshPort addresses login bundle
  | none => .ok none

/-- The memory at the end of the way to a ready node, wherever that is. -/
def deployed (e : Engine) (i : NodeIntent) (m : Memory) : Memory :=
  match e.plan m i with
  | .ok p => ((p.prepared i m).convergePod p.pod).2
  | .error _ => m.addFinalizer i intentFinalizer

/-- What is left to be done on the device, or why the way to a ready node ends before. -/
def errand (e : Engine) (key : ObjectKey) (i : NodeIntent) (m : Memory) :
    Except Stop (Option Errand) := do
  let p ← e.plan m i
  ((p.prepared i m).convergePod p.pod).1.mapError fun error => .failed .converging (.store error)
  let addresses ← (podAddresses ((e.deployed i m).pods.find? key)).mapError .waiting
  (e.errandTo p.driver key.ns i addresses m).mapError (.failed .bootstrapping)

variable {δ : Type}

def runErrand (c : Connector δ) (errand : Option Errand) (d : δ) : Except DeviceError Unit × δ :=
  match errand with
  | some r => c.runScript r.target r.script d
  | none => (.ok (), d)

def ending (e : Engine) (c : Connector δ) (key : ObjectKey) (i : NodeIntent) (m : Memory) (d : δ) :
    Except Stop Unit × δ :=
  match e.errand key i m with
  | .ok errand => ((runErrand c errand d).1.mapError fun error =>
      .failed .bootstrapping (.bootstrap error), (runErrand c errand d).2)
  | .error stop => (.error stop, d)

variable {e : Engine} {c : Connector δ} {key : ObjectKey} {i : NodeIntent} {m : Memory} {d : δ}

/-! ## On the way to a ready node -/

theorem run_requireSecret (k : ObjectKey) (m : Memory) (d : δ) :
    requireSecret World.store k ⟨m, d⟩ = (m.secretOf k, ⟨m, d⟩) := by
  have hget : World.store.getSecret k ⟨m, d⟩ = (.ok (m.secrets.find? k), ⟨m, d⟩) := rfl
  rw [requireSecret, Action.run_bind_ok (run_storeCall hget), Memory.secretOf]
  rcases m.secrets.find? k with _ | secret <;> rfl

theorem run_credentials (k : ObjectKey) (m : Memory) (d : δ) :
    credentials World.store k ⟨m, d⟩ = (m.loginOf k, ⟨m, d⟩) := by
  rw [credentials, Action.run_bind, run_requireSecret, Memory.loginOf]
  rcases m.secretOf k with f | secret
  · rfl
  · simp only [bind, Except.bind]
    rcases Credentials.ofSecret? secret with _ | login <;> rfl

theorem run_certificates (k : ObjectKey) (m : Memory) (d : δ) :
    certificates World.store k ⟨m, d⟩ = (m.bundleOf k, ⟨m, d⟩) := by
  rw [certificates, Action.run_bind, run_requireSecret, Memory.bundleOf]
  rcases m.secretOf k with f | secret
  · rfl
  · simp only [bind, Except.bind]
    rcases CertificateBundle.ofSecret certificateProfile secret with part | bundle <;> rfl

theorem run_driver (driver : Driver) (sshPort : Nat) (addresses : List String)
    (login : Credentials) (bundle : CertificateBundle) (m : Memory) (d : δ) :
    driver.bootstrap (World.link c) sshPort addresses login bundle ⟨m, d⟩ =
      match driver.errand sshPort addresses login bundle with
      | .ok errand => ((runErrand c errand d).1.mapError .bootstrap, ⟨m, (runErrand c errand d).2⟩)
      | .error f => (.error f, ⟨m, d⟩) := by
  cases driver with
  | network layout family =>
    cases addresses with
    | nil => rfl
    | cons address rest =>
      rw [Driver.bootstrap, Action.run_mapError, World.link_runScript]
      rfl
  | server provider => rfl

/-- The configuration of a device is the run of an errand. -/
theorem run_configure (driver : Driver) (ns : String) (addresses : List String) (m : Memory)
    (d : δ) : e.configure World.store (World.link c) driver ns i addresses ⟨m, d⟩ =
      match e.errandTo driver ns i addresses m with
      | .ok errand => ((runErrand c errand d).1.mapError .bootstrap, ⟨m, (runErrand c errand d).2⟩)
      | .error f => (.error f, ⟨m, d⟩) := by
  rw [configure, errandTo]
  rcases driver.secrets? i with _ | secrets
  · rfl
  simp only [bootstrap]
  rw [Action.run_bind, run_credentials]
  rcases m.loginOf ⟨ns, secrets.credentials⟩ with f | login
  · rfl
  simp only [bind, Except.bind]
  refine Eq.trans (Action.run_bind _ _ _) ?_
  rw [run_certificates]
  rcases m.bundleOf ⟨ns, secrets.certificates⟩ with f | bundle
  · rfl
  exact run_driver driver e.sshPort addresses login bundle m d

theorem run_awaitReady (m : Memory) (d : δ) : awaitReady World.store key ⟨m, d⟩ =
    ((podAddresses (m.pods.find? key)).mapError .waiting, ⟨m, d⟩) := by
  have hget : storeStep .awaitingReady (World.store.getPod key) ⟨m, d⟩ =
      (.ok (m.pods.find? key), ⟨m, d⟩) := rfl
  rw [awaitReady, Action.run_bind_ok hget]
  rcases podAddresses (m.pods.find? key) with reason | addresses <;> rfl

theorem errandTo_congr {n : Memory} (h : m.secrets = n.secrets) (driver : Driver) (ns : String)
    (i : NodeIntent) (addresses : List String) :
    e.errandTo driver ns i addresses m = e.errandTo driver ns i addresses n := by
  simp only [errandTo, Memory.loginOf, Memory.bundleOf, Memory.secretOf, h]

/-- The errand to a network device that has an address. -/
theorem errandTo_network (layout : Layout) (family : Family) (ns : String) (i : NodeIntent)
    (address : String) (rest : List String) (m : Memory) :
    e.errandTo (.network layout family) ns i (address :: rest) m = (do
      let login ← m.loginOf ⟨ns, family.provider⟩
      let bundle ← m.bundleOf ⟨ns, i.metadata.displayName⟩
      .ok (some ⟨⟨address, e.sshPort, login, family.platform⟩, layout.script bundle⟩)) := rfl

/-- What the way to a ready node leaves alone. -/
theorem deployed_eq (e : Engine) (i : NodeIntent) (m : Memory) : e.deployed i m =
    { m with
      intents := (m.addFinalizer i intentFinalizer).intents
      claims := (e.deployed i m).claims
      claimWrites := (e.deployed i m).claimWrites
      attachments := (e.deployed i m).attachments
      attachmentWrites := (e.deployed i m).attachmentWrites
      pods := (e.deployed i m).pods
      podCreates := (e.deployed i m).podCreates
      podDeletes := (e.deployed i m).podDeletes } := by
  rw [deployed]
  rcases e.plan m i with stop | p
  · rfl
  · simp only
    rw [Memory.convergePod_eq, Plan.prepared_eq]

theorem deployed_secrets (e : Engine) (i : NodeIntent) (m : Memory) :
    (e.deployed i m).secrets = m.secrets := by
  rw [deployed_eq]

theorem find?_deployed (h : m.intents.find? i.metadata.key = some i) :
    (e.deployed i m).intents.find? i.metadata.key = some i.guarded := by
  rw [deployed_eq]
  exact Memory.find?_addFinalizer h

theorem deployed_of_plan {p : Plan} (hp : e.plan m i = .ok p) :
    e.deployed i m = ((p.prepared i m).convergePod p.pod).2 := by
  rw [deployed, hp]

theorem errand_of_no_plan {stop : Stop} (hp : e.plan m i = .error stop) :
    e.errand key i m = .error stop := by
  rw [errand, hp]
  rfl

theorem errand_of_plan {p : Plan} (hp : e.plan m i = .ok p) : e.errand key i m = (do
    ((p.prepared i m).convergePod p.pod).1.mapError fun error => .failed .converging (.store error)
    let addresses ← (podAddresses
      (((p.prepared i m).convergePod p.pod).2.pods.find? key)).mapError .waiting
    (e.errandTo p.driver key.ns i addresses m).mapError (.failed .bootstrapping)) := by
  rw [errand, deployed_of_plan hp, hp]
  rfl

theorem errand_of_refused {p : Plan} {error : StoreError} (hp : e.plan m i = .ok p)
    (hc : ((p.prepared i m).convergePod p.pod).1 = .error error) :
    e.errand key i m = .error (.failed .converging (.store error)) := by
  rw [errand_of_plan hp, hc]
  rfl

theorem errand_of_waiting {p : Plan} {reason : Unready} (hp : e.plan m i = .ok p)
    (hc : ((p.prepared i m).convergePod p.pod).1 = .ok ())
    (ha : podAddresses (((p.prepared i m).convergePod p.pod).2.pods.find? key) = .error reason) :
    e.errand key i m = .error (.waiting reason) := by
  rw [errand_of_plan hp, hc, ha]
  rfl

theorem errand_of_reached {p : Plan} {addresses : List String} (hp : e.plan m i = .ok p)
    (hc : ((p.prepared i m).convergePod p.pod).1 = .ok ())
    (ha : podAddresses (((p.prepared i m).convergePod p.pod).2.pods.find? key) = .ok addresses) :
    e.errand key i m =
      (e.errandTo p.driver key.ns i addresses m).mapError (.failed .bootstrapping) := by
  rw [errand_of_plan hp, hc, ha]
  rfl

theorem converged_of_granted (hr : m.refusingPods = none) (p : Plan) (i : NodeIntent) :
    ((p.prepared i m).convergePod p.pod).1 = .ok () := by
  refine Memory.convergePod_of_granted ?_ p.pod
  rw [Plan.prepared_eq]
  exact hr

/-- **The pod that convergence leaves**, if it is not refused: the one that is there if it has the
wanted revision, and else the wanted one. -/
theorem stored_of_plan {p : Plan} (hp : e.plan m i = .ok p)
    (hc : ((p.prepared i m).convergePod p.pod).1 = .ok ()) : ∃ stored,
      (e.deployed i m).pods.find? i.metadata.key = some stored ∧
      stored.revision? = p.pod.revision? ∧
      (∀ q, m.pods.find? i.metadata.key = some q → q.revision? = p.pod.revision? → stored = q) ∧
      ((∀ q, m.pods.find? i.metadata.key = some q → q.revision? ≠ p.pod.revision?) →
        stored = { p.pod with status := m.initialStatus }) := by
  obtain ⟨stored, hstored, hrevision, hkept, hmade⟩ := Memory.find?_convergePod hc
  have hpods : (p.prepared i m).pods = m.pods := by rw [Plan.prepared_eq]
  have hstatus : (p.prepared i m).initialStatus = m.initialStatus := by rw [Plan.prepared_eq]
  rw [← deployed_of_plan hp, key_of_plan hp] at hstored
  simp only [Memory.carries, key_of_plan hp, hpods, hstatus] at hkept hmade
  refine ⟨stored, hstored, hrevision, fun q hq hr => ?_, fun hnone => hmade ?_⟩
  · exact Option.some.inj ((hkept (by simp [hq, hr])).symm.trans hq)
  · rcases hq : m.pods.find? i.metadata.key with _ | q
    · rfl
    · simpa [hq] using hnone q hq

/-- **The way to a ready node**: what it does to the memory does not depend on the device, and how
it ends depends on the memory through the errand only. -/
theorem deploy_eq (e : Engine) (c : Connector δ) (key : ObjectKey) (i : NodeIntent) (m : Memory)
    (d : δ) : e.deploy World.store (World.link c) key i ⟨m, d⟩ =
      ((e.ending c key i m d).1, ⟨e.deployed i m, (e.ending c key i m d).2⟩) := by
  have hsecrets := deployed_secrets e i m
  rcases hp : e.plan m i with stop | p
  · rw [run_deploy_of_no_plan hp, ending, errand_of_no_plan hp, deployed, hp]
  obtain ⟨-, -, -, hw⟩ := plan_eq_ok_iff.1 hp
  obtain ⟨hi, hns, -, -, hrev⟩ := Driver.workload_spec hw
  obtain ⟨ns, hns'⟩ := Option.isSome_iff_exists.1 hi.1
  have hconverge := run_converge (hns.trans hns') hrev (p.prepared i m) d
  rw [run_deploy_of_plan hp, carryOut, ending, errand_of_plan hp]
  rw [deployed_of_plan hp] at hsecrets ⊢
  rcases hc : (p.prepared i m).convergePod p.pod with ⟨error | _, n⟩
  · rw [hc] at hconverge
    exact Action.run_bind_error (run_step hconverge) _
  rw [hc] at hconverge hsecrets
  refine (Action.run_bind_ok (run_step hconverge) _).trans ?_
  rw [Action.run_bind, run_awaitReady]
  simp only [bind, Except.bind, Except.mapError]
  rcases podAddresses (n.pods.find? key) with reason | addresses
  · rfl
  dsimp only
  rw [step, Action.run_mapError, run_configure, errandTo_congr hsecrets]
  rcases e.errandTo p.driver key.ns i addresses m with f | errand
  · rfl
  · simp only
    rcases (runErrand c errand d).1 with error | _ <;> rfl

end Engine

/-! ## Whole passes -/

def endCondition (now : Instant) : Except Stop Unit → Condition
  | .ok () => .ready now
  | .error stop => stop.condition now

def endOutcome : Except Stop Unit → Outcome
  | .ok () => ⟨.ready, .never⟩
  | .error stop => stop.outcome

namespace Engine

variable {δ : Type} {e : Engine} {c : Connector δ} {key : ObjectKey} {i : NodeIntent} {m : Memory}
  {d : δ} {now : Instant}

theorem run_record (i : NodeIntent) (condition : Condition) (m : Memory) (d : δ) :
    record World.store i condition ⟨m, d⟩ = (.ok (), ⟨m.recorded i condition, d⟩) := by
  simp only [record, Memory.recorded]
  split
  · rfl
  · rfl

theorem run_conclude (i : NodeIntent) (now : Instant) (ended : Except Stop Unit) (m : Memory)
    (d : δ) : conclude World.store i now ended ⟨m, d⟩ =
      (.ok (endOutcome ended), ⟨m.recorded i (endCondition now ended), d⟩) := by
  rcases ended with stop | _
  · rw [conclude, Action.run_bind_ok (run_record i _ m d)]
    rfl
  · rw [conclude, Action.run_bind_ok (run_record i _ m d)]
    rfl

theorem run_getIntent (key : ObjectKey) (m : Memory) (d : δ) :
    ((World.store.getIntent key).mapError Failure.store) ⟨m, d⟩ =
      (.ok (m.intents.find? key), ⟨m, d⟩) := rfl

theorem pass_of_missing (h : m.intents.find? key = none) (c : Connector δ) (now : Instant)
    (d : δ) : e.pass World.store (World.link c) key now ⟨m, d⟩ =
      (.ok ⟨.fetching, .never⟩, ⟨m, d⟩) := by
  rw [pass, Action.run_bind_ok (run_getIntent key m d), h]
  rfl

/-- **A pass over an intent that is not being deleted.** -/
theorem pass_of_live (h : m.intents.find? key = some i) (hl : i.metadata.isDeleted = false)
    (c : Connector δ) (now : Instant) (d : δ) :
    e.pass World.store (World.link c) key now ⟨m, d⟩ =
      (.ok (endOutcome (e.ending c key i m d).1),
        ⟨(e.deployed i m).recorded i (endCondition now (e.ending c key i m d).1),
          (e.ending c key i m d).2⟩) := by
  have hrun : (e.deploy World.store (World.link c) key i).attempt ⟨m, d⟩ =
      ((.ok (e.ending c key i m d).1, ⟨e.deployed i m, (e.ending c key i m d).2⟩) :
        Except Failure _ × World δ) := by
    rw [Action.run_attempt, deploy_eq]
  rw [pass, Action.run_bind_ok (run_getIntent key m d), h]
  simp only [hl, Bool.false_eq_true, if_false]
  rw [Action.run_bind_ok hrun, run_conclude]

theorem pods_of_pass (hi : m.intents.find? key = some i) (hl : i.metadata.isDeleted = false)
    (c : Connector δ) (now : Instant) (d : δ) :
    (e.pass World.store (World.link c) key now ⟨m, d⟩).2.memory.pods = (e.deployed i m).pods := by
  rw [pass_of_live hi hl, Memory.recorded_eq]

theorem claims_of_pass (hi : m.intents.find? key = some i) (hl : i.metadata.isDeleted = false)
    (c : Connector δ) (now : Instant) (d : δ) :
    (e.pass World.store (World.link c) key now ⟨m, d⟩).2.memory.claims =
      (e.deployed i m).claims := by
  rw [pass_of_live hi hl, Memory.recorded_eq]

/-- A pass over an intent that is being deleted, which the store releases. -/
theorem pass_of_released (h : m.intents.find? key = some i) (hl : i.metadata.isDeleted = true)
    (hr : m.refusingRelease = none) (c : Connector δ) (now : Instant) (d : δ) :
    e.pass World.store (World.link c) key now ⟨m, d⟩ =
      (.ok ⟨.finalizing, .never⟩, ⟨(m.removeFinalizer i intentFinalizer).2, d⟩) := by
  have hok := Memory.removeFinalizer_of_granted hr i intentFinalizer
  have hrun : (World.store.removeFinalizer i intentFinalizer).attempt ⟨m, d⟩ =
      ((.ok (.ok ()), ⟨(m.removeFinalizer i intentFinalizer).2, d⟩) :
        Except Failure _ × World δ) := by
    rw [← hok]
    rfl
  rw [pass, Action.run_bind_ok (run_getIntent key m d), h]
  simp only [hl, if_true, finalize]
  rw [Action.run_bind_ok hrun]
  rfl

/-- A pass over an intent that is being deleted, which the store does not release. -/
theorem pass_of_kept (h : m.intents.find? key = some i) (hl : i.metadata.isDeleted = true)
    {message : String} (hr : m.refusingRelease = some message) (c : Connector δ) (now : Instant)
    (d : δ) : e.pass World.store (World.link c) key now ⟨m, d⟩ =
      (.ok (endOutcome (.error (.failed .finalizing (.store (.backend message))))),
        ⟨m.recorded i (endCondition now (.error (.failed .finalizing (.store (.backend message))))),
          d⟩) := by
  have hrun : (World.store.removeFinalizer i intentFinalizer).attempt ⟨m, d⟩ =
      ((.ok (.error (.backend message)), ⟨m, d⟩) : Except Failure _ × World δ) := by
    show (Except.ok (m.removeFinalizer i intentFinalizer).1,
      World.mk (m.removeFinalizer i intentFinalizer).2 d) = _
    rw [Memory.removeFinalizer_of_refused hr]
  rw [pass, Action.run_bind_ok (run_getIntent key m d), h]
  simp only [hl, if_true, finalize]
  rw [Action.run_bind_ok hrun]
  exact run_conclude i now _ m d

/-- **What each write of a pass preserves holds after the pass**: the way to a ready node, the
release of the intent, and the record of the condition. -/
theorem pass_preserves {δ : Type} {P : Memory → Prop} {w : World δ} (h : P w.memory)
    (hdeployed : ∀ i, w.memory.intents.find? key = some i → i.metadata.isDeleted = false →
      P (e.deployed i w.memory))
    (hreleased : ∀ i, w.memory.intents.find? key = some i → i.metadata.isDeleted = true →
      P (w.memory.removeFinalizer i intentFinalizer).2)
    (hrecorded : ∀ i condition m, w.memory.intents.find? key = some i → P m →
      P (m.recorded i condition)) (c : Connector δ) (now : Instant) :
    P (e.pass World.store (World.link c) key now w).2.memory := by
  obtain ⟨m, d⟩ := w
  rcases Option.eq_none_or_eq_some (m.intents.find? key) with hi | ⟨i, hi⟩
  · rw [pass_of_missing hi]
    exact h
  cases hl : i.metadata.isDeleted with
  | false =>
    rw [pass_of_live hi hl]
    exact hrecorded i _ _ hi (hdeployed i hi hl)
  | true =>
    rcases Option.eq_none_or_eq_some m.refusingRelease with hr | ⟨message, hr⟩
    · rw [pass_of_released hi hl hr]
      exact hreleased i hi hl
    · rw [pass_of_kept hi hl hr]
      exact hrecorded i _ m hi h

/-- **The parts of nodes that a pass leaves** are those that were there, or else, over an intent
that is not being deleted, those that the way to a ready node leaves. -/
theorem parts_of_pass {δ : Type} (e : Engine) (c : Connector δ) (key : ObjectKey) (now : Instant)
    (w : World δ) : (e.pass World.store (World.link c) key now w).2.memory.SameParts w.memory ∨
      ∃ i, w.memory.intents.find? key = some i ∧ i.metadata.isDeleted = false ∧
        (e.pass World.store (World.link c) key now w).2.memory.SameParts
          (e.deployed i w.memory) := by
  refine pass_preserves (P := fun m => m.SameParts w.memory ∨ ∃ i, w.memory.intents.find? key =
    some i ∧ i.metadata.isDeleted = false ∧ m.SameParts (e.deployed i w.memory))
    (.inl ⟨rfl, rfl, rfl⟩) (fun i hi hl => ?_) (fun i _ _ => ?_)
    (fun i condition m _ hm => ?_) c now
  · exact .inr ⟨i, hi, hl, rfl, rfl, rfl⟩
  · exact .inl (Memory.sameParts_removeFinalizer i intentFinalizer w.memory)
  · have hsame := Memory.sameParts_recorded i condition m
    rcases hm with hm | ⟨j, hj, hl, hm⟩
    · exact .inl (hsame.trans hm)
    · exact .inr ⟨j, hj, hl, hsame.trans hm⟩

/-- **A pass does to a device what an errand does**, if anything. -/
theorem pass_device {δ : Type} (e : Engine) (c : Connector δ) (key : ObjectKey) (now : Instant)
    (w : World δ) : ∃ errand,
      (e.pass World.store (World.link c) key now w).2.device = (runErrand c errand w.device).2 := by
  obtain ⟨m, d⟩ := w
  rcases Option.eq_none_or_eq_some (m.intents.find? key) with hi | ⟨i, hi⟩
  · exact ⟨none, by rw [pass_of_missing hi]; rfl⟩
  cases hl : i.metadata.isDeleted with
  | false =>
    rw [pass_of_live hi hl, ending]
    rcases e.errand key i m with stop | errand
    · exact ⟨none, rfl⟩
    · exact ⟨errand, rfl⟩
  | true =>
    rcases Option.eq_none_or_eq_some m.refusingRelease with hr | ⟨message, hr⟩
    · exact ⟨none, by rw [pass_of_released hi hl hr]; rfl⟩
    · exact ⟨none, by rw [pass_of_kept hi hl hr]; rfl⟩

end Engine

end NodeDeploy
