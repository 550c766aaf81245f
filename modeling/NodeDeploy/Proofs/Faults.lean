import NodeDeploy.Proofs.Exchanges
import NodeDeploy.Proofs.Reports

/-! # Faults of a store

Any call that a pass makes may fail, and so may the device. Most failures end the way to a ready
node and are reported; only without the intent, or if the report fails, has the pass failed itself.

* `traces_deploy` and the lemmas before it, one for each function of the engine: the first call that
  fails is the last on the way to a ready node, and stops the pass in the phase that it belongs to.
* `Reported` is how the end of a pass is recorded, and `PassTrace` what is heard of a whole pass.
  `passTrace` says that this is all that is heard.
* `faults_of_pass`: which failures a pass fails with, and what it does about the others.
-/

namespace NodeDeploy

namespace Engine

variable {σ : Type} {b : Bool} (e : Engine) (s : Store σ) (c : Connector σ)

/-! ## The way to a ready node -/

theorem traces_resolveConfig (configNamespace : Option String) (provider : String)
    (i : NodeIntent) : Traces b b (BlamesStep .resolving)
      (resolveConfig s.heard configNamespace provider i)
      (resolveConfig s configNamespace provider i) := by
  rw [resolveConfig, resolveConfig]
  refine .bind (.ofExcept _) fun key => ?_
  rcases i.spec.parametersRef with _ | reference
  · refine .bind (.call (s.listConfigs _) (.listConfigs _) rfl (Bool.or_false b)) fun configs => ?_
    exact .pure _
  · refine .bind (.call (s.getConfig _) (.getConfig _) rfl (Bool.or_false b)) fun found => ?_
    rcases found with _ | config
    · exact .throw _
    · exact .pure config

theorem traces_resolve (i : NodeIntent) :
    Traces b b (BlamesStep .resolving) (e.resolve s.heard i) (e.resolve s i) := by
  rw [resolve, resolve]
  refine .bind (.ofExcept _) fun driver => ?_
  refine .bind (traces_resolveConfig s _ _ i) fun config => ?_
  exact .bind (.ofExcept _) fun _ => .pure _

theorem traces_applyClaims (l : List VolumeClaim) :
    Traces b b (BlamesStep .attaching) (applyClaims s.heard l) (applyClaims s l) := by
  induction l with
  | nil => exact .pure ()
  | cons claim l ih =>
    rw [applyClaims, applyClaims]
    exact .bind (.call (s.applyClaim claim) (.applyClaim claim) rfl (Bool.or_false b)) fun _ => ih

theorem traces_applyAttachments (l : List NetworkAttachment) :
    Traces b b (BlamesStep .attaching) (applyAttachments s.heard l) (applyAttachments s l) := by
  induction l with
  | nil => exact .pure ()
  | cons a l ih =>
    rw [applyAttachments, applyAttachments]
    exact .bind (.call (s.applyAttachment a) (.applyAttachment a) rfl (Bool.or_false b)) fun _ => ih

theorem traces_attach (driver : Driver) (i : NodeIntent) (config : NodeConfig) :
    Traces b b (BlamesStep .attaching) (e.attach s.heard driver i config)
      (e.attach s driver i config) := by
  rw [attach, attach]
  refine .bind (.ofExcept _) fun claims => ?_
  refine .bind (traces_applyClaims s claims) fun _ => ?_
  split
  · refine .bind (.ofExcept _) fun attachments => ?_
    exact .bind (traces_applyAttachments s attachments) fun _ => .pure attachments
  · exact .pure []

/-- Convergence asks for the pod first. -/
theorem traces_converge (wanted : Pod) :
    Traces false true (BlamesStep .converging) (converge s.heard wanted) (converge s wanted) := by
  rw [converge, converge]
  rcases wanted.metadata.ns with _ | ns
  · exact .throw _
  rcases wanted.revision? with _ | revision
  · exact .throw _
  refine .bind (.call (s.getPod _) (.getPod _) rfl rfl) fun found => ?_
  have hcreate (word : Convergence) : Traces true true (BlamesStep .converging)
      (do (s.heard.createPod wanted).mapError .store; pure word)
      (do (s.createPod wanted).mapError .store; pure word) :=
    .bind (.call (s.createPod wanted) (.createPod wanted) rfl rfl) fun _ => .pure word
  rcases found with _ | running
  · exact hcreate .created
  · dsimp only
    split
    · exact .pure Convergence.unchanged
    · exact .bind (.call (s.deletePod _) (.deletePod _) rfl rfl) fun _ => hcreate .recreated

theorem traces_requireSecret (key : ObjectKey) :
    Traces b b (BlamesStep .bootstrapping) (requireSecret s.heard key) (requireSecret s key) := by
  rw [requireSecret, requireSecret]
  refine .bind (.call (s.getSecret key) (.getSecret key) rfl (Bool.or_false b)) fun found => ?_
  rcases found with _ | secret
  · exact .throw _
  · exact .pure secret

theorem traces_credentials (key : ObjectKey) :
    Traces b b (BlamesStep .bootstrapping) (credentials s.heard key) (credentials s key) := by
  rw [credentials, credentials]
  refine .bind (traces_requireSecret s key) fun secret => ?_
  rcases Credentials.ofSecret? secret with _ | login
  · exact .throw _
  · exact .pure login

theorem traces_certificates (key : ObjectKey) :
    Traces b b (BlamesStep .bootstrapping) (certificates s.heard key) (certificates s key) := by
  rw [certificates, certificates]
  refine .bind (traces_requireSecret s key) fun secret => ?_
  rcases CertificateBundle.ofSecret certificateProfile secret with part | bundle
  · exact .throw _
  · exact .pure bundle

/-- Nothing is heard of a session. -/
theorem traces_driver (driver : Driver) (sshPort : Nat) (addresses : List String)
    (login : Credentials) (bundle : CertificateBundle) : Traces b b (BlamesStep .bootstrapping)
      (driver.bootstrap c.unheard sshPort addresses login bundle)
      (driver.bootstrap c sshPort addresses login bundle) := by
  cases driver with
  | network layout family =>
    cases addresses with
    | nil => exact .throw _
    | cons address rest =>
      have hsilent : Traces b b (fun _ _ _ => False)
          (c.unheard.runScript ⟨address, sshPort, login, family.platform⟩ (layout.script bundle))
          (c.runScript ⟨address, sshPort, login, family.platform⟩ (layout.script bundle)) := by
        rw [Connector.unheard_runScript]
        exact .unheard _
      exact hsilent.mapError fun _ _ _ h => h.elim
  | server provider => exact .pure ()

theorem traces_configure (driver : Driver) (ns : String) (i : NodeIntent)
    (addresses : List String) : Traces b b (BlamesStep .bootstrapping)
      (e.configure s.heard c.unheard driver ns i addresses)
      (e.configure s c driver ns i addresses) := by
  rw [configure, configure]
  rcases driver.secrets? i with _ | secrets
  · exact .pure ()
  · refine .bind (traces_credentials s _) fun login => ?_
    refine .bind (traces_certificates s _) fun bundle => ?_
    exact traces_driver c driver e.sshPort addresses login bundle

/-- The pod was asked for before, to converge it. -/
theorem traces_awaitReady (key : ObjectKey) :
    Traces true true BlamesPass (awaitReady s.heard key) (awaitReady s key) := by
  rw [awaitReady, awaitReady]
  refine .bind (.step (.call (s.getPod key) (.getPod key) rfl rfl)) fun pod => ?_
  rcases podAddresses pod with reason | addresses
  · exact .throw _
  · exact .pure addresses

/-- **The first call that fails is the last on the way to a ready node**, and stops the pass in the
phase that it belongs to. -/
theorem traces_deploy (key : ObjectKey) (i : NodeIntent) :
    Traces false true BlamesPass (e.deploy s.heard c.unheard key i) (e.deploy s c key i) := by
  rw [deploy, deploy]
  refine .bind (.step (.call (s.addFinalizer i _) (.addFinalizer i _) rfl rfl)) fun _ => ?_
  refine .bind (.step (traces_resolve e s i)) fun resolved => ?_
  obtain ⟨driver, config⟩ := resolved
  refine .bind (.step (traces_attach e s driver i config)) fun attachments => ?_
  refine .bind (.step (.ofExcept _)) fun wanted => ?_
  refine .bind (.step (traces_converge s wanted)) fun _ => ?_
  refine .bind (traces_awaitReady s key) fun addresses => ?_
  exact .step (traces_configure e s c driver key.ns i addresses)

end Engine

/-! ## The report -/

/-- An intent is as another but for its status, which reports a state. -/
def NodeIntent.Tells (j i : NodeIntent) (state : ConditionState) : Prop :=
  j.metadata = i.metadata ∧ j.spec = i.spec ∧ j.readyState? = some state

/-- How the end of a pass is recorded of an intent, and what becomes of the outcome: nothing is
written if the state was reported before, and the pass fails if it cannot be written. -/
inductive Reported (i : NodeIntent) (state : ConditionState) (outcome : Outcome) :
    List Exchange → Except Failure Outcome → Prop where
  | known (h : i.readyState? = some state) : Reported i state outcome [] (.ok outcome)
  | written {j : NodeIntent} (h : i.readyState? ≠ some state) (hj : j.Tells i state) :
    Reported i state outcome [⟨.updateStatus j, none⟩] (.ok outcome)
  | lost {j : NodeIntent} {error : StoreError} (h : i.readyState? ≠ some state)
    (hj : j.Tells i state) :
    Reported i state outcome [⟨.updateStatus j, some error⟩] (.error (.store error))

namespace Reported

variable {i : NodeIntent} {state : ConditionState} {outcome : Outcome} {l : List Exchange}
  {result : Except Failure Outcome}

theorem isVital_of_mem (h : Reported i state outcome l result) {x : Exchange} (hx : x ∈ l) :
    x.request.isVital = true := by
  cases h with
  | known => cases hx
  | written => rw [List.mem_singleton.1 hx]; rfl
  | lost => rw [List.mem_singleton.1 hx]; rfl

theorem eq_error_iff (h : Reported i state outcome l result) (f : Failure) : result = .error f ↔
    ∃ request error, (⟨request, some error⟩ : Exchange) ∈ l ∧ request.isVital = true ∧
      f = .store error := by
  cases h with
  | known => simp
  | written => simp
  | @lost j error =>
    constructor
    · intro hf
      exact ⟨_, error, List.mem_cons_self, rfl, (Except.error.inj hf).symm⟩
    · rintro ⟨request, error', hmem, -, rfl⟩
      simp only [List.mem_singleton, Exchange.mk.injEq, Option.some.injEq] at hmem
      rw [hmem.2]

end Reported

namespace Engine

variable {σ : Type}

theorem conclude_eq (s : Store σ) (i : NodeIntent) (now : Instant) (ended : Except Stop Unit) :
    conclude s i now ended =
      (do record s i (endCondition now ended); pure (endOutcome ended)) := by
  rcases ended with stop | _ <;> rfl

/-- **The end of a pass is recorded by one call**, or by none if it was reported before. -/
theorem reported_conclude (s : Store σ) (i : NodeIntent) (now : Instant)
    (ended : Except Stop Unit) (x : σ) (l : List Exchange) : ∃ t,
      conclude s.heard i now ended ⟨x, l⟩ =
        ((conclude s i now ended x).1, ⟨(conclude s i now ended x).2, l ++ t⟩) ∧
      Reported i (endCondition now ended).state (endOutcome ended) t
        (conclude s i now ended x).1 := by
  have htype := endCondition_type now ended
  rw [conclude_eq, conclude_eq]
  generalize endCondition now ended = condition at htype ⊢
  generalize endOutcome ended = outcome
  cases hchanged : i.statusOrEmpty.changedBy condition with
  | false =>
    simp only [record, hchanged, Bool.false_eq_true, if_false]
    refine ⟨[], by rw [List.append_nil]; rfl, ?_⟩
    exact .known ((NodeIntent.changedBy_eq_false_iff htype).1 hchanged)
  | true =>
    have hnew : i.readyState? ≠ some condition.state := by
      intro h
      rw [(NodeIntent.changedBy_eq_false_iff htype).2 h] at hchanged
      cases hchanged
    have htells : ({ i with status := some (i.statusOrEmpty.set condition) } : NodeIntent).Tells i
        condition.state := by
      refine ⟨rfl, rfl, NodeIntent.readyState?_of_statusTelling (i := i) htype ?_⟩
      rw [NodeIntent.statusTelling, if_pos hchanged]
    have hheard : s.heard.updateStatus { i with status := some (i.statusOrEmpty.set condition) } =
        (s.updateStatus { i with status := some (i.statusOrEmpty.set condition) }).heard
          (.updateStatus { i with status := some (i.statusOrEmpty.set condition) }) := rfl
    simp only [record, hchanged, if_true, Action.run_bind, Action.run_mapError, hheard,
      Action.run_heard]
    rcases s.updateStatus { i with status := some (i.statusOrEmpty.set condition) } x with
      ⟨error | _, y⟩
    · exact ⟨_, rfl, .lost hnew htells⟩
    · exact ⟨_, rfl, .written hnew htells⟩

end Engine

/-! ## Whole passes -/

/-- What is heard of a pass over a key, given what comes of reading the intent, and how the pass
ends. -/
inductive PassTrace (key : ObjectKey) :
    Except StoreError (Option NodeIntent) → List Exchange → Except Failure Outcome → Prop where
  /-- Without the intent there is nothing to report to. -/
  | unread {error : StoreError} :
    PassTrace key (.error error) [⟨.getIntent key, some error⟩] (.error (.store error))
  /-- Nothing is reported to an intent that is missing or released. -/
  | unreported {i? : Option NodeIntent} {t : List Exchange} {outcome : Outcome}
    (answered : Answered t) : PassTrace key (.ok i?) (⟨.getIntent key, none⟩ :: t) (.ok outcome)
  /-- All calls are answered, and the end is reported. -/
  | reported {i : NodeIntent} {t u : List Exchange} {state : ConditionState} {outcome : Outcome}
    {result : Except Failure Outcome} (answered : Answered t)
    (h : Reported i state outcome u result) :
    PassTrace key (.ok (some i)) (⟨.getIntent key, none⟩ :: (t ++ u)) result
  /-- A call fails, and its failure is reported. -/
  | failed {i : NodeIntent} {t u : List Exchange} {request : StoreRequest} {phase : Phase}
    {error : StoreError} {result : Except Failure Outcome} (answered : Answered t)
    (hphase : request.phase? (podSought t) = some phase)
    (h : Reported i ⟨.fails, .failed, error.message⟩ ⟨phase, .immediate⟩ u result) :
    PassTrace key (.ok (some i))
      (⟨.getIntent key, none⟩ :: (t ++ ⟨request, some error⟩ :: u)) result

theorem Answered.notMem {t : List Exchange} (h : Answered t) (request : StoreRequest)
    (error : StoreError) : (⟨request, some error⟩ : Exchange) ∉ t := by
  intro hmem
  cases (h _ hmem).1

namespace PassTrace

variable {key : ObjectKey} {read : Except StoreError (Option NodeIntent)} {l : List Exchange}
  {result : Except Failure Outcome}

/-- **A pass fails exactly with the failure of a vital call.** -/
theorem eq_error_iff (h : PassTrace key read l result) (f : Failure) : result = .error f ↔
    ∃ request error, (⟨request, some error⟩ : Exchange) ∈ l ∧ request.isVital = true ∧
      f = .store error := by
  cases h with
  | @unread error =>
    constructor
    · intro hf
      exact ⟨_, error, List.mem_cons_self, rfl, (Except.error.inj hf).symm⟩
    · rintro ⟨request, error', hmem, -, rfl⟩
      simp only [List.mem_singleton, Exchange.mk.injEq, Option.some.injEq] at hmem
      rw [hmem.2]
  | unreported answered => simp [answered.notMem]
  | reported answered h => simp [answered.notMem, h.eq_error_iff f]
  | @failed _ _ _ request' _ _ _ answered hphase h =>
    have hstep := StoreRequest.isVital_of_phase? hphase
    rw [h.eq_error_iff f]
    constructor
    · rintro ⟨request, error, hmem, hvital, hf⟩
      exact ⟨request, error, by simp [hmem], hvital, hf⟩
    · rintro ⟨request, error, hmem, hvital, hf⟩
      simp only [List.mem_cons, List.mem_append, Exchange.mk.injEq, reduceCtorEq, and_false,
        answered.notMem, false_or] at hmem
      rcases hmem with ⟨rfl, -⟩ | hmem
      · rw [hstep] at hvital
        cases hvital
      · exact ⟨request, error, hmem, hvital, hf⟩

/-- **Any other failing call is the last before the report**, which tells of it. -/
theorem of_failure (h : PassTrace key read l result) {request : StoreRequest} {error : StoreError}
    (hmem : (⟨request, some error⟩ : Exchange) ∈ l) (hstep : request.isVital = false) :
    ∃ i before after phase, read = .ok (some i) ∧ l = before ++ ⟨request, some error⟩ :: after ∧
      (∀ x ∈ before, x.failure = none) ∧ request.phase? (podSought before) = some phase ∧
      Reported i ⟨.fails, .failed, error.message⟩ ⟨phase, .immediate⟩ after result := by
  have hreport {i : NodeIntent} {state : ConditionState} {outcome : Outcome} {u : List Exchange}
      (h : Reported i state outcome u result) : (⟨request, some error⟩ : Exchange) ∉ u := by
    intro hmem
    have hvital := h.isVital_of_mem hmem
    rw [hstep] at hvital
    cases hvital
  cases h with
  | unread =>
    simp only [List.mem_singleton, Exchange.mk.injEq] at hmem
    rw [hmem.1] at hstep
    cases hstep
  | unreported answered => simp [answered.notMem] at hmem
  | reported answered h => simp [answered.notMem, hreport h] at hmem
  | @failed i t u request' phase error' _ answered hphase h =>
    simp only [List.mem_cons, List.mem_append, Exchange.mk.injEq, reduceCtorEq, and_false,
      answered.notMem, hreport h, false_or, or_false, Option.some.injEq] at hmem
    obtain ⟨rfl, rfl⟩ := hmem
    refine ⟨i, ⟨.getIntent key, none⟩ :: t, u, phase, rfl, rfl, ?_, hphase, h⟩
    intro x hx
    rcases List.mem_cons.1 hx with rfl | hx
    · rfl
    · exact (answered x hx).1

end PassTrace

namespace Engine

variable {σ : Type}

def exchanges (e : Engine) (s : Store σ) (c : Connector σ) (key : ObjectKey) (now : Instant)
    (x : σ) : List Exchange :=
  (e.pass s.heard c.unheard key now ⟨x, []⟩).2.exchanges

/-- A failed call of the store stops a pass with a report of its text, and the pass is retried at
once. -/
theorem reported_failed {i : NodeIntent} {now : Instant} {phase : Phase} {error : StoreError}
    {t : List Exchange} {result : Except Failure Outcome}
    (h : Reported i (endCondition now (.error (.failed phase (.store error)))).state
      (endOutcome (.error (.failed phase (.store error)))) t result) :
    Reported i ⟨.fails, .failed, error.message⟩ ⟨phase, .immediate⟩ t result := by
  have hrequeue : Requeue.afterFailure phase (.store error) = .immediate := by
    simp [Requeue.afterFailure, Failure.isStoreTrouble]
  have houtcome : endOutcome (.error (.failed phase (.store error))) = ⟨phase, .immediate⟩ := by
    rw [endOutcome, Stop.outcome, hrequeue]
  rw [houtcome] at h
  exact h

/-- **A pass on a store that is listened to is a pass on the store**, and all that is heard of it is
a trace of a pass. -/
theorem passTrace (e : Engine) (s : Store σ) (c : Connector σ) (key : ObjectKey) (now : Instant)
    (x : σ) : ∃ l, e.pass s.heard c.unheard key now ⟨x, []⟩ =
        ((e.pass s c key now x).1, ⟨(e.pass s c key now x).2, l⟩) ∧
      PassTrace key (s.getIntent key x).1 l (e.pass s c key now x).1 := by
  have hread : s.heard.getIntent key = (s.getIntent key).heard (.getIntent key) := rfl
  rw [pass, pass, Action.run_bind, Action.run_bind, Action.run_mapError, Action.run_mapError, hread,
    Action.run_heard]
  rcases s.getIntent key x with ⟨error | _ | i, y⟩
  · exact ⟨_, rfl, .unread⟩
  · exact ⟨_, rfl, .unreported .nil⟩
  simp only [Except.mapError, List.nil_append]
  cases i.metadata.isDeleted with
  | false =>
    simp only [Bool.false_eq_true, if_false]
    obtain ⟨t, hdeploy, htrace⟩ := traces_deploy e s c key i y [⟨.getIntent key, none⟩] rfl
    rw [Action.run_bind, Action.run_bind, Action.run_attempt, Action.run_attempt, hdeploy]
    rcases hended : e.deploy s c key i y with ⟨ended, z⟩
    rw [hended] at htrace
    obtain ⟨u, hconclude, hreported⟩ :=
      reported_conclude s i now ended z ([⟨.getIntent key, none⟩] ++ t)
    refine ⟨_, hconclude, ?_⟩
    rw [List.append_assoc, List.singleton_append]
    cases htrace with
    | value answered => exact .reported answered hreported
    | error answered => exact .reported answered hreported
    | failed answered hphase hblame =>
      obtain rfl := hblame
      rw [List.append_assoc, List.singleton_append]
      exact .failed answered hphase (reported_failed hreported)
  | true =>
    have hrelease : s.heard.removeFinalizer i intentFinalizer =
        (s.removeFinalizer i intentFinalizer).heard (.removeFinalizer i intentFinalizer) := rfl
    simp only [if_true, finalize]
    rw [Action.run_bind, Action.run_bind, Action.run_attempt, Action.run_attempt, hrelease,
      Action.run_heard]
    rcases s.removeFinalizer i intentFinalizer y with ⟨error | _, z⟩
    · obtain ⟨u, hconclude, hreported⟩ := reported_conclude s i now
        (.error (.failed .finalizing (.store error))) z
        [⟨.getIntent key, none⟩, ⟨.removeFinalizer i intentFinalizer, some error⟩]
      refine ⟨_, hconclude, ?_⟩
      exact .failed .nil rfl (reported_failed hreported)
    · exact ⟨_, rfl, .unreported (.single rfl)⟩

/-- **What becomes of the faults of a store.** Whatever the calls of the store and the device do, to
listen to the calls of a pass changes nothing, and a pass fails exactly if the intent could not be
read or its status not be recorded, and with this failure. Any other call that fails is the last
before the report: all calls before it were answered, the pass stops in the phase that the call
belongs to and is retried at once, the text of the failure is reported unless it was reported
before, and the store is not called for anything else. -/
theorem faults_of_pass (e : Engine) (s : Store σ) (c : Connector σ) (key : ObjectKey)
    (now : Instant) (x : σ) :
    e.pass s.heard c.unheard key now ⟨x, []⟩ = ((e.pass s c key now x).1,
      ⟨(e.pass s c key now x).2, e.exchanges s c key now x⟩) ∧
    (∀ f, (e.pass s c key now x).1 = .error f ↔ ∃ request error,
      (⟨request, some error⟩ : Exchange) ∈ e.exchanges s c key now x ∧ request.isVital = true ∧
        f = .store error) ∧
    ∀ request error, (⟨request, some error⟩ : Exchange) ∈ e.exchanges s c key now x →
      request.isVital = false → ∃ i before after phase,
        (s.getIntent key x).1 = .ok (some i) ∧
        e.exchanges s c key now x = before ++ ⟨request, some error⟩ :: after ∧
        (∀ y ∈ before, y.failure = none) ∧ request.phase? (podSought before) = some phase ∧
        Reported i ⟨.fails, .failed, error.message⟩ ⟨phase, .immediate⟩ after
          (e.pass s c key now x).1 := by
  obtain ⟨l, hrun, htrace⟩ := passTrace e s c key now x
  have hheard : e.exchanges s c key now x = l := by rw [exchanges, hrun]
  rw [hheard]
  refine ⟨hrun, htrace.eq_error_iff, ?_⟩
  intro request error hmem hstep
  exact htrace.of_failure hmem hstep

end Engine

namespace Sample

def outage : Store (World Bench) :=
  { World.store with listConfigs := fun _ => throw (.backend "no connection") }

end Sample

/-- Where the configurations cannot be listed, a pass stops in the phase that lists them. -/
theorem Engine.faults_of_pass_sample :
    (⟨.listConfigs "fabric", some (.backend "no connection")⟩ : Exchange) ∈
      ({} : Engine).exchanges Sample.outage (World.link Bench.connector) Sample.key default
        ⟨Sample.memory "first", {}⟩ ∧
    (StoreRequest.listConfigs "fabric").isVital = false ∧
    ∃ i before after, (Sample.outage.getIntent Sample.key ⟨Sample.memory "first", {}⟩).1 =
        .ok (some i) ∧
      ({} : Engine).exchanges Sample.outage (World.link Bench.connector) Sample.key default
        ⟨Sample.memory "first", {}⟩ =
          before ++ ⟨.listConfigs "fabric", some (.backend "no connection")⟩ :: after ∧
      Reported i ⟨.fails, .failed, "no connection"⟩ ⟨.resolving, .immediate⟩ after
        (({} : Engine).pass Sample.outage (World.link Bench.connector) Sample.key default
          ⟨Sample.memory "first", {}⟩).1 := by
  have hmem : (⟨.listConfigs "fabric", some (.backend "no connection")⟩ : Exchange) ∈
      ({} : Engine).exchanges Sample.outage (World.link Bench.connector) Sample.key default
        ⟨Sample.memory "first", {}⟩ :=
    List.mem_cons_of_mem _ (List.mem_cons_of_mem _ List.mem_cons_self)
  obtain ⟨-, -, hfaults⟩ := faults_of_pass {} Sample.outage (World.link Bench.connector) Sample.key
    default ⟨Sample.memory "first", {}⟩
  obtain ⟨i, before, after, phase, hread, hlog, -, hphase, hreported⟩ := hfaults _ _ hmem rfl
  obtain rfl : Phase.resolving = phase := Option.some.inj hphase
  exact ⟨hmem, rfl, i, before, after, hread, hlog, hreported⟩

end NodeDeploy
