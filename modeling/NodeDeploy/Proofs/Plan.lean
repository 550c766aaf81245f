import NodeDeploy.Proofs.Objects
import NodeDeploy.Proofs.World

/-! # Plans

What a pass is going to do depends on the intent and on the configurations only: which driver, which
configuration, and which objects shall be there. A plan is all of it, and the way to a ready node
falls into making the plan and carrying it out.

* `Engine.plan` is the plan, or why there is none. `plan_eq_ok_iff` says when there is one and what
  is in it.
* `Plan.prepared` is the memory with the finalizer, the claims and the attachments of a plan.
* `run_deploy_of_plan` and `run_deploy_of_no_plan`: what the engine does to a world before it
  converges the workload. Without a plan it only adds the finalizer, since an intent for which
  something cannot be built claims and attaches nothing.
-/

namespace NodeDeploy

/-! ## The choice of the configuration -/

def Memory.configOf (configNamespace : Option String) (provider : String) (i : NodeIntent)
    (m : Memory) : Except Failure NodeConfig := do
  let key ← i.objectKey
  let scope := configNamespace.getD key.ns
  match i.spec.parametersRef with
  | some reference =>
    let key : ObjectKey := ⟨reference.ns.getD scope, reference.name⟩
    match m.configs.find? key with
    | some c => .ok c
    | none => .error (.notFound ResourceKind.nodeConfig.kind key)
  | none => .ok (chooseConfig (m.listConfigs scope) scope provider key.name)

theorem Memory.configOf_congr {m n : Memory} (h : m.configs = n.configs)
    (configNamespace : Option String) (provider : String) (i : NodeIntent) :
    m.configOf configNamespace provider i = n.configOf configNamespace provider i := by
  simp only [Memory.configOf, Memory.listConfigs, h]

theorem run_resolveConfig {δ : Type} (configNamespace : Option String) (provider : String)
    (i : NodeIntent) (m : Memory) (d : δ) :
    resolveConfig World.store configNamespace provider i ⟨m, d⟩ =
      (m.configOf configNamespace provider i, ⟨m, d⟩) := by
  rw [resolveConfig, Memory.configOf, Action.run_bind, Action.run_ofExcept]
  rcases i.objectKey with f | key
  · rfl
  simp only [bind, Except.bind]
  rcases i.spec.parametersRef with _ | reference
  · rfl
  have hget (k : ObjectKey) : World.store.getConfig k ⟨m, d⟩ = (.ok (m.configs.find? k), ⟨m, d⟩) :=
    rfl
  refine (Action.run_bind_ok (Engine.run_storeCall (hget _)) _).trans ?_
  dsimp only
  generalize m.configs.find? _ = found
  rcases found with _ | c <;> rfl

/-! ## Plans -/

/-- What a pass wants to be there. -/
structure Plan where
  driver : Driver
  config : NodeConfig
  claims : List VolumeClaim
  attachments : List NetworkAttachment
  pod : Pod

namespace Engine

def resolved (e : Engine) (m : Memory) (i : NodeIntent) : Except Failure (Driver × NodeConfig) := do
  let driver ← e.registry.resolve i.spec.provider
  let config ← m.configOf e.configNamespace driver.provider i
  driver.validate config
  .ok (driver, config)

def selected (e : Engine) (driver : Driver) (i : NodeIntent) :
    Except Failure (List NetworkAttachment) :=
  if e.attachNetworks then driver.attachments i else .ok []

def plan (e : Engine) (m : Memory) (i : NodeIntent) : Except Stop Plan := do
  let (driver, config) ← (e.resolved m i).mapError (.failed .resolving)
  let claims ← (driver.claims i config).mapError (.failed .attaching)
  let attachments ← (e.selected driver i).mapError (.failed .attaching)
  let pod ← (driver.workload i config attachments).mapError (.failed .converging)
  .ok ⟨driver, config, claims, attachments, pod⟩

end Engine

/-- The memory with the finalizer, the claims and the attachments of a plan. -/
def Plan.prepared (p : Plan) (i : NodeIntent) (m : Memory) : Memory :=
  ((m.addFinalizer i intentFinalizer).applyClaims p.claims).applyAttachments p.attachments

theorem Plan.prepared_eq (p : Plan) (i : NodeIntent) (m : Memory) : p.prepared i m =
    { m with
      intents := (m.addFinalizer i intentFinalizer).intents
      claims := (p.prepared i m).claims
      claimWrites := (p.prepared i m).claimWrites
      attachments := (p.prepared i m).attachments
      attachmentWrites := (p.prepared i m).attachmentWrites } := by
  rw [prepared, Memory.applyAttachments_eq, Memory.applyClaims_eq]
  rfl

namespace Plan

variable {p : Plan} {i : NodeIntent} {m n : Memory} {k : ObjectKey}

theorem find?_claims_prepared (p : Plan) (i : NodeIntent) (m : Memory) (k : ObjectKey) :
    (p.prepared i m).claims.find? k =
      (m.claims.find? k).or (p.claims.find? fun c => c.metadata.key = k) := by
  rw [prepared, Memory.claims_applyAttachments, Memory.find?_applyClaims]
  rfl

/-- What is attached under other keys does not count. -/
theorem find?_attachments_prepared_congr (h : m.attachments.find? k = n.attachments.find? k) :
    (p.prepared i m).attachments.find? k = (p.prepared i n).attachments.find? k := by
  refine Memory.find?_applyAttachments_congr ?_ p.attachments
  rw [Memory.attachments_applyClaims, Memory.attachments_applyClaims]
  exact h

theorem find?_attachments_prepared_ne (h : ∀ a ∈ p.attachments, k ≠ a.metadata.key) :
    (p.prepared i m).attachments.find? k = m.attachments.find? k := by
  rw [prepared, Memory.find?_applyAttachments_ne h, Memory.attachments_applyClaims]
  rfl

end Plan

namespace Engine

variable {δ : Type} {e : Engine} {m : Memory} {i : NodeIntent}

theorem plan_eq_ok_iff {p : Plan} : e.plan m i = .ok p ↔
    e.resolved m i = .ok (p.driver, p.config) ∧ p.driver.claims i p.config = .ok p.claims ∧
      e.selected p.driver i = .ok p.attachments ∧
      p.driver.workload i p.config p.attachments = .ok p.pod := by
  simp only [plan, bind_eq_ok_iff, mapError_eq_ok_iff, Prod.exists, Except.ok.injEq]
  constructor
  · rintro ⟨driver, config, hr, claims, hc, attachments, ha, pod, hp, rfl⟩
    exact ⟨hr, hc, ha, hp⟩
  · rintro ⟨hr, hc, ha, hp⟩
    exact ⟨p.driver, p.config, hr, p.claims, hc, p.attachments, ha, p.pod, hp, rfl⟩

theorem selected_of_identified (h : i.Identified) (driver : Driver) :
    ∃ l, e.selected driver i = .ok l := by
  rw [selected]
  split
  · exact Driver.attachments_of_identified h
  · exact ⟨[], rfl⟩

theorem not_identified_of_selected {driver : Driver} {f : Failure}
    (h : e.selected driver i = .error f) : ¬i.Identified := by
  intro hi
  obtain ⟨l, hl⟩ := selected_of_identified (e := e) hi driver
  rw [hl] at h
  cases h

theorem selected_eq_nil (h : ¬i.Identified) {driver : Driver} {l : List NetworkAttachment}
    (hl : e.selected driver i = .ok l) : l = [] := by
  rw [selected] at hl
  split at hl
  · exact Driver.attachments_eq_nil h hl
  · exact (Except.ok.inj hl).symm

theorem selected_injective {driver : Driver} {l : List NetworkAttachment}
    (hl : e.selected driver i = .ok l) {a b : NetworkAttachment} (ha : a ∈ l) (hb : b ∈ l)
    (h : a.metadata.key = b.metadata.key) : a = b := by
  rw [selected] at hl
  split at hl
  · exact Driver.attachments_injective hl ha hb h
  · obtain rfl : [] = l := Except.ok.inj hl
    exact absurd ha List.not_mem_nil

theorem exists_of_mem_selected {driver : Driver} {l : List NetworkAttachment}
    (hl : e.selected driver i = .ok l) {a : NetworkAttachment} (ha : a ∈ l) :
    ∃ interface ∈ driver.interfaces, i.networkAttachment interface = .ok a := by
  rw [selected] at hl
  split at hl
  · exact Driver.exists_of_mem_attachments hl ha
  · obtain rfl : [] = l := Except.ok.inj hl
    exact absurd ha List.not_mem_nil

/-- A selected attachment is named after the intent and an interface that the driver wires. -/
theorem key_of_selected {driver : Driver} {l : List NetworkAttachment}
    (hl : e.selected driver i = .ok l) {a : NetworkAttachment} (ha : a ∈ l) :
    ∃ interface ∈ driver.interfaces,
      a.metadata.key = ⟨i.metadata.key.ns, partName i.metadata.displayName interface⟩ := by
  obtain ⟨interface, hmem, hi⟩ := exists_of_mem_selected hl ha
  exact ⟨interface, hmem, (NodeIntent.networkAttachment_spec hi).2⟩

theorem key_of_plan {p : Plan} (hp : e.plan m i = .ok p) : p.pod.metadata.key = i.metadata.key :=
  (Driver.workload_spec (plan_eq_ok_iff.1 hp).2.2.2).2.2.1

/-- **There is a plan exactly if there is a configuration that the driver accepts and the intent is
identified.** -/
theorem exists_plan_iff {driver : Driver} {config : NodeConfig} :
    (∃ p, e.plan m i = .ok p ∧ p.driver = driver ∧ p.config = config) ↔
      e.resolved m i = .ok (driver, config) ∧ i.Identified := by
  constructor
  · rintro ⟨p, hp, rfl, rfl⟩
    obtain ⟨hr, -, -, hw⟩ := plan_eq_ok_iff.1 hp
    exact ⟨hr, (Driver.workload_spec hw).1⟩
  · rintro ⟨hr, hi⟩
    obtain ⟨claims, hc⟩ := Driver.claims_of_identified (d := driver) hi config
    obtain ⟨attachments, ha⟩ := selected_of_identified (e := e) hi driver
    obtain ⟨pod, hw⟩ := Driver.workload_of_identified (d := driver) hi config attachments
    exact ⟨⟨driver, config, claims, attachments, pod⟩, plan_eq_ok_iff.2 ⟨hr, hc, ha, hw⟩, rfl, rfl⟩

theorem plan_congr {n : Memory} (h : m.configs = n.configs) (i : NodeIntent) :
    e.plan m i = e.plan n i := by
  simp only [plan, resolved, Memory.configOf_congr h]

/-- Neither the finalizers nor the status of an intent count. -/
theorem plan_withStatus (m : Memory) (i : NodeIntent) (finalizers : Option (List String))
    (status : Option NodeIntentStatus) :
    e.plan m { i with metadata := { i.metadata with finalizers }, status } = e.plan m i := rfl

/-! ## Making the plan -/

theorem run_resolve (m : Memory) (i : NodeIntent) (d : δ) :
    e.resolve World.store i ⟨m, d⟩ = (e.resolved m i, ⟨m, d⟩) := by
  rw [resolve, resolved, Action.run_bind, Action.run_ofExcept]
  rcases e.registry.resolve i.spec.provider with f | driver
  · rfl
  have hrun := run_resolveConfig e.configNamespace driver.provider i m d
  rcases hc : m.configOf e.configNamespace driver.provider i with f | config
  · rw [hc] at hrun
    simp only [bind, Except.bind, hc]
    exact Action.run_bind_error hrun _
  · rw [hc] at hrun
    simp only [bind, Except.bind, hc]
    refine (Action.run_bind_ok hrun _).trans ?_
    show (Action.ofExcept (driver.validate config) >>= fun _ => pure (driver, config) :
      Action (World δ) Failure (Driver × NodeConfig)) ⟨m, d⟩ = _
    rw [Action.run_bind, Action.run_ofExcept]
    rcases driver.validate config with f | _ <;> rfl

theorem run_attach {driver : Driver} {config : NodeConfig} {claims : List VolumeClaim}
    (hc : driver.claims i config = .ok claims) (m : Memory) (d : δ) :
    e.attach World.store driver i config ⟨m, d⟩ = match e.selected driver i with
      | .ok l => (.ok l, ⟨(m.applyClaims claims).applyAttachments l, d⟩)
      | .error f => (.error f, ⟨m.applyClaims claims, d⟩) := by
  rw [attach, Action.run_bind, Action.run_ofExcept, hc, selected]
  refine (Action.run_bind_ok (run_applyClaims claims m d) _).trans ?_
  split
  · rw [Action.run_bind, Action.run_ofExcept]
    rcases driver.attachments i with f | l
    · rfl
    · exact Action.run_bind_ok (run_applyAttachments l _ d) _
  · rfl

theorem run_attach_of_unclaimed {driver : Driver} {config : NodeConfig} {f : Failure}
    (hc : driver.claims i config = .error f) (m : Memory) (d : δ) :
    e.attach World.store driver i config ⟨m, d⟩ = (.error f, ⟨m, d⟩) := by
  rw [attach, Action.run_bind, Action.run_ofExcept, hc]

theorem run_step {α : Type} {phase : Phase} {a : Action (World δ) Failure α} {w v : World δ}
    {r : Except Failure α} (h : a w = (r, v)) :
    step phase a w = (r.mapError (.failed phase), v) := by
  rw [step, Action.run_mapError, h]

/-- The part of a pass that carries out a plan. -/
def carryOut (e : Engine) (c : Connector (World δ)) (key : ObjectKey) (i : NodeIntent) (p : Plan) :
    Action (World δ) Stop Unit := do
  let _ ← step .converging (converge World.store p.pod)
  let addresses ← awaitReady World.store key
  step .bootstrapping (e.configure World.store c p.driver key.ns i addresses)

theorem run_addFinalizer (m : Memory) (i : NodeIntent) (d : δ) :
    storeStep .resolving (World.store.addFinalizer i intentFinalizer) ⟨m, d⟩ =
      (.ok (), ⟨m.addFinalizer i intentFinalizer, d⟩) := rfl

/-- **What a pass does before it converges the workload**, if there is a plan. -/
theorem run_deploy_of_plan {p : Plan} (h : e.plan m i = .ok p) (c : Connector (World δ))
    (key : ObjectKey) (d : δ) :
    e.deploy World.store c key i ⟨m, d⟩ = e.carryOut c key i p ⟨p.prepared i m, d⟩ := by
  have hplan : e.plan (m.addFinalizer i intentFinalizer) i = .ok p := (plan_congr rfl i).trans h
  obtain ⟨hr, hc, ha, hw⟩ := plan_eq_ok_iff.1 hplan
  have hresolve := run_resolve (e := e) (m.addFinalizer i intentFinalizer) i d
  have hattach := run_attach (e := e) hc (m.addFinalizer i intentFinalizer) d
  rw [hr] at hresolve
  rw [ha] at hattach
  rw [deploy, Action.run_bind_ok (run_addFinalizer m i d), Action.run_bind_ok (run_step hresolve)]
  refine (Action.run_bind_ok (run_step hattach) _).trans ?_
  rw [hw]
  rfl

/-- **What a pass does if there is no plan**: it adds the finalizer, and nothing else. -/
theorem run_deploy_of_no_plan {stop : Stop} (h : e.plan m i = .error stop)
    (c : Connector (World δ)) (key : ObjectKey) (d : δ) :
    e.deploy World.store c key i ⟨m, d⟩ =
      (.error stop, ⟨m.addFinalizer i intentFinalizer, d⟩) := by
  have hplan : e.plan (m.addFinalizer i intentFinalizer) i = .error stop :=
    (plan_congr rfl i).trans h
  have hresolve := run_resolve (e := e) (m.addFinalizer i intentFinalizer) i d
  rw [deploy, Action.run_bind_ok (run_addFinalizer m i d)]
  rcases hr : e.resolved (m.addFinalizer i intentFinalizer) i with f | ⟨driver, config⟩
  · simp only [plan, hr, bind, Except.bind, Except.mapError] at hplan
    cases hplan
    rw [hr] at hresolve
    exact Action.run_bind_error (run_step hresolve) _
  rw [hr] at hresolve
  rw [Action.run_bind_ok (run_step hresolve)]
  rcases hc : driver.claims i config with f | claims
  · simp only [plan, hr, hc, bind, Except.bind, Except.mapError] at hplan
    cases hplan
    exact Action.run_bind_error (run_step (run_attach_of_unclaimed hc _ d)) _
  have hattach := run_attach (e := e) hc (m.addFinalizer i intentFinalizer) d
  rcases ha : e.selected driver i with f | attachments
  · -- An attachment that cannot be built means that no claim could be built either.
    simp only [plan, hr, hc, ha, bind, Except.bind, Except.mapError] at hplan
    cases hplan
    obtain rfl := Driver.claims_eq_nil (not_identified_of_selected ha) hc
    rw [ha] at hattach
    exact Action.run_bind_error (run_step hattach) _
  rcases hw : driver.workload i config attachments with f | pod
  · simp only [plan, hr, hc, ha, hw, bind, Except.bind, Except.mapError] at hplan
    cases hplan
    have hi := Driver.not_identified_of_workload hw
    obtain rfl := Driver.claims_eq_nil hi hc
    obtain rfl := selected_eq_nil hi ha
    rw [ha] at hattach
    refine (Action.run_bind_ok (run_step hattach) _).trans ?_
    rw [hw]
    rfl
  · simp only [plan, hr, hc, ha, hw, bind, Except.bind, Except.mapError] at hplan
    cases hplan

end Engine

end NodeDeploy
