import NodeDeploy.Proofs.Secrecy

/-! # Where a device is called

A workload is called at the first of its addresses, and only once it has one: what a pass finds in
the status of the pod is never an empty list, so that a bootstrap never lacks an address.

* `PodStatus.Tells` is what a status tells of the addresses of its workload, by rules that exclude
  each other. `tells_iff`: it is what `Pod.addresses` finds.
* `Engine.settle` is the way to a ready node up to the wait for the workload, and
  `Engine.errandFor` the way up to the session. `deploy_eq_errand`: a connector is of no account
  before, so that all that it does on the way is one errand.
* `Called` is the pod that an errand goes to, and `called_of_errandFor` says that it is the one that
  was asked for last.
* `first_address_called` is the result.
-/

namespace NodeDeploy

/-! ## What a status tells -/

/-- What a status tells of the addresses of its workload, or why it has none to be called at. -/
inductive PodStatus.Tells : Option PodStatus → Except String (List String) → Prop where
  /-- Nothing is known of a first container. -/
  | unknown {status : Option PodStatus}
    (h : ∀ s first rest, status = some s → s.containerStatuses ≠ some (first :: rest)) :
    Tells status (.error "pod conditions empty")
  /-- The first container is not ready, whatever the addresses. -/
  | starting {s : PodStatus} {first : ContainerStatus} {rest : List ContainerStatus}
    (hfirst : s.containerStatuses = some (first :: rest)) (hready : first.ready = false) :
    Tells (some s) (.error "pod not ready")
  /-- Neither the list nor the single address has any text. -/
  | nowhere {s : PodStatus} {first : ContainerStatus} {rest : List ContainerStatus}
    (hfirst : s.containerStatuses = some (first :: rest)) (hready : first.ready = true)
    (hlist : ∀ address ∈ s.podIPs.getD [], address = "")
    (hsingle : ∀ address, s.podIP = some address → address = "") :
    Tells (some s) (.error "no ip provided")
  /-- The list has addresses, of which those with a text count, in their order. -/
  | listed {s : PodStatus} {first : ContainerStatus} {rest : List ContainerStatus}
    (hfirst : s.containerStatuses = some (first :: rest)) (hready : first.ready = true)
    {l : List String} (hl : l = (s.podIPs.getD []).filter (· ≠ "")) (hne : l ≠ []) :
    Tells (some s) (.ok l)
  /-- The list has none, and the single address has a text. -/
  | single {s : PodStatus} {first : ContainerStatus} {rest : List ContainerStatus}
    (hfirst : s.containerStatuses = some (first :: rest)) (hready : first.ready = true)
    (hlist : ∀ address ∈ s.podIPs.getD [], address = "")
    {address : String} (hsingle : s.podIP = some address) (hne : address ≠ "") :
    Tells (some s) (.ok [address])

namespace PodStatus

variable {s : PodStatus}

theorem filter_isEmpty (l : List String) : l.filter (!·.isEmpty) = l.filter (· ≠ "") := by
  refine List.filter_congr fun address _ => ?_
  rw [Bool.eq_iff_iff]
  simp

theorem addresses_of_list (h : (s.podIPs.getD []).filter (· ≠ "") ≠ []) :
    s.addresses = (s.podIPs.getD []).filter (· ≠ "") := by
  rw [addresses, filter_isEmpty]
  split
  · next hnil => exact absurd hnil h
  · rfl

theorem addresses_of_single (h : ∀ address ∈ s.podIPs.getD [], address = "") :
    s.addresses = s.podIP.toList.filter (· ≠ "") := by
  have hnil : (s.podIPs.getD []).filter (· ≠ "") = [] := by
    simpa [List.filter_eq_nil_iff] using h
  rw [addresses, filter_isEmpty, hnil]
  exact filter_isEmpty _

end PodStatus

namespace Pod

variable {p : Pod} {s : PodStatus} {first : ContainerStatus} {rest : List ContainerStatus}

theorem addresses_of_starting (hs : p.status = some s)
    (hfirst : s.containerStatuses = some (first :: rest)) (hready : first.ready = false) :
    p.addresses = .error .notReady := by
  simp [addresses, hs, PodStatus.firstContainer?, hfirst, hready]

theorem addresses_of_ready (hs : p.status = some s)
    (hfirst : s.containerStatuses = some (first :: rest)) (hready : first.ready = true) :
    p.addresses = if s.addresses = [] then .error .noAddress else .ok s.addresses := by
  simp [addresses, hs, PodStatus.firstContainer?, hfirst, hready]

theorem addresses_of_unknown
    (h : ∀ s first rest, p.status = some s → s.containerStatuses ≠ some (first :: rest)) :
    p.addresses = .error .noConditions := by
  rw [addresses]
  rcases hs : p.status with _ | s
  · rfl
  · rcases hc : s.containerStatuses with _ | _ | ⟨first, rest⟩
    · simp [PodStatus.firstContainer?, hc]
    · simp [PodStatus.firstContainer?, hc]
    · exact absurd hc (h s first rest hs)

/-- **What is found in a status is what it tells.** -/
theorem tells_iff (p : Pod) (r : Except String (List String)) :
    p.addresses.mapError Unready.message = r ↔ PodStatus.Tells p.status r := by
  constructor
  · rintro rfl
    by_cases hunknown :
        ∀ s first rest, p.status = some s → s.containerStatuses ≠ some (first :: rest)
    · rw [addresses_of_unknown hunknown]
      exact .unknown hunknown
    simp only [not_forall, not_not] at hunknown
    obtain ⟨s, first, rest, hs, hfirst⟩ := hunknown
    rw [hs]
    cases hready : first.ready with
    | false =>
      rw [addresses_of_starting hs hfirst hready]
      exact .starting hfirst hready
    | true =>
      rw [addresses_of_ready hs hfirst hready]
      by_cases hlist : ∀ address ∈ s.podIPs.getD [], address = ""
      · rw [PodStatus.addresses_of_single hlist]
        rcases hip : s.podIP with _ | address
        · exact .nowhere hfirst hready hlist (by simp [hip])
        by_cases hne : address = ""
        · subst hne
          exact .nowhere hfirst hready hlist (by simp [hip])
        · have hsome : (some address).toList.filter (· ≠ "") = [address] := by simp [hne]
          rw [hsome, if_neg (List.cons_ne_nil _ _)]
          exact .single hfirst hready hlist hip hne
      · have hne : (s.podIPs.getD []).filter (· ≠ "") ≠ [] := by
          simpa [List.filter_eq_nil_iff] using hlist
        rw [PodStatus.addresses_of_list hne, if_neg hne]
        exact .listed hfirst hready rfl hne
  · intro h
    rcases hs : p.status with _ | s
    · rw [hs] at h
      cases h
      rw [addresses_of_unknown (by simp [hs])]
      rfl
    · rw [hs] at h
      cases h with
      | unknown h =>
        rw [addresses_of_unknown (hs ▸ h)]
        rfl
      | starting hfirst hready =>
        rw [addresses_of_starting hs hfirst hready]
        rfl
      | nowhere hfirst hready hlist hsingle =>
        have hnil : s.podIP.toList.filter (· ≠ "") = [] := by
          simpa [List.filter_eq_nil_iff] using hsingle
        rw [addresses_of_ready hs hfirst hready, PodStatus.addresses_of_single hlist, if_pos hnil]
        rfl
      | listed hfirst hready hl hne =>
        subst hl
        rw [addresses_of_ready hs hfirst hready, PodStatus.addresses_of_list hne, if_neg hne]
        rfl
      | @single _ _ _ hfirst hready hlist address hsingle hne =>
        have hone : s.podIP.toList.filter (· ≠ "") = [address] := by simp [hsingle, hne]
        rw [addresses_of_ready hs hfirst hready, PodStatus.addresses_of_single hlist, hone,
          if_neg (List.cons_ne_nil _ _)]
        rfl

end Pod

theorem ne_empty_of_podAddresses {pod? : Option Pod} {l : List String}
    (h : podAddresses pod? = .ok l) : "" ∉ l := by
  rcases pod? with _ | p
  · cases h
  have htells := (Pod.tells_iff p (.ok l)).1 (congrArg (Except.mapError Unready.message) h)
  rcases hs : p.status with _ | s
  · rw [hs] at htells
    cases htells
  · rw [hs] at htells
    cases htells with
    | listed _ _ hl => simp [hl]
    | single _ _ _ _ hne => simpa using hne.symm

/-! ## The way to the session -/

namespace Engine

variable {σ : Type}

/-- The way to a ready node up to the wait for the workload. -/
def settle (e : Engine) (s : Store σ) (i : NodeIntent) : Action σ Stop Driver := do
  storeStep .resolving (s.addFinalizer i intentFinalizer)
  let (driver, config) ← step .resolving (e.resolve s i)
  let attachments ← step .attaching (e.attach s driver i config)
  let wanted ← step .converging (.ofExcept (driver.workload i config attachments))
  let _ ← step .converging (converge s wanted)
  pure driver

/-- Fetches the secrets for a device that has addresses: the errand to it. -/
def gather (e : Engine) (s : Store σ) (driver : Driver) (ns : String) (i : NodeIntent)
    (addresses : List String) : Action σ Failure (Option Errand) :=
  match driver.secrets? i with
  | some secrets => do
    let login ← credentials s ⟨ns, secrets.credentials⟩
    let bundle ← certificates s ⟨ns, secrets.certificates⟩
    .ofExcept (driver.errand e.sshPort addresses login bundle)
  | none => pure none

/-- The way to a ready node up to the session: the errand that is left. -/
def errandFor (e : Engine) (s : Store σ) (key : ObjectKey) (i : NodeIntent) :
    Action σ Stop (Option Errand) := do
  let driver ← e.settle s i
  let addresses ← awaitReady s key
  step .bootstrapping (e.gather s driver key.ns i addresses)

def carry (c : Connector σ) : Option Errand → Action σ Failure Unit
  | some r => (c.runScript r.target r.script).mapError .bootstrap
  | none => pure ()

theorem bootstrap_eq_errand (c : Connector σ) (driver : Driver) (sshPort : Nat)
    (addresses : List String) (login : Credentials) (bundle : CertificateBundle) :
    driver.bootstrap c sshPort addresses login bundle =
      (do
        let r ← .ofExcept (driver.errand sshPort addresses login bundle)
        carry c r) := by
  cases driver with
  | network layout family =>
    cases addresses with
    | nil => rfl
    | cons address rest => rfl
  | server provider => rfl

theorem configure_eq_errand (e : Engine) (s : Store σ) (c : Connector σ) (driver : Driver)
    (ns : String) (i : NodeIntent) (addresses : List String) :
    e.configure s c driver ns i addresses =
      (do
        let r ← e.gather s driver ns i addresses
        carry c r) := by
  rw [configure, gather]
  rcases driver.secrets? i with _ | secrets
  · rfl
  · simp only [bootstrap, bootstrap_eq_errand, bind_assoc]

theorem step_bind {α β : Type} (phase : Phase) (a : Action σ Failure α)
    (f : α → Action σ Failure β) :
    step phase (a >>= f) = (do
      let x ← step phase a
      step phase (f x)) := by
  funext s
  rw [step, Action.run_mapError, Action.run_bind, Action.run_bind, step, Action.run_mapError]
  rcases a s with ⟨_ | x, t⟩
  · rfl
  · exact (Action.run_mapError _ _ _).symm

/-- **Before the session, the connector is of no account**, and in it one errand is run. -/
theorem deploy_eq_errand (e : Engine) (s : Store σ) (c : Connector σ) (key : ObjectKey)
    (i : NodeIntent) : e.deploy s c key i = (do
      let r ← e.errandFor s key i
      step .bootstrapping (carry c r)) := by
  simp only [deploy, errandFor, settle, configure_eq_errand, step_bind, bind_assoc, pure_bind]

/-- A connector has a part only in an errand. -/
theorem deploy_of_no_errand {e : Engine} {s : Store σ} {key : ObjectKey} {i : NodeIntent} {x : σ}
    (h : ∀ r z, e.errandFor s key i x ≠ (.ok (some r), z)) (c c' : Connector σ) :
    e.deploy s c key i x = e.deploy s c' key i x := by
  rw [deploy_eq_errand, deploy_eq_errand, Action.run_bind, Action.run_bind]
  rcases he : e.errandFor s key i x with ⟨_ | _ | r, z⟩
  · rfl
  · rfl
  · exact absurd he (h r z)

/-- A pass that leaves its errand to someone. -/
def passLeaving (e : Engine) (s : Store σ) (key : ObjectKey) (now : Instant)
    (run : Option Errand → Action σ Failure Unit) : Action σ Failure Outcome := do
  match ← (s.getIntent key).mapError .store with
  | none => pure ⟨.fetching, .never⟩
  | some i =>
    if i.metadata.isDeleted then finalize s i now
    else
      let ended ← (do
        let r ← e.errandFor s key i
        step .bootstrapping (run r) : Action σ Stop Unit).attempt
      conclude s i now ended

theorem pass_eq_errand (e : Engine) (s : Store σ) (c : Connector σ) (key : ObjectKey)
    (now : Instant) : e.pass s c key now = e.passLeaving s key now (carry c) := by
  rw [pass, passLeaving]
  refine congrArg (_ >>= ·) (funext fun found => ?_)
  rcases found with _ | i
  · rfl
  · dsimp only
    rw [deploy_eq_errand]

end Engine

/-! ## Errands of passes over worlds -/

/-- A connector whose sessions do not open. -/
def Connector.unopened {δ : Type} (error : DeviceError) : Connector δ where
  openSession _ := throw error
  send _ _ _ := throw error
  close _ := throw error

namespace Engine

/-- What is left to be done on a device is the errand of a pass over a world: for another reason why
its session does not open, the way ends another way. -/
theorem exists_errandFor {δ : Type} {e : Engine} {key : ObjectKey} {i : NodeIntent} {m : Memory}
    {r : Errand} (hr : e.errand key i m = .ok (some r)) (d : δ) :
    ∃ r z, e.errandFor World.store key i (⟨m, d⟩ : World δ) = (.ok (some r), z) := by
  by_contra hnot
  have hno : ∀ r z, e.errandFor World.store key i (⟨m, d⟩ : World δ) ≠ (.ok (some r), z) :=
    fun r z h => hnot ⟨r, z, h⟩
  have hends : ∀ error, (e.deploy World.store (World.link (.unopened error)) key i
      (⟨m, d⟩ : World δ)).1 = .error (.failed .bootstrapping (.bootstrap error)) := by
    intro error
    rw [deploy_eq, ending, hr]
    rfl
  have hsame := (hends .transport).symm.trans
    ((congrArg Prod.fst (deploy_of_no_errand hno _ _)).trans (hends (.channelClosed "")))
  cases hsame

end Engine

theorem Sample.exists_errandFor {δ : Type} (d : δ) : ∃ r z, ({} : Engine).errandFor World.store key
    intent (⟨memory "first", d⟩ : World δ) = (.ok (some r), z) := by
  obtain ⟨target, herrand⟩ :=
    Engine.Reaches.errand (e := {}) (i := intent) (reaches extracted_first)
  exact Engine.exists_errandFor herrand d

namespace Engine

variable {σ : Type}

/-! ## Where an errand goes -/

/-- The target of an errand: the pod that was asked for when the workload was settled, at the first
of its addresses. -/
structure Called (e : Engine) (s : Store σ) (key : ObjectKey) (i : NodeIntent) (x : σ)
    (target : SessionTarget) : Prop where
  address : ∃ driver y pod z rest, e.settle s i x = (.ok driver, y) ∧
    s.getPod key y = (.ok (some pod), z) ∧ pod.addresses = .ok (target.address :: rest)
  sshPort : target.sshPort = e.sshPort

theorem run_bind_eq_ok {ε α β : Type} {a : Action σ ε α} {f : α → Action σ ε β} {x z : σ} {v : β}
    (h : (a >>= f) x = (.ok v, z)) : ∃ u y, a x = (.ok u, y) ∧ f u y = (.ok v, z) := by
  rw [Action.run_bind] at h
  rcases hx : a x with ⟨g | u, y⟩
  · rw [hx] at h
    cases h
  · rw [hx] at h
    exact ⟨u, y, rfl, h⟩

theorem run_mapError_eq_ok {ε φ α : Type} {a : Action σ ε α} {f : ε → φ} {x y : σ} {v : α}
    (h : a.mapError f x = (.ok v, y)) : a x = (.ok v, y) := by
  rw [Action.mapError] at h
  rcases hx : a x with ⟨g | u, z⟩
  · rw [hx] at h
    cases h
  · rw [hx] at h
    cases h
    rfl

/-- The wait ends well only with the addresses of the pod that is asked for. -/
theorem awaitReady_eq_ok {s : Store σ} {key : ObjectKey} {x y : σ} {l : List String}
    (h : awaitReady s key x = (.ok l, y)) :
    ∃ pod? z, s.getPod key x = (.ok pod?, z) ∧ podAddresses pod? = .ok l := by
  obtain ⟨pod?, z, hpod, h⟩ := run_bind_eq_ok h
  refine ⟨pod?, z, run_mapError_eq_ok (run_mapError_eq_ok hpod), ?_⟩
  rcases ha : podAddresses pod? with reason | l'
  · rw [ha] at h
    cases h
  · rw [ha] at h
    cases h
    rfl

theorem called_of_errandFor {e : Engine} {s : Store σ} {key : ObjectKey} {i : NodeIntent} {x z : σ}
    {r : Errand} (h : e.errandFor s key i x = (.ok (some r), z)) :
    e.Called s key i x r.target := by
  obtain ⟨driver, y, hsettle, h⟩ := run_bind_eq_ok h
  obtain ⟨addresses, w, hready, h⟩ := run_bind_eq_ok h
  obtain ⟨pod?, u, hpod, haddresses⟩ := awaitReady_eq_ok hready
  have h : e.gather s driver key.ns i addresses w = (.ok (some r), z) := run_mapError_eq_ok h
  rw [gather] at h
  rcases hsecrets : driver.secrets? i with _ | secrets
  · rw [hsecrets] at h
    cases h
  rw [hsecrets] at h
  obtain ⟨login, _, -, h⟩ := run_bind_eq_ok h
  obtain ⟨bundle, _, -, h⟩ := run_bind_eq_ok h
  rcases pod? with _ | pod
  · cases haddresses
  obtain ⟨address, rest, rfl⟩ := List.exists_cons_of_ne_nil (ne_nil_of_podAddresses haddresses)
  cases driver with
  | network layout family =>
    cases h
    exact ⟨⟨_, _, pod, _, rest, hsettle, hpod, haddresses⟩, rfl⟩
  | server provider => cases h

/-! ## What the way may fail with -/

/-- All that an action may fail with has a property. -/
def FailsWith {ε α : Type} (P : ε → Prop) (a : Action σ ε α) : Prop :=
  ∀ x f y, a x = (.error f, y) → P f

namespace FailsWith

variable {ε φ α β : Type} {P : ε → Prop}

theorem pure (v : α) : FailsWith P (pure v : Action σ ε α) := by
  intro x f y h
  cases h

theorem throw {f : ε} (h : P f) : FailsWith P (throw f : Action σ ε α) := by
  rintro x _ y ⟨⟩
  exact h

/-- What comes second starts from a value that the first has ended in. -/
theorem bind_of {a : Action σ ε α} {f : α → Action σ ε β} (ha : FailsWith P a)
    (hf : ∀ x v y, a x = (.ok v, y) → FailsWith P (f v)) : FailsWith P (a >>= f) := by
  intro x g y h
  rw [Action.run_bind] at h
  rcases hx : a x with ⟨g' | v, z⟩
  · rw [hx] at h
    cases h
    exact ha x _ _ hx
  · rw [hx] at h
    exact hf x v z hx z g y h

theorem bind {a : Action σ ε α} {f : α → Action σ ε β} (ha : FailsWith P a)
    (hf : ∀ v, FailsWith P (f v)) : FailsWith P (a >>= f) :=
  ha.bind_of fun _ v _ _ => hf v

/-- Whatever the action fails with, it is turned into what has the property. -/
theorem mapError {a : Action σ ε α} {f : ε → φ} {Q : φ → Prop} (h : ∀ g, Q (f g)) :
    FailsWith Q (a.mapError f) := by
  intro x g y hx
  rw [Action.mapError] at hx
  rcases ha : a x with ⟨g' | v, z⟩
  · rw [ha] at hx
    cases hx
    exact h g'
  · rw [ha] at hx
    cases hx

end FailsWith

theorem ne_notReady_of_step {α : Type} {phase : Phase} (hphase : phase ≠ .bootstrapping)
    (a : Action σ Failure α) (reason : String) :
    FailsWith (· ≠ .failed .bootstrapping (.notReady reason)) (step phase a) := by
  refine .mapError fun f h => ?_
  exact hphase (Stop.failed.inj h).1

/-- What the phases before the bootstrap fail with is not its failure. -/
theorem ne_notReady_of_settle (e : Engine) (s : Store σ) (i : NodeIntent) (reason : String) :
    FailsWith (· ≠ .failed .bootstrapping (.notReady reason)) (e.settle s i) := by
  refine .bind (ne_notReady_of_step (by decide) _ reason) fun _ => ?_
  refine .bind (ne_notReady_of_step (by decide) _ reason) fun _ => ?_
  refine .bind (ne_notReady_of_step (by decide) _ reason) fun attachments => ?_
  refine .bind (ne_notReady_of_step (by decide) _ reason) fun wanted => ?_
  exact .bind (ne_notReady_of_step (by decide) _ reason) fun _ => .pure _

theorem ne_notReady_of_requireSecret (s : Store σ) (key : ObjectKey) (reason : String) :
    FailsWith (· ≠ .notReady reason) (requireSecret s key) := by
  refine .bind (.mapError fun _ => Failure.noConfusion) fun found => ?_
  rcases found with _ | secret
  · exact .throw Failure.noConfusion
  · exact .pure secret

/-- With an address at hand, what is left is only to read the secrets. -/
theorem ne_notReady_of_gather (e : Engine) (s : Store σ) (driver : Driver) (ns : String)
    (i : NodeIntent) {addresses : List String} (hne : addresses ≠ []) (reason : String) :
    FailsWith (· ≠ .notReady reason) (e.gather s driver ns i addresses) := by
  obtain ⟨address, rest, rfl⟩ := List.exists_cons_of_ne_nil hne
  rw [gather]
  rcases driver.secrets? i with _ | secrets
  · exact .pure none
  have hlogin : FailsWith (· ≠ .notReady reason) (credentials s ⟨ns, secrets.credentials⟩) := by
    refine .bind (ne_notReady_of_requireSecret s _ reason) fun secret => ?_
    rcases Credentials.ofSecret? secret with _ | login
    · exact .throw Failure.noConfusion
    · exact .pure login
  have hbundle : FailsWith (· ≠ .notReady reason) (certificates s ⟨ns, secrets.certificates⟩) := by
    refine .bind (ne_notReady_of_requireSecret s _ reason) fun secret => ?_
    rcases CertificateBundle.ofSecret certificateProfile secret with part | bundle
    · exact .throw Failure.noConfusion
    · exact .pure bundle
  refine .bind hlogin fun login => .bind hbundle fun bundle => ?_
  cases driver with
  | network layout family => exact .pure _
  | server provider => exact .pure _

theorem ne_notReady_of_bootstrapping {α : Type} {a : Action σ Failure α} {reason : String}
    (h : FailsWith (· ≠ .notReady reason) a) :
    FailsWith (· ≠ .failed .bootstrapping (.notReady reason)) (step .bootstrapping a) := by
  intro x stop y hx hstop
  subst hstop
  rw [step, Action.mapError] at hx
  rcases ha : a x with ⟨f | v, z⟩
  · rw [ha] at hx
    cases hx
    exact h x _ _ ha rfl
  · rw [ha] at hx
    cases hx

/-- **No bootstrap fails for want of an address.** -/
theorem ne_notReady_of_deploy (e : Engine) (s : Store σ) (c : Connector σ) (key : ObjectKey)
    (i : NodeIntent) (reason : String) :
    FailsWith (· ≠ .failed .bootstrapping (.notReady reason)) (e.deploy s c key i) := by
  have hawait : FailsWith (· ≠ .failed .bootstrapping (.notReady reason)) (awaitReady s key) := by
    refine .bind (ne_notReady_of_step (by decide) _ reason) fun pod? => ?_
    rcases podAddresses pod? with why | l
    · exact .throw Stop.noConfusion
    · exact .pure l
  have herrand : FailsWith (· ≠ .failed .bootstrapping (.notReady reason))
      (e.errandFor s key i) := by
    refine .bind (ne_notReady_of_settle e s i reason) fun driver => ?_
    refine .bind_of hawait fun x l y hl => ?_
    obtain ⟨pod?, -, -, haddresses⟩ := awaitReady_eq_ok hl
    have hne := ne_nil_of_podAddresses haddresses
    exact ne_notReady_of_bootstrapping (ne_notReady_of_gather e s driver key.ns i hne reason)
  rw [deploy_eq_errand]
  refine .bind herrand fun r => ne_notReady_of_bootstrapping ?_
  rcases r with _ | r
  · exact .pure ()
  · exact .mapError fun _ => Failure.noConfusion

/-- **A bootstrap never lacks an address, and goes to the first one.** The addresses that are found
in the status of a pod are what the status tells: they are found exactly if the first container is
ready and there is an address with a text, and then there is one, and none without a text; if not,
the reason is the first in order. So a pass, whose sessions are all in one errand, never stops in
the bootstrap for want of an address, and the errand goes to the first address of the pod that was
asked for when the workload was settled. -/
theorem first_address_called :
    (∀ p : Pod, (∀ r, p.addresses.mapError Unready.message = r ↔ PodStatus.Tells p.status r) ∧
      ((∃ l, p.addresses = .ok l) ↔ ∃ s, p.status = some s ∧ s.Reachable) ∧
      ∀ l, p.addresses = .ok l → l ≠ [] ∧ "" ∉ l) ∧
    ∀ (τ : Type) (e : Engine) (s : Store τ) (key : ObjectKey),
      (∀ c now, e.pass s c key now = e.passLeaving s key now (carry c)) ∧
      (∀ c i x reason, (e.deploy s c key i x).1 ≠
        .error (.failed .bootstrapping (.notReady reason))) ∧
      ∀ i x r y, e.errandFor s key i x = (.ok (some r), y) → e.Called s key i x r.target := by
  refine ⟨fun p => ⟨p.tells_iff, ?_, fun l h => ?_⟩, fun τ e s key => ⟨?_, ?_, ?_⟩⟩
  · have hiff : (∃ l, podAddresses (some p) = .ok l) ↔ _ := podAddresses_eq_ok_iff
    simpa [podAddresses] using hiff
  · have h : podAddresses (some p) = .ok l := h
    exact ⟨ne_nil_of_podAddresses h, ne_empty_of_podAddresses h⟩
  · exact fun c now => pass_eq_errand e s c key now
  · intro c i x reason h
    exact ne_notReady_of_deploy e s c key i reason x _ (e.deploy s c key i x).2
      (Prod.ext h rfl) rfl
  · exact fun i x r y h => called_of_errandFor h

/-- The pass over the sample goes to the first address of its pod. -/
theorem first_address_called_sample : ∃ r z,
    ({} : Engine).errandFor World.store Sample.key Sample.intent
      (⟨Sample.memory "first", ({} : Bench)⟩ : World Bench) = (.ok (some r), z) ∧
    ({} : Engine).Called World.store Sample.key Sample.intent
      (⟨Sample.memory "first", ({} : Bench)⟩ : World Bench) r.target := by
  obtain ⟨r, z, herrand⟩ := Sample.exists_errandFor ({} : Bench)
  obtain ⟨-, -, hcalled⟩ := first_address_called.2 (World Bench) {} World.store Sample.key
  exact ⟨r, z, herrand, hcalled _ _ r z herrand⟩

end Engine

end NodeDeploy
