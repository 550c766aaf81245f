import Mathlib.Tactic.ByContra
import NodeDeploy.Proofs.Reports

/-! # What it takes to reach a ready node

One pass is enough to reach a ready node, from any state that is not itself in the way: what earlier
passes left behind is taken over or replaced. This module says exactly what a pass needs.

* `PodStatus.Reachable`: a ready first container and an address, which is what
  `podAddresses_eq_ok_iff` finds in a status.
* `Configures`, `Converges` and `Bootstraps` are the needs of the single steps, `Accessible` those
  up to the device, and `Deployable` all of them.
* `pass_ready_iff`: a pass reaches a ready node exactly if the intent is deployable.
-/

namespace NodeDeploy

/-! ## The needs of the steps -/

/-- A workload with this status can be reached: its first container is ready, and it has an
address. -/
def PodStatus.Reachable (s : PodStatus) : Prop :=
  (∃ first rest, s.containerStatuses = some (first :: rest) ∧ first.ready = true) ∧
    ∃ address, address ≠ "" ∧ (address ∈ s.podIPs.getD [] ∨ s.podIP = some address)

namespace Memory

/-- A configuration is the one that an intent refers to, if it refers to any, and else the one that
is chosen for it among those in scope. -/
def Configures (scope : String) (provider : String) (i : NodeIntent) (config : NodeConfig)
    (m : Memory) : Prop :=
  match i.spec.parametersRef with
  | some r => m.configs.find? ⟨r.ns.getD scope, r.name⟩ = some config
  | none => config = chooseConfig (m.listConfigs scope) scope provider i.metadata.displayName

/-- The workload of a node is there or can be made, and can be reached. A pod that has the revision
stays; any other is replaced by one with the initial status, unless that is refused. -/
def Converges (key : ObjectKey) (revision : String) (m : Memory) : Prop :=
  ∃ status : PodStatus, status.Reachable ∧
    ((∃ pod, m.pods.find? key = some pod ∧ pod.revision? = some revision ∧
        pod.status = some status) ∨
      ((∀ pod, m.pods.find? key = some pod → pod.revision? ≠ some revision) ∧
        m.refusingPods = none ∧ m.initialStatus = some status))

end Memory

/-- The secrets for a device are there, and the device takes the whole script. -/
structure Bootstraps (ns : String) (i : NodeIntent) (layout : Layout) (family : Family)
    (w : World Bench) : Prop where
  login : ∃ secret, w.memory.secrets.find? ⟨ns, family.provider⟩ = some secret ∧
    (secret.text? "username").isSome ∧ (secret.text? "password").isSome
  script : ∃ secret bundle,
    w.memory.secrets.find? ⟨ns, i.metadata.displayName⟩ = some secret ∧
    CertificateBundle.ofSecret certificateProfile secret = .ok bundle ∧
    ∀ x ∈ (layout.script bundle).commands, w.device.rejects x.2 = false
  opens : w.device.refusing = none
  closes : w.device.breaking = none

/-- All that a pass needs to get to the device. -/
structure Accessible (e : Engine) (key : ObjectKey) (m : Memory) (i : NodeIntent)
    (driver : Driver) (config : NodeConfig) : Prop where
  stored : m.intents.find? key = some i
  live : i.metadata.isDeleted = false
  registered : Dict.find? e.registry i.spec.provider = some driver
  configured : m.Configures (e.configNamespace.getD key.ns) driver.provider i config
  modelled : driver.validate config = .ok ()
  identified : i.Identified
  converges : m.Converges key (driver.podSpec key config.spec).revision

/-- All that a pass needs to reach a ready node. -/
structure Deployable (e : Engine) (key : ObjectKey) (w : World Bench) (i : NodeIntent)
    (driver : Driver) (config : NodeConfig) : Prop
    extends Accessible e key w.memory i driver config where
  bootstraps : ∀ layout family, driver = .network layout family →
    Bootstraps key.ns i layout family w

/-! ## Addresses -/

theorem PodStatus.addresses_eq_nil_iff {s : PodStatus} : s.addresses = [] ↔
    ¬∃ address, address ≠ "" ∧ (address ∈ s.podIPs.getD [] ∨ s.podIP = some address) := by
  have hlist : (s.podIPs.getD []).filter (!·.isEmpty) = [] ↔
      ∀ address ∈ s.podIPs.getD [], address = "" := by
    simp [List.filter_eq_nil_iff]
  have hsingle : s.podIP.toList.filter (!·.isEmpty) = [] ↔
      ∀ address, s.podIP = some address → address = "" := by
    simp [List.filter_eq_nil_iff]
  constructor
  · rintro h ⟨address, hne, hmem⟩
    rw [addresses] at h
    split at h
    · next hl =>
      rcases hmem with hmem | hmem
      · exact hne (hlist.1 hl address hmem)
      · exact hne (hsingle.1 h address hmem)
    · next hl => exact hl h
  · intro h
    have hl := hlist.2 fun address hmem => by_contra fun hne => h ⟨address, hne, .inl hmem⟩
    have hs := hsingle.2 fun address hmem => by_contra fun hne => h ⟨address, hne, .inr hmem⟩
    rw [addresses, hl]
    exact hs

/-- **The addresses of a workload are found exactly if it can be reached.** -/
theorem podAddresses_eq_ok_iff {pod? : Option Pod} : (∃ l, podAddresses pod? = .ok l) ↔
    ∃ pod status, pod? = some pod ∧ pod.status = some status ∧ status.Reachable := by
  constructor
  · rintro ⟨l, h⟩
    rcases pod? with _ | pod
    · cases h
    simp only [podAddresses, Pod.addresses] at h
    rcases hs : pod.status with _ | status
    · simp [hs] at h
    simp only [hs] at h
    rcases hc : status.containerStatuses with _ | _ | ⟨first, rest⟩
    · simp [PodStatus.firstContainer?, hc] at h
    · simp [PodStatus.firstContainer?, hc] at h
    simp only [PodStatus.firstContainer?, hc, Option.bind_some, List.head?_cons] at h
    split at h
    · cases h
    next hr =>
    split at h
    · cases h
    next ha =>
    refine ⟨pod, status, rfl, hs, ⟨first, rest, hc, by simpa using hr⟩, ?_⟩
    by_contra hn
    exact ha (by rw [PodStatus.addresses_eq_nil_iff.2 hn]; rfl)
  · rintro ⟨pod, status, rfl, hs, ⟨first, rest, hc, hr⟩, ha⟩
    refine ⟨status.addresses, ?_⟩
    have hne : status.addresses.isEmpty = false := by
      rw [Bool.eq_false_iff, ne_eq, List.isEmpty_iff, PodStatus.addresses_eq_nil_iff]
      exact fun h => h ha
    simp [podAddresses, Pod.addresses, hs, PodStatus.firstContainer?, hc, hr, hne]

theorem ne_nil_of_podAddresses {pod? : Option Pod} {l : List String}
    (h : podAddresses pod? = .ok l) : l ≠ [] := by
  rcases pod? with _ | pod
  · cases h
  simp only [podAddresses, Pod.addresses] at h
  split at h
  · cases h
  split at h
  · cases h
  split at h
  · cases h
  split at h
  · cases h
  next hl =>
    cases h
    simpa using hl

/-! ## The steps -/

namespace Memory

theorem configOf_eq_ok_iff {m : Memory} {i : NodeIntent} (hns : i.metadata.ns.isSome)
    {configNamespace : Option String} {provider : String} {config : NodeConfig} :
    m.configOf configNamespace provider i = .ok config ↔
      m.Configures (configNamespace.getD i.metadata.key.ns) provider i config := by
  obtain ⟨ns, hns⟩ := Option.isSome_iff_exists.1 hns
  rw [configOf, NodeIntent.objectKey_eq hns, Configures]
  simp only [bind, Except.bind]
  rcases i.spec.parametersRef with _ | r
  · exact ⟨fun h => (Except.ok.inj h).symm, fun h => h ▸ rfl⟩
  · dsimp only
    rcases m.configs.find? _ with _ | c
    · simp
    · simp

/-- **Convergence makes a workload that can be reached exactly if its needs are met.** -/
theorem converges_iff {p : Pod} {m : Memory} {revision : String}
    (hr : p.revision? = some revision) :
    ((m.convergePod p).1 = .ok () ∧
      ∃ l, podAddresses ((m.convergePod p).2.pods.find? p.metadata.key) = .ok l) ↔
    m.Converges p.metadata.key revision := by
  rw [podAddresses_eq_ok_iff]
  cases hc : m.carries p with
  | true =>
    obtain ⟨pod, hpod, hrev⟩ := (carries_iff hr).1 hc
    rw [convergePod_of_carries hc]
    constructor
    · rintro ⟨-, pod', status, hp, hs, hready⟩
      obtain rfl : pod = pod' := Option.some.inj (hpod.symm.trans hp)
      exact ⟨status, hready, .inl ⟨pod, hpod, hrev, hs⟩⟩
    · rintro ⟨status, hready, ⟨pod', hp, -, hs⟩ | ⟨hnone, -⟩⟩
      · exact ⟨rfl, pod', status, hp, hs, hready⟩
      · exact absurd hrev (hnone pod hpod)
  | false =>
    have hnone : ∀ pod, m.pods.find? p.metadata.key = some pod →
        pod.revision? ≠ some revision := by
      intro pod hpod hrev
      rw [(carries_iff hr).2 ⟨pod, hpod, hrev⟩] at hc
      cases hc
    rcases Option.eq_none_or_eq_some m.refusingPods with hfree | ⟨message, hrefused⟩
    · rw [convergePod_of_created hc hfree]
      simp only [Dict.find?_insert_self, true_and]
      constructor
      · rintro ⟨pod, status, hp, hs, hready⟩
        obtain rfl := Option.some.inj hp
        exact ⟨status, hready, .inr ⟨hnone, hfree, hs⟩⟩
      · rintro ⟨status, hready, ⟨pod, hpod, hrev, -⟩ | ⟨-, -, hs⟩⟩
        · exact absurd hrev (hnone pod hpod)
        · exact ⟨_, status, rfl, hs, hready⟩
    · rw [convergePod_of_refused hc hrefused]
      constructor
      · rintro ⟨h, -⟩
        cases h
      · rintro ⟨status, -, ⟨pod, hpod, hrev, -⟩ | ⟨-, hfree, -⟩⟩
        · exact absurd hrev (hnone pod hpod)
        · rw [hrefused] at hfree
          cases hfree

end Memory

theorem Credentials.exists_ofSecret?_iff {secret : Secret} :
    (∃ login, Credentials.ofSecret? secret = some login) ↔
      (secret.text? "username").isSome ∧ (secret.text? "password").isSome := by
  rw [ofSecret?]
  rcases secret.text? "username" with _ | username <;>
    rcases secret.text? "password" with _ | password <;> simp

namespace Memory

theorem loginOf_eq_ok_iff {k : ObjectKey} {m : Memory} {login : Credentials} :
    m.loginOf k = .ok login ↔
      ∃ secret, m.secrets.find? k = some secret ∧ Credentials.ofSecret? secret = some login := by
  rw [loginOf, secretOf]
  rcases m.secrets.find? k with _ | secret
  · simp [bind, Except.bind]
  · rcases hs : Credentials.ofSecret? secret with _ | c <;> simp [bind, Except.bind, hs]

theorem bundleOf_eq_ok_iff {k : ObjectKey} {m : Memory} {bundle : CertificateBundle} :
    m.bundleOf k = .ok bundle ↔ ∃ secret, m.secrets.find? k = some secret ∧
      CertificateBundle.ofSecret certificateProfile secret = .ok bundle := by
  rw [bundleOf, secretOf, bind_eq_ok_iff]
  rcases m.secrets.find? k with _ | secret <;> simp [mapError_eq_ok_iff]

end Memory

namespace Engine

variable {e : Engine} {key : ObjectKey} {i : NodeIntent} {driver : Driver} {config : NodeConfig}

/-- **An errand is there and ends well exactly if the needs of the device are met.** -/
theorem bootstraps_iff {ns : String} {w : World Bench} {l : List String} (hl : l ≠ []) :
    (∃ errand, e.errandTo driver ns i l w.memory = .ok errand ∧
      (runErrand Bench.connector errand w.device).1 = .ok ()) ↔
    ∀ layout family, driver = .network layout family → Bootstraps ns i layout family w := by
  obtain ⟨address, rest, rfl⟩ := List.exists_cons_of_ne_nil hl
  cases driver with
  | server provider =>
    refine ⟨fun _ layout family h => ?_, fun _ => ⟨none, rfl, rfl⟩⟩
    cases h
  | network layout family =>
    have herrand {errand : Option Errand} :
        e.errandTo (.network layout family) ns i (address :: rest) w.memory = .ok errand ↔
          ∃ login, w.memory.loginOf ⟨ns, family.provider⟩ = .ok login ∧
          ∃ bundle, w.memory.bundleOf ⟨ns, i.metadata.displayName⟩ = .ok bundle ∧
          some ⟨⟨address, e.sshPort, login, family.platform⟩, layout.script bundle⟩ = errand := by
      simp only [errandTo_network, bind_eq_ok_iff, Except.ok.injEq]
    simp only [herrand]
    constructor
    · rintro ⟨errand, ⟨login, hlogin, bundle, hbundle, rfl⟩, hrun⟩ layout' family' h
      cases h
      obtain ⟨secret, hsecret, hcredentials⟩ := Memory.loginOf_eq_ok_iff.1 hlogin
      obtain ⟨pem, hpem, hextract⟩ := Memory.bundleOf_eq_ok_iff.1 hbundle
      rw [runErrand, (Bench.run_script _ _ _).1, Bench.verdict_eq_ok_iff] at hrun
      obtain ⟨hopens, haccepted, hcloses⟩ := hrun
      exact ⟨⟨secret, hsecret, Credentials.exists_ofSecret?_iff.1 ⟨login, hcredentials⟩⟩,
        ⟨pem, bundle, hpem, hextract, haccepted⟩, hopens, hcloses⟩
    · intro h
      obtain ⟨⟨secret, hsecret, hboth⟩, hscript, hopens, hcloses⟩ := h layout family rfl
      obtain ⟨pem, bundle, hpem, hextract, haccepted⟩ := hscript
      obtain ⟨login, hlogin⟩ := Credentials.exists_ofSecret?_iff.2 hboth
      refine ⟨_, ⟨login, Memory.loginOf_eq_ok_iff.2 ⟨secret, hsecret, hlogin⟩,
        bundle, Memory.bundleOf_eq_ok_iff.2 ⟨pem, hpem, hextract⟩, rfl⟩, ?_⟩
      rw [runErrand, (Bench.run_script _ _ _).1, Bench.verdict_eq_ok_iff]
      exact ⟨hopens, haccepted, hcloses⟩

theorem resolved_eq_ok_iff {m : Memory} : e.resolved m i = .ok (driver, config) ↔
    Dict.find? e.registry i.spec.provider = some driver ∧
      m.configOf e.configNamespace driver.provider i = .ok config ∧
      driver.validate config = .ok () := by
  simp only [resolved, bind_eq_ok_iff, Except.ok.injEq, Prod.mk.injEq, Registry.resolve]
  constructor
  · rintro ⟨d, hd, c, hc, ⟨⟩, hv, rfl, rfl⟩
    rcases hfound : Dict.find? e.registry i.spec.provider with _ | driver
    · rw [hfound] at hd
      cases hd
    · rw [hfound] at hd
      cases hd
      exact ⟨rfl, hc, hv⟩
  · rintro ⟨hd, hc, hv⟩
    exact ⟨driver, by rw [hd], config, hc, (), hv, rfl, rfl⟩

/-- The driver of a plan is the one that is registered for the provider. -/
theorem driver_of_plan {m : Memory} {p : Plan} (hp : e.plan m i = .ok p) :
    Dict.find? e.registry i.spec.provider = some p.driver :=
  (resolved_eq_ok_iff.1 (plan_eq_ok_iff.1 hp).1).1

theorem ending_eq_ok_iff {w : World Bench} :
    (e.ending Bench.connector key i w.memory w.device).1 = .ok () ↔
      ∃ errand, e.errand key i w.memory = .ok errand ∧
        (runErrand Bench.connector errand w.device).1 = .ok () := by
  rw [ending]
  rcases e.errand key i w.memory with stop | errand
  · simp
  · simp [mapError_eq_ok_iff]

theorem errand_eq_ok_iff {m : Memory} {r : Option Errand} : e.errand key i m = .ok r ↔
    ∃ p, e.plan m i = .ok p ∧ ((p.prepared i m).convergePod p.pod).1 = .ok () ∧
      ∃ l, podAddresses (((p.prepared i m).convergePod p.pod).2.pods.find? key) = .ok l ∧
        e.errandTo p.driver key.ns i l m = .ok r := by
  simp only [Engine.errand, bind_eq_ok_iff, mapError_eq_ok_iff]
  constructor
  · rintro ⟨p, hp, ⟨⟩, hconverged, l, hl, hr⟩
    rw [deployed_of_plan hp] at hl
    exact ⟨p, hp, hconverged, l, hl, hr⟩
  · rintro ⟨p, hp, hconverged, l, hl, hr⟩
    rw [← deployed_of_plan hp] at hl
    exact ⟨p, hp, (), hconverged, l, hl, hr⟩

/-- The workload of a plan is converged exactly if the needs of convergence are met, and claims and
attachments have no part in them. -/
theorem converges_plan_iff {m : Memory} {p : Plan} (hp : e.plan m i = .ok p) :
    (((p.prepared i m).convergePod p.pod).1 = .ok () ∧ ∃ l, podAddresses
      (((p.prepared i m).convergePod p.pod).2.pods.find? i.metadata.key) = .ok l) ↔
    m.Converges i.metadata.key (p.driver.podSpec i.metadata.key p.config.spec).revision := by
  obtain ⟨-, -, -, hw⟩ := plan_eq_ok_iff.1 hp
  obtain ⟨-, -, hkey, -, hrev⟩ := Driver.workload_spec hw
  rw [← hkey] at hrev ⊢
  rw [Memory.converges_iff hrev, Plan.prepared_eq]
  rfl

/-- **A pass gets to the device exactly if the needs up to there are met.** -/
theorem accessible_iff {m : Memory} (hi : m.intents.find? i.metadata.key = some i)
    (hl : i.metadata.isDeleted = false) :
    (∃ p, e.plan m i = .ok p ∧ p.driver = driver ∧ p.config = config ∧
      ((p.prepared i m).convergePod p.pod).1 = .ok () ∧ ∃ l, podAddresses
        (((p.prepared i m).convergePod p.pod).2.pods.find? i.metadata.key) = .ok l) ↔
    Accessible e i.metadata.key m i driver config := by
  constructor
  · rintro ⟨p, hp, rfl, rfl, hconverged⟩
    obtain ⟨hresolved, hidentified⟩ := exists_plan_iff.1 ⟨p, hp, rfl, rfl⟩
    obtain ⟨hregistered, hconfig, hvalid⟩ := resolved_eq_ok_iff.1 hresolved
    exact ⟨hi, hl, hregistered, (Memory.configOf_eq_ok_iff hidentified.1).1 hconfig, hvalid,
      hidentified, (converges_plan_iff hp).1 hconverged⟩
  · intro h
    have hconfig := (Memory.configOf_eq_ok_iff h.identified.1).2 h.configured
    have hresolved := resolved_eq_ok_iff.2 ⟨h.registered, hconfig, h.modelled⟩
    obtain ⟨p, hp, rfl, rfl⟩ := exists_plan_iff.2 ⟨hresolved, h.identified⟩
    exact ⟨p, hp, rfl, rfl, (converges_plan_iff hp).2 h.converges⟩

/-- The way to a ready node is open exactly if all needs are met. -/
theorem deployable_iff {w : World Bench} (hi : w.memory.intents.find? i.metadata.key = some i)
    (hl : i.metadata.isDeleted = false) :
    (e.ending Bench.connector i.metadata.key i w.memory w.device).1 = .ok () ↔
      ∃ driver config, Deployable e i.metadata.key w i driver config := by
  simp only [ending_eq_ok_iff, errand_eq_ok_iff]
  constructor
  · rintro ⟨r, ⟨p, hp, hconverged, l, haddresses, hr⟩, hrun⟩
    refine ⟨p.driver, p.config, ?_, ?_⟩
    · exact (accessible_iff hi hl).1 ⟨p, hp, rfl, rfl, hconverged, l, haddresses⟩
    · exact (bootstraps_iff (ne_nil_of_podAddresses haddresses)).1 ⟨r, hr, hrun⟩
  · rintro ⟨driver, config, h⟩
    obtain ⟨p, hp, rfl, rfl, hconverged, l, haddresses⟩ :=
      (accessible_iff hi hl).2 h.toAccessible
    obtain ⟨r, hr, hrun⟩ := (bootstraps_iff (ne_nil_of_podAddresses haddresses)).2 h.bootstraps
    exact ⟨r, ⟨p, hp, hconverged, l, haddresses, hr⟩, hrun⟩

/-- The outcome of a ready node is that of a way without a stop, and of no other. -/
theorem endOutcome_ending_eq_iff {w : World Bench} :
    endOutcome (e.ending Bench.connector key i w.memory w.device).1 = ⟨.ready, .never⟩ ↔
      (e.ending Bench.connector key i w.memory w.device).1 = .ok () := by
  have h := agrees_ending e Bench.connector key i w.memory w.device default
  constructor
  · intro ho
    rw [ho] at h
    generalize (e.ending Bench.connector key i w.memory w.device).1 = ended at h ⊢
    cases h with
    | ready => rfl
    | failed hphase => exact absurd rfl hphase.2.2
  · intro he
    rw [he]
    rfl

/-- **A pass reaches a ready node exactly if the intent is deployable.** Nothing is assumed of what
is stored but that it is stored under its own key. -/
theorem pass_ready_iff (e : Engine) (key : ObjectKey) (now : Instant) (w : World Bench)
    (hw : w.memory.Filed) :
    (e.pass World.store (World.link Bench.connector) key now w).1 = .ok ⟨.ready, .never⟩ ↔
      ∃ i driver config, Deployable e key w i driver config := by
  obtain ⟨m, b⟩ := w
  rcases Option.eq_none_or_eq_some (m.intents.find? key) with hi | ⟨i, hi⟩
  · rw [pass_of_missing hi]
    refine ⟨fun h => (nomatch h), ?_⟩
    rintro ⟨i, driver, config, h⟩
    exact absurd (hi.symm.trans h.stored) (by simp)
  obtain rfl := hw.intents key i hi
  -- The intent that is found is the one that is deployable.
  have hsame : (∃ j driver config, Deployable e i.metadata.key ⟨m, b⟩ j driver config) ↔
      ∃ driver config, Deployable e i.metadata.key ⟨m, b⟩ i driver config := by
    refine ⟨fun ⟨j, driver, config, h⟩ => ?_, fun h => ⟨i, h⟩⟩
    obtain rfl : i = j := Option.some.inj (hi.symm.trans h.stored)
    exact ⟨driver, config, h⟩
  rw [hsame]
  cases hl : i.metadata.isDeleted with
  | false =>
    rw [pass_of_live hi hl, ← deployable_iff (w := ⟨m, b⟩) hi hl, ← endOutcome_ending_eq_iff]
    exact ⟨fun h => Except.ok.inj h, fun h => congrArg Except.ok h⟩
  | true =>
    have hnot : ¬∃ driver config, Deployable e i.metadata.key ⟨m, b⟩ i driver config := by
      rintro ⟨driver, config, h⟩
      exact absurd (hl.symm.trans h.live) (by simp)
    refine ⟨fun h => ?_, fun h => absurd h hnot⟩
    rcases Option.eq_none_or_eq_some m.refusingRelease with hr | ⟨message, hr⟩
    · rw [pass_of_released hi hl hr] at h
      cases h
    · rw [pass_of_kept hi hl hr] at h
      cases h

end Engine

namespace Sample

theorem reachable : status.Reachable :=
  ⟨⟨⟨"leaf1", true, 0, "", ""⟩, [], rfl, rfl⟩, "10.0.0.1", by decide, .inr rfl⟩

theorem accessible (body : String) : Accessible {} key (memory body) intent .srLinux
    (emptyConfig "fabric" "srlinux.nokia.com") where
  stored := stored body
  live := rfl
  registered := rfl
  configured := rfl
  modelled := rfl
  identified := by decide
  converges := ⟨status, reachable, .inr ⟨fun _ h => (nomatch h), rfl, rfl⟩⟩

def bundle (body : String) : CertificateBundle where
  profile := certificateProfile
  authority := "-----BEGIN CERTIFICATE-----authority-----END CERTIFICATE-----"
  certificate := "-----BEGIN CERTIFICATE-----node-----END CERTIFICATE-----"
  key := body

theorem extracted_first :
    CertificateBundle.ofSecret certificateProfile (certificates "first") =
      .ok (bundle "first") := by
  rfl

theorem bootstraps : Bootstraps key.ns intent .srLinux (.srLinux "srlinux.nokia.com")
    ⟨memory "first", {}⟩ where
  login := ⟨login, rfl, rfl, rfl⟩
  script := ⟨certificates "first", bundle "first", rfl, extracted_first, fun _ _ => rfl⟩
  opens := rfl
  closes := rfl

end Sample

namespace Engine

theorem ending_sample : (({} : Engine).ending Bench.connector Sample.key Sample.intent
    (Sample.memory "first") {}).1 = .ok () := by
  have hdeployable : Deployable {} Sample.key ⟨Sample.memory "first", {}⟩ Sample.intent .srLinux
      (emptyConfig "fabric" "srlinux.nokia.com") := by
    refine ⟨Sample.accessible "first", fun layout family h => ?_⟩
    obtain ⟨rfl, rfl⟩ := Driver.network.inj h
    exact Sample.bootstraps
  have h := (deployable_iff (e := {}) (i := Sample.intent) (w := ⟨Sample.memory "first", {}⟩)
    (Sample.stored "first") rfl).2 ⟨.srLinux, emptyConfig "fabric" "srlinux.nokia.com", hdeployable⟩
  exact h

theorem outcome_sample : (({} : Engine).pass World.store (World.link Bench.connector) Sample.key
    default ⟨Sample.memory "first", {}⟩).1 = .ok ⟨.ready, .never⟩ := by
  have hpass := pass_of_live (e := {}) (i := Sample.intent) (m := Sample.memory "first")
    (Sample.stored "first") rfl Bench.connector default {}
  rw [ending_sample] at hpass
  exact congrArg Prod.fst hpass

/-- The sample gets to a ready node. -/
theorem pass_ready_sample : (Sample.memory "first").Filed ∧
    (({} : Engine).pass World.store (World.link Bench.connector) Sample.key default
      ⟨Sample.memory "first", {}⟩).1 = .ok ⟨.ready, .never⟩ := by
  refine ⟨Sample.filed_memory "first", ?_⟩
  refine (pass_ready_iff {} Sample.key default ⟨Sample.memory "first", {}⟩
    (Sample.filed_memory "first")).2 ?_
  refine ⟨Sample.intent, .srLinux, emptyConfig "fabric" "srlinux.nokia.com",
    Sample.accessible "first", ?_⟩
  intro layout family h
  obtain ⟨rfl, rfl⟩ := Driver.network.inj h
  exact Sample.bootstraps

end Engine

end NodeDeploy
