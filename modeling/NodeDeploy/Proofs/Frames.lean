import NodeDeploy.Proofs.Reports
import NodeDeploy.Proofs.Runs

/-! # What a pass may touch

A pass that stops early must leave the later stages alone: without a configuration there are no
claims, and without a workload that can be reached there is no session. And no pass changes what
others own: configurations, secrets, and all of an intent but its finalizers and its status.

* `Contained` says, phase by phase, what a pass may have touched.
* `phase_ending_of_plan` and `device_ending`: which phases there are behind a plan, and behind a
  session.
* `pass_contained`: every pass is contained in the phase of its outcome.
-/

namespace NodeDeploy

/-! ## Frames -/

namespace Memory

variable {l m n : Memory}

/-- The memories agree but for the intents and the number of recorded conditions. -/
def SameButIntents (m n : Memory) : Prop :=
  n = { m with intents := n.intents, statusWrites := n.statusWrites }

/-- The memories agree but for the intents and the parts of nodes. -/
def SameButNodes (m n : Memory) : Prop :=
  n = { m with
    intents := n.intents
    statusWrites := n.statusWrites
    claims := n.claims
    claimWrites := n.claimWrites
    attachments := n.attachments
    attachmentWrites := n.attachmentWrites
    pods := n.pods
    podCreates := n.podCreates
    podDeletes := n.podDeletes }

theorem SameButIntents.trans (h : l.SameButIntents m) (g : m.SameButIntents n) :
    l.SameButIntents n := by
  rw [SameButIntents] at h g ⊢
  rw [g, h]

theorem SameButIntents.sameButNodes (h : m.SameButIntents n) : m.SameButNodes n := by
  rw [SameButIntents] at h
  rw [SameButNodes, h]

theorem sameButIntents_recorded (i : NodeIntent) (condition : Condition) (m : Memory) :
    m.SameButIntents (m.recorded i condition) :=
  recorded_eq i condition m

theorem sameButIntents_removeFinalizer (i : NodeIntent) (f : String) (m : Memory) :
    m.SameButIntents (m.removeFinalizer i f).2 := by
  rw [SameButIntents, removeFinalizer_eq]

theorem SameButNodes.trans (h : l.SameButNodes m) (g : m.SameButNodes n) : l.SameButNodes n := by
  rw [SameButNodes] at h g ⊢
  rw [g, h]

theorem SameButIntents.samePods (h : m.SameButIntents n) : n.SamePods m := by
  rw [SameButIntents] at h
  rw [h]
  exact ⟨rfl, rfl, rfl⟩

end Memory

/-- What a pass over a key that stops in a phase may have touched. -/
structure Contained {δ : Type} (key : ObjectKey) (phase : Phase) (w v : World δ) : Prop where
  fetching : phase = .fetching → v = w
  /-- Up to the attachments, a pass that stops has written to the intent only: there is nothing to
  claim or to attach unless all of it can be built. -/
  early : phase = .resolving ∨ phase = .attaching → w.memory.SameButIntents v.memory
  /-- Without a bootstrap no session is opened, whatever the device is. -/
  device : phase ≠ .bootstrapping → phase ≠ .ready → v.device = w.device
  /-- Configurations and secrets stay, and so does what the store is told to refuse. -/
  nodes : w.memory.SameButNodes v.memory
  pod : Memory.PodChange key w.memory v.memory
  others : ∀ k, k ≠ key → v.memory.intents.find? k = w.memory.intents.find? k
  /-- The intent stays what it is, and goes away only if it is being deleted. -/
  intent : ∀ i, w.memory.intents.find? key = some i →
    (∃ j, v.memory.intents.find? key = some j ∧ j.core = i.core) ∨
      phase = .finalizing ∧ i.metadata.isDeleted = true ∧ v.memory.intents.find? key = none
  missing : w.memory.intents.find? key = none → v.memory.intents.find? key = none

/-- Only a pass without an intent stops in the first phase. -/
theorem Agrees.phase_ne_fetching {pod? : Option Pod} {ended : Except Stop Unit} {outcome : Outcome}
    {state : ConditionState} (h : Agrees pod? ended outcome state) : outcome.phase ≠ .fetching := by
  cases h with
  | ready => nofun
  | waiting => nofun
  | failed hphase => exact hphase.1

namespace Engine

variable {δ : Type} {e : Engine} {c : Connector δ} {key : ObjectKey} {i : NodeIntent} {m : Memory}
  {d : δ}

/-! ## Phases -/

/-- With a plan, a pass does not stop before it converges the workload. -/
theorem phase_ending_of_plan {p : Plan} (hp : e.plan m i = .ok p) :
    (endOutcome (e.ending c key i m d).1).phase ≠ .resolving ∧
      (endOutcome (e.ending c key i m d).1).phase ≠ .attaching := by
  rw [ending]
  rcases hc : ((p.prepared i m).convergePod p.pod).1 with error | _
  · rw [errand_of_refused hp hc]
    exact ⟨Phase.noConfusion, Phase.noConfusion⟩
  rcases ha : podAddresses (((p.prepared i m).convergePod p.pod).2.pods.find? key) with
    reason | addresses
  · rw [errand_of_waiting hp hc ha]
    exact ⟨Phase.noConfusion, Phase.noConfusion⟩
  rw [errand_of_reached hp hc ha]
  rcases e.errandTo p.driver key.ns i addresses m with f | errand
  · exact ⟨Phase.noConfusion, Phase.noConfusion⟩
  · simp only [Except.mapError]
    rcases (runErrand c errand d).1 with error | _ <;> exact ⟨Phase.noConfusion, Phase.noConfusion⟩

/-- A session is opened at the end of the way only: a pass that stops before does not touch the
device. -/
theorem device_ending (hb : (endOutcome (e.ending c key i m d).1).phase ≠ .bootstrapping)
    (hr : (endOutcome (e.ending c key i m d).1).phase ≠ .ready) :
    (e.ending c key i m d).2 = d := by
  rcases he : e.errand key i m with stop | errand
  · rw [ending, he]
  rw [ending, he] at hb hr
  simp only at hb hr
  rcases h : (runErrand c errand d).1 with error | _
  · rw [h] at hb
    exact absurd rfl hb
  · rw [h] at hr
    exact absurd rfl hr

/-! ## The way to a ready node -/

theorem podChange_deployed (e : Engine) (i : NodeIntent) (m : Memory) :
    Memory.PodChange i.metadata.key m (e.deployed i m) := by
  rcases hp : e.plan m i with stop | p
  · rw [deployed, hp]
    exact .kept ⟨rfl, rfl, rfl⟩
  · have hchange := Memory.podChange_convergePod p.pod (p.prepared i m)
    rw [key_of_plan hp, ← deployed_of_plan hp] at hchange
    refine hchange.congr ?_ ⟨rfl, rfl, rfl⟩
    rw [Plan.prepared_eq]
    exact ⟨rfl, rfl, rfl⟩

theorem find?_intents_deployed_ne {k : ObjectKey} (hk : k ≠ i.metadata.key) :
    (e.deployed i m).intents.find? k = m.intents.find? k := by
  rw [deployed_eq, Memory.addFinalizer, Dict.find?_modify, if_neg hk]

theorem sameButNodes_deployed (e : Engine) (i : NodeIntent) (m : Memory) :
    m.SameButNodes (e.deployed i m) := by
  rw [Memory.SameButNodes, deployed_eq]

theorem sameButIntents_deployed {stop : Stop} (hp : e.plan m i = .error stop) :
    m.SameButIntents (e.deployed i m) := by
  rw [deployed, hp]
  rfl

/-! ## Whole passes -/

/-- A pass over an intent that is not being deleted is contained in its phase. -/
theorem contained_live (hi : m.intents.find? i.metadata.key = some i)
    (hl : i.metadata.isDeleted = false) (now : Instant) :
    Contained i.metadata.key (endOutcome (e.ending c i.metadata.key i m d).1).phase ⟨m, d⟩
      (e.pass World.store (World.link c) i.metadata.key now ⟨m, d⟩).2 := by
  rw [pass_of_live hi hl c now d]
  have htold := Memory.sameButIntents_recorded i
    (endCondition now (e.ending c i.metadata.key i m d).1) (e.deployed i m)
  have hstored := Memory.find?_recorded (endCondition now (e.ending c i.metadata.key i m d).1)
    (find?_deployed (e := e) hi) rfl
  refine
    { fetching := fun hphase => absurd hphase (agrees_ending e c _ i m d now).phase_ne_fetching
      early := fun hphase => ?_
      device := device_ending
      nodes := (sameButNodes_deployed e i m).trans htold.sameButNodes
      pod := (podChange_deployed e i m).congr ⟨rfl, rfl, rfl⟩ htold.samePods
      others := fun k hk => ?_
      intent := fun j hj => .inl ⟨_, hstored, ?_⟩
      missing := fun hnone => absurd (hi.symm.trans hnone) nofun }
  · rcases hp : e.plan m i with stop | p
    · exact (sameButIntents_deployed hp).trans htold
    · rcases hphase with h | h
      · exact absurd h (phase_ending_of_plan hp).1
      · exact absurd h (phase_ending_of_plan hp).2
  · exact (Memory.find?_recorded_ne hk _ _).trans (find?_intents_deployed_ne hk)
  · obtain rfl : i = j := Option.some.inj (hi.symm.trans hj)
    rfl

/-- A release is contained in its phase. -/
theorem contained_released (hi : m.intents.find? i.metadata.key = some i)
    (hl : i.metadata.isDeleted = true) (hr : m.refusingRelease = none) (now : Instant) :
    Contained i.metadata.key .finalizing ⟨m, d⟩
      (e.pass World.store (World.link c) i.metadata.key now ⟨m, d⟩).2 := by
  rw [pass_of_released hi hl hr c now d]
  have hsame := Memory.sameButIntents_removeFinalizer i intentFinalizer m
  have hleft := Memory.find?_removeFinalizer hr hi intentFinalizer
  refine
    { fetching := nofun
      early := nofun
      device := fun _ _ => rfl
      nodes := hsame.sameButNodes
      pod := .kept hsame.samePods
      others := fun k hk => Memory.find?_removeFinalizer_ne hk _ _
      intent := fun j hj => ?_
      missing := fun hnone => absurd (hi.symm.trans hnone) nofun }
  · obtain rfl : i = j := Option.some.inj (hi.symm.trans hj)
    split at hleft
    · exact .inr ⟨rfl, hl, hleft⟩
    · exact .inl ⟨_, hleft, rfl⟩

/-- So is a release that the store refuses. -/
theorem contained_kept (hi : m.intents.find? i.metadata.key = some i)
    (hl : i.metadata.isDeleted = true) {message : String}
    (hr : m.refusingRelease = some message) (now : Instant) :
    Contained i.metadata.key .finalizing ⟨m, d⟩
      (e.pass World.store (World.link c) i.metadata.key now ⟨m, d⟩).2 := by
  rw [pass_of_kept hi hl hr c now d]
  have hsame := Memory.sameButIntents_recorded i
    (endCondition now (.error (.failed .finalizing (.store (.backend message))))) m
  have hstored := Memory.find?_recorded
    (endCondition now (.error (.failed .finalizing (.store (.backend message))))) hi rfl
  refine
    { fetching := nofun
      early := nofun
      device := fun _ _ => rfl
      nodes := hsame.sameButNodes
      pod := .kept hsame.samePods
      others := fun k hk => Memory.find?_recorded_ne hk _ _
      intent := fun j hj => .inl ⟨_, hstored, ?_⟩
      missing := fun hnone => absurd (hi.symm.trans hnone) nofun }
  · obtain rfl : i = j := Option.some.inj (hi.symm.trans hj)
    rfl

/-- **A pass touches what its phase allows.** Whatever is stored, and whatever the store and the
device refuse, a pass has an outcome, and what it has changed is contained in the phase of that. -/
theorem pass_contained (e : Engine) (c : Connector δ) (key : ObjectKey) (now : Instant)
    (w : World δ) (hw : w.memory.Filed) :
    ∃ outcome v, e.pass World.store (World.link c) key now w = (.ok outcome, v) ∧
      Contained key outcome.phase w v := by
  obtain ⟨m, d⟩ := w
  rcases Option.eq_none_or_eq_some (m.intents.find? key) with hi | ⟨i, hi⟩
  · refine ⟨_, _, pass_of_missing hi c now d, ?_⟩
    exact
      { fetching := fun _ => rfl
        early := nofun
        device := fun _ _ => rfl
        nodes := rfl
        pod := .kept ⟨rfl, rfl, rfl⟩
        others := fun _ _ => rfl
        intent := fun i hi' => absurd (hi.symm.trans hi') nofun
        missing := fun _ => hi }
  obtain rfl := hw.intents key i hi
  cases hl : i.metadata.isDeleted with
  | false =>
    have hcontained := contained_live (e := e) (c := c) (d := d) hi hl now
    rw [pass_of_live hi hl] at hcontained
    exact ⟨_, _, pass_of_live hi hl c now d, hcontained⟩
  | true =>
    rcases Option.eq_none_or_eq_some m.refusingRelease with hr | ⟨message, hr⟩
    · have hcontained := contained_released (e := e) (c := c) (d := d) hi hl hr now
      rw [pass_of_released hi hl hr] at hcontained
      exact ⟨_, _, pass_of_released hi hl hr c now d, hcontained⟩
    · have hcontained := contained_kept (e := e) (c := c) (d := d) hi hl hr now
      rw [pass_of_kept hi hl hr] at hcontained
      exact ⟨_, _, pass_of_kept hi hl hr c now d, hcontained⟩

theorem pass_contained_sample : (Sample.memory "first").Filed ∧ ∃ outcome v,
    ({} : Engine).pass World.store (World.link Bench.connector) Sample.key default
      ⟨Sample.memory "first", {}⟩ = (.ok outcome, v) ∧
    Contained Sample.key outcome.phase ⟨Sample.memory "first", {}⟩ v :=
  ⟨Sample.filed_memory "first", pass_contained {} Bench.connector Sample.key default
    ⟨Sample.memory "first", {}⟩ (Sample.filed_memory "first")⟩

end Engine

end NodeDeploy
