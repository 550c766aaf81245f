import NodeDeploy.Proofs.Reaching
import NodeDeploy.Proofs.Runs

/-! # Isolation of intents

A pass over one intent touches nothing that belongs to another, and looks at nothing that a pass
over another changes. So passes over other keys can be taken out of a run, and neither the outcomes
of the passes over the one key nor what is stored for it change. Nothing keeps passes from running
side by side.

* `Memory.AgreeFor k shared`: two memories are the same to the intent of `k`, and so are the claims
  under the keys that `shared` picks.
* `agree_pass_of_ne`: a pass over another key leaves a memory that is the same to `k`.
* `AgreeFor.pass`: to memories that are the same to `k`, a pass over `k` does the same.
* `run_isolated`: the run without the passes over other keys is the same to `k`.

The attachments of a node are found under its name followed by that of an interface. That no two
nodes meet there is due to the names of the interfaces, all equally long (`length_of_wires`).
-/

namespace NodeDeploy

namespace Registry

def Wires (r : Registry) (interface : String) : Prop :=
  ∃ provider driver, Dict.find? r provider = some driver ∧ interface ∈ driver.interfaces

theorem length_of_wires {interface : String} (h : builtin.Wires interface) :
    interface.length = 4 := by
  obtain ⟨provider, driver, hd, hmem⟩ := h
  have hcases : driver = .plainServer ∨ driver = .srOs ∨ driver = .srLinux := by
    simp only [builtin, withBuiltins, register, Dict.find?_insert] at hd
    split at hd
    · exact .inl (Option.some.inj hd).symm
    · split at hd
      · exact .inr (.inl (Option.some.inj hd).symm)
      · split at hd
        · exact .inr (.inr (Option.some.inj hd).symm)
        · cases hd
  have htwo : interface = "e1-1" ∨ interface = "e1-2" := by
    rcases hcases with rfl | rfl | rfl
    · cases hmem
    · simpa [Driver.interfaces, Driver.srOs, Family.srOs] using hmem
    · simpa [Driver.interfaces, Driver.srLinux, Family.srLinux] using hmem
  rcases htwo with rfl | rfl <;> rfl

end Registry

namespace Memory

/-- Two memories are the same to the intent of a key: it finds the same configurations and secrets,
itself, its pod and its attachments in them, and the same is refused. So are the claims under the
keys that `shared` picks. -/
structure AgreeFor (k : ObjectKey) (shared : ObjectKey → Prop) (m n : Memory) : Prop where
  configs : m.configs = n.configs
  secrets : m.secrets = n.secrets
  initialStatus : m.initialStatus = n.initialStatus
  refusingPods : m.refusingPods = n.refusingPods
  refusingRelease : m.refusingRelease = n.refusingRelease
  intent : m.intents.find? k = n.intents.find? k
  pod : m.pods.find? k = n.pods.find? k
  attachments : ∀ x, Registry.builtin.Wires x →
    m.attachments.find? ⟨k.ns, partName k.name x⟩ = n.attachments.find? ⟨k.ns, partName k.name x⟩
  claims : ∀ c, shared c → m.claims.find? c = n.claims.find? c

namespace AgreeFor

variable {k : ObjectKey} {shared : ObjectKey → Prop} {m n o : Memory}

theorem refl (k : ObjectKey) (shared : ObjectKey → Prop) (m : Memory) : AgreeFor k shared m m :=
  ⟨rfl, rfl, rfl, rfl, rfl, rfl, rfl, fun _ _ => rfl, fun _ _ => rfl⟩

theorem trans (h : AgreeFor k shared m n) (g : AgreeFor k shared n o) : AgreeFor k shared m o where
  configs := h.configs.trans g.configs
  secrets := h.secrets.trans g.secrets
  initialStatus := h.initialStatus.trans g.initialStatus
  refusingPods := h.refusingPods.trans g.refusingPods
  refusingRelease := h.refusingRelease.trans g.refusingRelease
  intent := h.intent.trans g.intent
  pod := h.pod.trans g.pod
  attachments x hx := (h.attachments x hx).trans (g.attachments x hx)
  claims c hc := (h.claims c hc).trans (g.claims c hc)

theorem mono {fewer : ObjectKey → Prop} (h : AgreeFor k shared m n) (hs : ∀ c, fewer c → shared c) :
    AgreeFor k fewer m n :=
  { h with claims := fun c hc => h.claims c (hs c hc) }

/-! ## The same writes to both memories -/

theorem addFinalizer (h : AgreeFor k shared m n) (i : NodeIntent) (f : String) :
    AgreeFor k shared (m.addFinalizer i f) (n.addFinalizer i f) :=
  { h with
    intent := by
      simp only [Memory.addFinalizer, Dict.find?_modify, h.intent] }

theorem removeFinalizer (h : AgreeFor k shared m n) {i : NodeIntent} (hi : i.metadata.key = k)
    (f : String) : AgreeFor k shared (m.removeFinalizer i f).2 (n.removeFinalizer i f).2 := by
  subst hi
  rw [removeFinalizer_eq i f m, removeFinalizer_eq i f n]
  exact { h with intent := removeFinalizer_congr_at h.intent h.refusingRelease f }

theorem recorded (h : AgreeFor k shared m n) (i : NodeIntent) (c : Condition) :
    AgreeFor k shared (m.recorded i c) (n.recorded i c) := by
  rw [recorded_eq i c m, recorded_eq i c n]
  exact { h with intent := find?_recorded_congr h.intent i c }

theorem prepared (h : AgreeFor k shared m n) (p : Plan) (i : NodeIntent) :
    AgreeFor k shared (p.prepared i m) (p.prepared i n) := by
  have hf := h.addFinalizer i intentFinalizer
  rw [Plan.prepared_eq p i m, Plan.prepared_eq p i n]
  exact { hf with
    attachments := fun x hx => Plan.find?_attachments_prepared_congr (h.attachments x hx)
    claims := fun c hc => by
      rw [Plan.find?_claims_prepared, Plan.find?_claims_prepared, h.claims c hc] }

theorem convergePod (h : AgreeFor k shared m n) {p : Pod} (hp : p.metadata.key = k) :
    (m.convergePod p).1 = (n.convergePod p).1 ∧
      AgreeFor k shared (m.convergePod p).2 (n.convergePod p).2 := by
  subst hp
  obtain ⟨hend, hpods⟩ := convergePod_congr_at h.pod h.initialStatus h.refusingPods
  refine ⟨hend, ?_⟩
  rw [convergePod_eq p m, convergePod_eq p n]
  exact { h with pod := hpods }

theorem change (h : AgreeFor k shared m n) (c : Change) :
    AgreeFor k shared (c.apply m) (c.apply n) := by
  cases c with
  | addIntent i =>
    refine { h with intent := ?_ }
    simp only [Change.apply, addIntent, Dict.find?_insert, h.intent]
  | addConfig c =>
    refine { h with configs := ?_ }
    simp only [Change.apply, addConfig, h.configs]
  | addSecret s =>
    refine { h with secrets := ?_ }
    simp only [Change.apply, addSecret, h.secrets]
  | setPodStatus j s =>
    refine { h with pod := ?_ }
    simp only [Change.apply, setPodStatus, Dict.find?_modify, h.pod]
  | markDeleted j since =>
    refine { h with intent := ?_ }
    simp only [Change.apply, markDeleted, Dict.find?_modify, h.intent]
  | refusePods message => exact { h with refusingPods := rfl }

end AgreeFor

end Memory

namespace Bench

theorem Alike.refl (b : Bench) : Alike b b := ⟨rfl, rfl, rfl⟩

theorem Alike.symm {a b : Bench} (h : Alike a b) : Alike b a :=
  ⟨h.1.symm, h.2.1.symm, h.2.2.symm⟩

end Bench

namespace Engine

variable {e : Engine} {k key : ObjectKey} {shared : ObjectKey → Prop} {m n : Memory}
  {i : NodeIntent}

/-! ## Errands on a bench -/

theorem alike_runErrand (errand : Option Errand) (b : Bench) :
    Bench.Alike (runErrand Bench.connector errand b).2 b := by
  rcases errand with _ | r
  · exact Bench.Alike.refl b
  · exact (Bench.run_script r.target r.script b).2

/-- An errand ends the same on benches that refuse the same. -/
theorem runErrand_congr {a b : Bench} (h : Bench.Alike a b) (errand : Option Errand) :
    (runErrand Bench.connector errand a).1 = (runErrand Bench.connector errand b).1 := by
  rcases errand with _ | r
  · rfl
  · rw [runErrand, runErrand, (Bench.run_script _ _ a).1, (Bench.run_script _ _ b).1,
      h.verdict_eq]

theorem alike_pass (e : Engine) (key : ObjectKey) (now : Instant) (w : World Bench) : Bench.Alike
    (e.pass World.store (World.link Bench.connector) key now w).2.device w.device := by
  obtain ⟨errand, h⟩ := pass_device e Bench.connector key now w
  rw [h]
  exact alike_runErrand errand w.device

/-! ## A pass over the intent -/

theorem agree_deployed (h : m.AgreeFor k shared n) (hi : i.metadata.key = k) :
    (e.deployed i m).AgreeFor k shared (e.deployed i n) := by
  have hplan := plan_congr (e := e) h.configs i
  rcases hp : e.plan m i with stop | p
  · rw [deployed, deployed, ← hplan, hp]
    exact h.addFinalizer i intentFinalizer
  · rw [deployed_of_plan hp, deployed_of_plan (hplan.symm.trans hp)]
    exact ((h.prepared p i).convergePod ((key_of_plan hp).trans hi)).2

theorem errand_congr (h : m.AgreeFor k shared n) (hi : i.metadata.key = k) :
    e.errand k i m = e.errand k i n := by
  have hplan := plan_congr (e := e) h.configs i
  rcases hp : e.plan m i with stop | p
  · rw [errand_of_no_plan hp, errand_of_no_plan (hplan.symm.trans hp)]
  · obtain ⟨hend, hagree⟩ := (h.prepared p i).convergePod ((key_of_plan hp).trans hi)
    rw [errand_of_plan hp, errand_of_plan (hplan.symm.trans hp), hend, hagree.pod]
    simp only [errandTo_congr h.secrets]

theorem ending_congr (h : m.AgreeFor k shared n) (hi : i.metadata.key = k) {a b : Bench}
    (hd : Bench.Alike a b) :
    (e.ending Bench.connector k i m a).1 = (e.ending Bench.connector k i n b).1 := by
  rw [ending, ending, errand_congr h hi]
  rcases e.errand k i n with stop | errand
  · rfl
  · simp only [runErrand_congr hd]

/-- **To memories that are the same to an intent, a pass over the intent does the same**, and ends
the same. -/
theorem agree_pass {w v : World Bench} (h : w.memory.AgreeFor k shared v.memory)
    (hw : w.memory.Filed) (hd : Bench.Alike w.device v.device) (e : Engine) (now : Instant) :
    (e.pass World.store (World.link Bench.connector) k now w).1 =
        (e.pass World.store (World.link Bench.connector) k now v).1 ∧
      (e.pass World.store (World.link Bench.connector) k now w).2.memory.AgreeFor k shared
        (e.pass World.store (World.link Bench.connector) k now v).2.memory := by
  obtain ⟨m, a⟩ := w
  obtain ⟨n, b⟩ := v
  rcases Option.eq_none_or_eq_some (m.intents.find? k) with hi | ⟨i, hi⟩
  · rw [pass_of_missing hi, pass_of_missing (h.intent.symm.trans hi)]
    exact ⟨rfl, h⟩
  have hkey := hw.intents k i hi
  have hi' := h.intent.symm.trans hi
  cases hl : i.metadata.isDeleted with
  | false =>
    rw [pass_of_live hi hl, pass_of_live hi' hl, ending_congr h hkey hd]
    exact ⟨rfl, (agree_deployed h hkey).recorded i _⟩
  | true =>
    rcases Option.eq_none_or_eq_some m.refusingRelease with hr | ⟨message, hr⟩
    · rw [pass_of_released hi hl hr, pass_of_released hi' hl (h.refusingRelease.symm.trans hr)]
      exact ⟨rfl, h.removeFinalizer hkey intentFinalizer⟩
    · rw [pass_of_kept hi hl hr, pass_of_kept hi' hl (h.refusingRelease.symm.trans hr)]
      exact ⟨rfl, h.recorded i _⟩

/-! ## A pass over another intent -/

def claimKeys (e : Engine) (key : ObjectKey) (m : Memory) : List ObjectKey :=
  match m.intents.find? key with
  | some i =>
    if i.metadata.isDeleted then []
    else
      match e.plan m i with
      | .ok p => p.claims.map (·.metadata.key)
      | .error _ => []
  | none => []

theorem claimKeys_of_plan (hi : m.intents.find? key = some i) (hl : i.metadata.isDeleted = false)
    {p : Plan} (hp : e.plan m i = .ok p) :
    e.claimKeys key m = p.claims.map (·.metadata.key) := by
  simp [claimKeys, hi, hl, hp]

/-- Attachments of nodes with different keys have different keys. -/
theorem attachment_ne (hb : e.registry = .builtin) (hne : k ≠ i.metadata.key) {p : Plan}
    (hp : e.plan m i = .ok p) {a : NetworkAttachment} (ha : a ∈ p.attachments) {x : String}
    (hx : Registry.builtin.Wires x) : (⟨k.ns, partName k.name x⟩ : ObjectKey) ≠ a.metadata.key := by
  obtain ⟨y, hy, hkey⟩ := key_of_selected (plan_eq_ok_iff.1 hp).2.2.1 ha
  have hwires : Registry.builtin.Wires y := ⟨_, p.driver, hb ▸ driver_of_plan hp, hy⟩
  intro h
  obtain ⟨hns, hname⟩ := ObjectKey.mk.inj (h.trans hkey)
  have hlength := (Registry.length_of_wires hx).trans (Registry.length_of_wires hwires).symm
  exact hne (congrArg₂ ObjectKey.mk hns (partName_inj_of_length hlength hname).1)

theorem agree_deployed_of_ne (hb : e.registry = .builtin) (hne : k ≠ i.metadata.key)
    (hs : ∀ c, shared c → ∀ p, e.plan m i = .ok p → c ∉ p.claims.map (·.metadata.key)) :
    (e.deployed i m).AgreeFor k shared m := by
  have hintent : (m.addFinalizer i intentFinalizer).intents.find? k = m.intents.find? k := by
    rw [Memory.addFinalizer, Dict.find?_modify, if_neg hne]
  rcases hp : e.plan m i with stop | p
  · rw [deployed, hp]
    exact { Memory.AgreeFor.refl k shared m with intent := hintent }
  have hpod := Memory.find?_convergePod_ne ((key_of_plan hp).symm ▸ hne) (p.prepared i m)
  rw [deployed_of_plan hp, Memory.convergePod_eq, Plan.prepared_eq]
  refine { Memory.AgreeFor.refl k shared m with
    intent := hintent, pod := ?_, attachments := fun x hx => ?_, claims := fun c hc => ?_ }
  · rw [← Plan.prepared_eq, hpod, Plan.prepared_eq]
  · exact Plan.find?_attachments_prepared_ne fun a ha => attachment_ne hb hne hp ha hx
  · have hnone : p.claims.find? (fun x => x.metadata.key = c) = none := by
      refine List.find?_eq_none.2 fun x hx h => hs c hc p hp ?_
      exact List.mem_map.2 ⟨x, hx, by simpa using h⟩
    show (p.prepared i m).claims.find? c = _
    rw [Plan.find?_claims_prepared, hnone, Option.or_none]

/-- **A pass over another key leaves a memory that is the same to the intent**, but for the claims
that it builds. -/
theorem agree_pass_of_ne (hb : e.registry = .builtin) (hne : k ≠ key) {w : World Bench}
    (hw : w.memory.Filed) (now : Instant) :
    (e.pass World.store (World.link Bench.connector) key now w).2.memory.AgreeFor k
      (· ∉ e.claimKeys key w.memory) w.memory := by
  refine pass_preserves (P := fun m => m.AgreeFor k (· ∉ e.claimKeys key w.memory) w.memory)
    (Memory.AgreeFor.refl k _ w.memory) (fun i hi hl => ?_) (fun i hi _ => ?_)
    (fun i condition m hi hm => ?_) Bench.connector now
  · obtain rfl := hw.intents key i hi
    refine agree_deployed_of_ne hb hne fun c hc p hp => ?_
    rwa [claimKeys_of_plan hi hl hp] at hc
  · obtain rfl := hw.intents key i hi
    rw [Memory.removeFinalizer_eq]
    exact { Memory.AgreeFor.refl k _ w.memory with
      intent := Memory.find?_removeFinalizer_ne hne intentFinalizer w.memory }
  · obtain rfl := hw.intents key i hi
    rw [Memory.recorded_eq]
    exact { hm with intent := (Memory.find?_recorded_ne hne condition m).trans hm.intent }

end Engine

/-! ## Runs -/

def Event.concerns (k : ObjectKey) : Event → Bool
  | .pass _ key _ => key = k
  | .change _ => true

/-- The keys of the claims that an event builds that is a pass over another key. -/
def Event.claimKeysApart (k : ObjectKey) (w : World Bench) : Event → List ObjectKey
  | .pass e key _ => if key = k then [] else e.claimKeys key w.memory
  | .change _ => []

/-- The keys of the claims that the passes over other keys build in a run. -/
def claimKeysApart (k : ObjectKey) : List Event → World Bench → List ObjectKey
  | [], _ => []
  | v :: l, w => v.claimKeysApart k w ++ claimKeysApart k l (v.run w)

/-- **The run without the passes over other keys is the same to the intent**, where both runs begin
with worlds that are. -/
theorem agree_after {k : ObjectKey} {shared : ObjectKey → Prop} {l : List Event}
    {w v : World Bench} (h : w.memory.AgreeFor k shared v.memory) (hw : w.memory.Filed)
    (hd : Bench.Alike w.device v.device)
    (hb : ∀ e key now, .pass e key now ∈ l → e.registry = .builtin)
    (hs : ∀ c, shared c → c ∉ claimKeysApart k l w) :
    outcomesOf k l w = outcomesOf k (l.filter (·.concerns k)) v ∧
      (w.after l).memory.AgreeFor k shared (v.after (l.filter (·.concerns k))).memory := by
  -- With every pass that is left out the worlds differ more, but never in what the intent finds.
  induction l generalizing w v with
  | nil => exact ⟨rfl, h⟩
  | cons u l ih =>
    have hb' : ∀ e key now, .pass e key now ∈ l → e.registry = .builtin :=
      fun e key now hu => hb e key now (List.mem_cons_of_mem u hu)
    have hs' : ∀ c, shared c → c ∉ u.claimKeysApart k w ∧ c ∉ claimKeysApart k l (u.run w) :=
      fun c hc => by simpa [claimKeysApart] using hs c hc
    have hrest {v' : World Bench} (h' : (u.run w).memory.AgreeFor k shared v'.memory)
        (hd' : Bench.Alike (u.run w).device v'.device) :=
      ih h' (u.filed_run hw) hd' hb' fun c hc => (hs' c hc).2
    cases u with
    | change c =>
      rw [List.filter_cons_of_pos rfl]
      exact hrest (h.change c) hd
    | pass e key now =>
      have halike := Engine.alike_pass e key now
      by_cases hk : key = k
      · subst hk
        rw [List.filter_cons_of_pos (by simp [Event.concerns])]
        obtain ⟨hend, hagree⟩ := Engine.agree_pass h hw hd e now
        obtain ⟨hout, hafter⟩ := hrest hagree ((halike w).trans (hd.trans (halike v).symm))
        have houtcome : Event.outcomeOf key w (.pass e key now) =
            Event.outcomeOf key v (.pass e key now) := by
          rw [Event.outcomeOf, Event.outcomeOf, hend]
        refine ⟨?_, hafter⟩
        rw [outcomesOf, outcomesOf, houtcome, hout]
        rfl
      · rw [List.filter_cons_of_neg (by simpa [Event.concerns] using hk)]
        -- The other run goes without this pass, and is none the worse for it.
        have hother := Engine.agree_pass_of_ne (hb e key now List.mem_cons_self) (Ne.symm hk) hw now
        have hshared : (Event.run w (.pass e key now)).memory.AgreeFor k shared w.memory :=
          hother.mono fun c hc => by simpa [Event.claimKeysApart, hk] using (hs' c hc).1
        obtain ⟨hout, hafter⟩ := hrest (hshared.trans h) ((halike w).trans hd)
        refine ⟨?_, hafter⟩
        rw [outcomesOf, hout, Event.outcomeOf, if_neg hk, List.nil_append]

/-- **Passes of different intents do not interfere.** A pass over another key leaves everything as
it is that an intent finds, and changes no claim that is stored, whoever it belongs to. So, in any
run of passes and changes, the passes over a key end as they do in the run without the passes over
other keys, and both runs leave the same intent, pod and attachments, and the same claims under all
keys under which no pass over another key builds a claim. -/
theorem run_isolated (w : World Bench) (hw : w.memory.Filed) :
    (∀ (e : Engine) (key : ObjectKey) (now : Instant) (k : ObjectKey), e.registry = .builtin →
      k ≠ key →
      (Event.run w (.pass e key now)).memory.AgreeFor k (· ∉ e.claimKeys key w.memory) w.memory ∧
      ∀ c claim, w.memory.claims.find? c = some claim →
        (Event.run w (.pass e key now)).memory.claims.find? c = some claim) ∧
    ∀ (k : ObjectKey) (l : List Event),
      (∀ e key now, .pass e key now ∈ l → e.registry = .builtin) →
      outcomesOf k l w = outcomesOf k (l.filter (·.concerns k)) w ∧
      (w.after l).memory.AgreeFor k (· ∉ claimKeysApart k l w)
        (w.after (l.filter (·.concerns k))).memory := by
  constructor
  · intro e key now k hb hne
    exact ⟨Engine.agree_pass_of_ne hb hne hw now,
      fun c claim h => Engine.find?_claims_pass h e Bench.connector key now⟩
  · intro k l hb
    exact agree_after (Memory.AgreeFor.refl k _ w.memory) hw (Bench.Alike.refl w.device) hb
      fun c hc => hc

namespace Sample

def neighbour : NodeIntent where
  metadata := { name := some "leaf2", ns := some "fabric", uid := some "2" }
  spec := ⟨"sros.nokia.com", none⟩
  status := none

def fabric : World Bench := ⟨(memory "first").addIntent neighbour, {}⟩

def turns : List Event := [.pass {} key default, .pass {} ⟨"fabric", "leaf2"⟩ default,
  .change (.setPodStatus ⟨"fabric", "leaf2"⟩ status),
  .pass { attachNetworks := false } ⟨"fabric", "leaf2"⟩ default, .pass {} key default]

end Sample

/-- So it is in the sample, where the passes over the neighbour can be left out. -/
theorem run_isolated_sample : Sample.fabric.memory.Filed ∧
    (∀ e key now, .pass e key now ∈ Sample.turns → e.registry = .builtin) ∧
    (Event.run Sample.fabric (.pass {} ⟨"fabric", "leaf2"⟩ default)).memory.intents.find?
      Sample.key = some Sample.intent ∧
    outcomesOf Sample.key Sample.turns Sample.fabric =
      outcomesOf Sample.key [.pass {} Sample.key default,
        .change (.setPodStatus ⟨"fabric", "leaf2"⟩ Sample.status), .pass {} Sample.key default]
        Sample.fabric := by
  have hfiled : Sample.fabric.memory.Filed :=
    (Sample.filed_memory "first").addIntent Sample.neighbour
  have hbuiltin : ∀ e key now, .pass e key now ∈ Sample.turns → e.registry = .builtin := by
    intro e key now h
    simp only [Sample.turns, List.mem_cons, Event.pass.injEq, reduceCtorEq, List.not_mem_nil,
      or_false, false_or] at h
    rcases h with ⟨rfl, -⟩ | ⟨rfl, -⟩ | ⟨rfl, -⟩ | ⟨rfl, -⟩ <;> rfl
  obtain ⟨hpass, hrun⟩ := run_isolated Sample.fabric hfiled
  obtain ⟨hagree, -⟩ := hpass {} ⟨"fabric", "leaf2"⟩ default Sample.key rfl (by decide)
  exact ⟨hfiled, hbuiltin, hagree.intent.trans rfl, (hrun Sample.key Sample.turns hbuiltin).1⟩

end NodeDeploy
