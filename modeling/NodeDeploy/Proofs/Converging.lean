import NodeDeploy.Proofs.Parts

/-! # Convergence in a memory

What convergence does to a store in memory, whatever is stored there. A drifted pod is deleted
before the wanted one is created, so that an attempt whose creation is refused leaves neither;
attempts that come after it have one thing less to do, and none of it is done twice.

* `converge_within`: on a store of a part of a state, convergence works on that part. With
  `Engine.run_converge` this gives `Memory.converge_eq`, what it does to a store in memory.
* `Memory.converge_of_carries`, `Memory.converge_of_missing` and `Memory.converge_of_drifted`: its
  cases, by what is stored under the key of the wanted pod.
* `Memory.attempted` is the memory after a list of attempts, each under a refusal of its own or
  none. `Memory.heals_attempt` is one attempt, and `Memory.heals_attempted` all of them: a free
  attempt at the end leaves what a free attempt at the start would have left.
* `converge_heals` is the result.
-/

namespace NodeDeploy

theorem converge_within {σ τ : Type} {get : τ → σ} {set : σ → τ → τ} (h : IsPart get set)
    (s : Store σ) (p : Pod) : converge (s.within get set) p = (converge s p).within get set := by
  rw [converge, converge]
  rcases p.metadata.ns with _ | ns
  · exact (h.within_throw _).symm
  rcases p.revision? with _ | revision
  · exact (h.within_throw _).symm
  dsimp only
  rw [h.within_bind, Action.within_mapError]
  refine congrArg _ (funext fun found => ?_)
  rcases found with _ | running
  · show _ = Action.within get set (_ >>= fun _ => pure _)
    rw [h.within_bind, Action.within_mapError, h.within_pure]
    rfl
  · dsimp only
    split
    · exact (h.within_pure _).symm
    · rw [h.within_bind, Action.within_mapError]
      refine congrArg _ (funext fun _ => ?_)
      rw [h.within_bind, Action.within_mapError, h.within_pure]
      rfl

namespace Memory

variable {p : Pod} {ns revision : String}

/-- **What convergence does to a store in memory**, if the wanted pod has a namespace and a
revision. -/
theorem converge_eq (hns : p.metadata.ns = some ns) (hr : p.revision? = some revision)
    (m : Memory) : converge store p m = match m.convergePod p with
      | (.ok (), n) => (.ok (m.convergence p), n)
      | (.error error, n) => (.error (.store error), n) := by
  have hworld : converge World.store p (⟨m, ()⟩ : World Unit) =
      ((converge store p m).1, ⟨(converge store p m).2, ()⟩) :=
    congrFun (converge_within World.isPart_memory store p) _
  rw [Engine.run_converge hns hr m ()] at hworld
  rcases hc : m.convergePod p with ⟨error | _, n⟩
  · rw [hc] at hworld
    obtain ⟨hresult, hmemory⟩ := Prod.mk.inj hworld
    exact Prod.ext hresult.symm (congrArg World.memory hmemory).symm
  · rw [hc] at hworld
    obtain ⟨hresult, hmemory⟩ := Prod.mk.inj hworld
    exact Prod.ext hresult.symm (congrArg World.memory hmemory).symm

theorem snd_converge (hns : p.metadata.ns = some ns) (hr : p.revision? = some revision)
    (m : Memory) : (converge store p m).2 = (m.convergePod p).2 := by
  rw [converge_eq hns hr]
  rcases m.convergePod p with ⟨_ | _, n⟩ <;> rfl

theorem deletePod_of_missing {k : ObjectKey} {m : Memory} (h : m.pods.find? k = none) :
    m.deletePod k = m := by
  rw [deletePod, Dict.contains, h]
  rfl

theorem deletePod_of_stored {k : ObjectKey} {q : Pod} {m : Memory} (h : m.pods.find? k = some q) :
    m.deletePod k = { m with pods := m.pods.erase k, podDeletes := m.podDeletes + 1 } := by
  rw [deletePod, Dict.contains, h]
  rfl

theorem deletePod_again (k : ObjectKey) (m : Memory) :
    (m.deletePod k).deletePod k = m.deletePod k :=
  deletePod_of_missing (find?_deletePod k m)

theorem converge_of_carries (hns : p.metadata.ns = some ns) (hr : p.revision? = some revision)
    {m : Memory} {q : Pod} (hq : m.pods.find? p.metadata.key = some q)
    (hrun : q.revision? = some revision) : converge store p m = (.ok .unchanged, m) := by
  have hc : m.carries p = true := (carries_iff hr).2 ⟨q, hq, hrun⟩
  rw [converge_eq hns hr, convergePod_of_carries hc, convergence, hq]
  dsimp only
  rw [if_pos (hrun.trans hr.symm)]

/-- **Without a pod, the wanted one is created**, or nothing happens. -/
theorem converge_of_missing (hns : p.metadata.ns = some ns) (hr : p.revision? = some revision)
    {m : Memory} (hm : m.pods.find? p.metadata.key = none) :
    converge store p m = match m.refusingPods with
      | none => (.ok .created, { m with
          pods := m.pods.insert p.metadata.key { p with status := m.initialStatus }
          podCreates := m.podCreates + 1 })
      | some message => (.error (.store (.backend message)), m) := by
  have hc : m.carries p = false := by
    rw [carries, hm]
    rfl
  have hword : m.convergence p = .created := by
    rw [convergence, hm]
  rw [converge_eq hns hr, hword]
  rcases hf : m.refusingPods with _ | message
  · rw [convergePod_of_created hc hf, deletePod_of_missing hm, hf]
  · rw [convergePod_of_refused hc hf, deletePod_of_missing hm]

/-- **A pod of another revision goes away**, and the wanted one is created unless that is
refused. -/
theorem converge_of_drifted (hns : p.metadata.ns = some ns) (hr : p.revision? = some revision)
    {m : Memory} {q : Pod} (hq : m.pods.find? p.metadata.key = some q)
    (hrun : q.revision? ≠ some revision) :
    converge store p m = match m.refusingPods with
      | none => (.ok .recreated, { m with
          pods := m.pods.insert p.metadata.key { p with status := m.initialStatus }
          podCreates := m.podCreates + 1
          podDeletes := m.podDeletes + 1 })
      | some message => (.error (.store (.backend message)), { m with
          pods := m.pods.erase p.metadata.key
          podDeletes := m.podDeletes + 1 }) := by
  have hc : m.carries p = false := by
    refine Bool.eq_false_iff.2 fun hc => ?_
    obtain ⟨q', hq', hrun'⟩ := (carries_iff hr).1 hc
    rw [hq] at hq'
    exact hrun (Option.some.inj hq' ▸ hrun')
  have hword : m.convergence p = .recreated := by
    rw [convergence, hq]
    dsimp only
    rw [if_neg fun h => hrun (h.trans hr)]
  rw [converge_eq hns hr, hword]
  rcases hf : m.refusingPods with _ | message
  · rw [convergePod_of_created hc hf, deletePod_of_stored hq, hf]
  · rw [convergePod_of_refused hc hf, deletePod_of_stored hq, hf]

/-! ## Attempts, one after the other -/

/-- The memory with all creations of pods refused in some words, or none. -/
def refusing (refusal : Option String) (m : Memory) : Memory :=
  { m with refusingPods := refusal }

/-- The memory after attempts at convergence, each under its own refusal or none. -/
def attempted (p : Pod) (refusals : List (Option String)) (m : Memory) : Memory :=
  refusals.foldl (fun n refusal => (converge store p (n.refusing refusal)).2) m

theorem deletePod_refusing (k : ObjectKey) (refusal : Option String) (m : Memory) :
    (m.refusing refusal).deletePod k = (m.deletePod k).refusing refusal := by
  show (if m.pods.contains k then _ else _) = Memory.refusing refusal (if _ then _ else _)
  split <;> rfl

/-- A drifted pod may as well be gone. -/
theorem convergePod_deletePod {m : Memory} (h : m.carries p = false) :
    (m.deletePod p.metadata.key).convergePod p = m.convergePod p := by
  have hgone : (m.deletePod p.metadata.key).carries p = false := by
    rw [carries, find?_deletePod]
    rfl
  rw [convergePod, convergePod, if_neg (by simp [hgone]), if_neg (by simp [h]), deletePod_again]

/-- **One attempt before a free one makes no difference**: what it has done is not done again. -/
theorem heals_attempt (p : Pod) (refusal : Option String) (m : Memory) :
    ((((m.refusing refusal).convergePod p).2.refusing none).convergePod p).2 =
      ((m.refusing none).convergePod p).2 := by
  cases h : m.carries p with
  | true =>
    have hc : (m.refusing refusal).carries p = true := h
    rw [convergePod_of_carries hc]
    rfl
  | false =>
    have hc : (m.refusing refusal).carries p = false := h
    cases refusal with
    | none =>
      -- The attempt was free itself, and so there is nothing left to do.
      have hfree : ((m.refusing none).convergePod p).2.refusing none =
          ((m.refusing none).convergePod p).2 := by
        rw [convergePod_eq]
        rfl
      rw [hfree, convergePod_again (m := m.refusing none) rfl]
      rw [convergePod_eq]
    | some message =>
      have hdrifted : (m.refusing none).carries p = false := h
      rw [convergePod_of_refused hc rfl, deletePod_refusing]
      show (((m.deletePod p.metadata.key).refusing none).convergePod p).2 = _
      rw [← deletePod_refusing, convergePod_deletePod hdrifted]

/-- **Any attempts before a free one make no difference.** -/
theorem heals_attempted (hns : p.metadata.ns = some ns) (hr : p.revision? = some revision)
    (refusals : List (Option String)) (m : Memory) :
    (((m.attempted p refusals).refusing none).convergePod p).2 =
      ((m.refusing none).convergePod p).2 := by
  induction refusals generalizing m with
  | nil => rfl
  | cons refusal refusals ih =>
    rw [attempted, List.foldl_cons]
    refine (ih _).trans ?_
    rw [snd_converge hns hr]
    exact heals_attempt p refusal m

end Memory

/-- **Convergence does exactly what is missing, and heals.** A pod of the wanted revision under the
wanted key, and nothing else, is left as it is. Otherwise the wanted pod takes the place under the
key with the initial status, after one deletion if there was a pod, and nothing else changes; if its
creation is refused, all that changes is that the pod which was there goes away. Attempts that come
before one that is not refused make no difference to the memory that it leaves, refused as they may
be and however many. -/
theorem converge_heals {p : Pod} {ns revision : String} (hns : p.metadata.ns = some ns)
    (hr : p.revision? = some revision) (m : Memory) :
    (converge Memory.store p m = (.ok .unchanged, m) ↔
      ∃ q, m.pods.find? p.metadata.key = some q ∧ q.revision? = some revision) ∧
    ((converge Memory.store p m).1 = .ok .unchanged →
      converge Memory.store p m = (.ok .unchanged, m)) ∧
    (m.pods.find? p.metadata.key = none →
      converge Memory.store p m = match m.refusingPods with
        | none => (.ok .created, { m with
            pods := m.pods.insert p.metadata.key { p with status := m.initialStatus }
            podCreates := m.podCreates + 1 })
        | some message => (.error (.store (.backend message)), m)) ∧
    (∀ q, m.pods.find? p.metadata.key = some q → q.revision? ≠ some revision →
      converge Memory.store p m = match m.refusingPods with
        | none => (.ok .recreated, { m with
            pods := m.pods.insert p.metadata.key { p with status := m.initialStatus }
            podCreates := m.podCreates + 1
            podDeletes := m.podDeletes + 1 })
        | some message => (.error (.store (.backend message)), { m with
            pods := m.pods.erase p.metadata.key
            podDeletes := m.podDeletes + 1 })) ∧
    ∀ refusals : List (Option String), ∃ done,
      converge Memory.store p ((m.attempted p refusals).refusing none) =
        (.ok done, (converge Memory.store p (m.refusing none)).2) := by
  have hmissing := Memory.converge_of_missing hns hr (m := m)
  have hdrifted := fun q => Memory.converge_of_drifted hns hr (m := m) (q := q)
  have hunchanged : (converge Memory.store p m).1 = .ok .unchanged →
      ∃ q, m.pods.find? p.metadata.key = some q ∧ q.revision? = some revision := by
    intro hend
    cases hq : m.pods.find? p.metadata.key with
    | none =>
      rw [hmissing hq] at hend
      split at hend <;> cases hend
    | some q =>
      by_cases hrun : q.revision? = some revision
      · exact ⟨q, rfl, hrun⟩
      · rw [hdrifted q hq hrun] at hend
        split at hend <;> cases hend
  have hstays : (∃ q, m.pods.find? p.metadata.key = some q ∧ q.revision? = some revision) →
      converge Memory.store p m = (.ok .unchanged, m) := by
    rintro ⟨q, hq, hrun⟩
    exact Memory.converge_of_carries hns hr hq hrun
  refine ⟨⟨fun h => hunchanged (by rw [h]), hstays⟩, fun h => hstays (hunchanged h), hmissing,
    hdrifted, fun refusals => ?_⟩
  have hgranted := Memory.convergePod_of_granted (m := (m.attempted p refusals).refusing none) rfl p
  have hheals := Memory.heals_attempted hns hr refusals m
  rw [Memory.snd_converge hns hr, Memory.converge_eq hns hr]
  rcases hc : ((m.attempted p refusals).refusing none).convergePod p with ⟨error | _, n⟩
  · rw [hc] at hgranted
    cases hgranted
  · rw [hc] at hheals
    exact ⟨_, Prod.ext rfl hheals⟩

namespace Sample

def podOf (revision : String) : Pod where
  metadata := Metadata.annotate { name := some "leaf1", ns := some "fabric" }
    revisionAnnotation revision
  spec := none
  status := none

def drifted : Memory :=
  { initialStatus := some status, pods := Dict.ofList [(key, podOf "1")] }

end Sample

/-- A drifted pod is replaced: after two attempts that were refused, one that is not leaves the
wanted pod, and the deletion and the creation were made once each. -/
theorem converge_heals_sample : (Sample.podOf "2").metadata.ns = some "fabric" ∧
    (Sample.podOf "2").revision? = some "2" ∧
    ∃ done n, converge Memory.store (Sample.podOf "2") ((Sample.drifted.attempted (Sample.podOf "2")
        [some "quota exceeded", some "forbidden"]).refusing none) = (.ok done, n) ∧
      n.pods.find? Sample.key = some { Sample.podOf "2" with status := some Sample.status } ∧
      n.podCreates = 1 ∧ n.podDeletes = 1 := by
  have hr : (Sample.podOf "2").revision? = some "2" := by decide
  have hkey : (Sample.podOf "2").metadata.key = Sample.key := rfl
  obtain ⟨-, -, -, hdrifted, -⟩ :=
    converge_heals (p := Sample.podOf "2") rfl hr (Sample.drifted.refusing none)
  obtain ⟨-, -, -, -, hheals⟩ := converge_heals (p := Sample.podOf "2") rfl hr Sample.drifted
  obtain ⟨done, hdone⟩ := hheals [some "quota exceeded", some "forbidden"]
  rw [hdrifted (Sample.podOf "1") rfl (by decide)] at hdone
  refine ⟨rfl, hr, done, _, hdone, ?_, rfl, rfl⟩
  rw [hkey]
  exact Dict.find?_insert_self _ _ _

end NodeDeploy
