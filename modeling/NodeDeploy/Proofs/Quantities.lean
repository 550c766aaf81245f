import NodeDeploy.Driver.Family

/-! # Quantities of resources

A container asks for quantities of resources and is held to others. Both come from the defaults of
the family, and the constraints of the configuration are laid over them: every constraint is asked
for, and the limits are those of the family, changed where there is a constraint. A container that
asked for more than it is held to would be refused.

* `Resources.Overlaid`: the quantities that follow from defaults and constraints.
* `Resources.Balanced`: nothing is asked for in another quantity than it is held to.
* `NodeConfigSpec.resources_overlaid`: the resources of a configuration are overlaid, and balanced
  if the defaults of the family agree.
-/

namespace NodeDeploy

/-! ## Agreement -/

namespace Dict

variable {κ α : Type} [Key κ]

/-- No key has different values in two dictionaries. -/
def Agrees (d e : Dict κ α) : Prop := ∀ k x y, d.find? k = some x → e.find? k = some y → x = y

theorem agrees_iff_entries {d e : Dict κ α} :
    d.Agrees e ↔ ∀ x ∈ d.entries, ∀ y ∈ e.entries, x.1 = y.1 → x.2 = y.2 := by
  constructor
  · rintro h ⟨k, x⟩ hx ⟨_, y⟩ hy rfl
    exact h k x y (mem_entries_iff.1 hx) (mem_entries_iff.1 hy)
  · intro h k x y hx hy
    exact h (k, x) (mem_entries_iff.2 hx) (k, y) (mem_entries_iff.2 hy) rfl

instance [DecidableEq κ] [DecidableEq α] (d e : Dict κ α) : Decidable (d.Agrees e) :=
  decidable_of_iff _ agrees_iff_entries.symm

end Dict

/-- A router asks for what it is held to, as far as it asks for it. -/
theorem Family.srOs_agrees (provider : String) :
    (srOs provider).requests.Agrees (srOs provider).limits := by
  have h : (Dict.ofList [("cpu", "2"), ("memory", "8Gi")]).Agrees
      (Dict.ofList [("cpu", "2"), ("memory", "8Gi"), ("hugepages-1Gi", "8Gi")]) := by decide
  exact h

/-! ## Quantities -/

namespace Resources

/-- The quantity of a resource that is asked for. -/
def requested? (r : Resources) (name : String) : Option String := (r.requests.getD {}).find? name

/-- The quantity of a resource that a container is held to. -/
def limited? (r : Resources) (name : String) : Option String := (r.limits.getD {}).find? name

/-- What is both asked for and limited is asked for in the quantity of the limit. -/
def Balanced (r : Resources) : Prop :=
  ∀ name request limit, r.requested? name = some request → r.limited? name = some limit →
    request = limit

/-- The resources are the defaults with the constraints laid over them. -/
structure Overlaid (r : Resources) (constraints requests limits : Dict String String) : Prop where
  /-- Every constraint is asked for, and each default without one. -/
  requested : ∀ name, r.requested? name = (constraints.find? name).or (requests.find? name)
  /-- What has a default limit is limited, to the constraint if there is one. -/
  limited : ∀ name, r.limited? name =
    (limits.find? name).map fun limit => (constraints.find? name).getD limit
  noRequests : r.requests = none ↔
    ∀ name, constraints.find? name = none ∧ requests.find? name = none
  noLimits : r.limits = none ↔ ∀ name, limits.find? name = none

/-- **Constraints keep a balance.** A constraint changes both quantities of a resource, or it is
asked for without a limit. -/
theorem Overlaid.balanced {r : Resources} {constraints requests limits : Dict String String}
    (h : r.Overlaid constraints requests limits) (hagrees : requests.Agrees limits) :
    r.Balanced := by
  intro name request limit hrequest hlimit
  rw [h.requested] at hrequest
  rw [h.limited] at hlimit
  obtain ⟨value, hvalue, hlimit⟩ := Option.map_eq_some_iff.1 hlimit
  cases hc : constraints.find? name with
  | none =>
    rw [hc, Option.none_or] at hrequest
    rw [hc, Option.getD_none] at hlimit
    exact hagrees name request limit hrequest (hlimit ▸ hvalue)
  | some quantity =>
    rw [hc, Option.some_or] at hrequest
    rw [hc, Option.getD_some] at hlimit
    exact (Option.some.inj hrequest).symm.trans hlimit

end Resources

namespace Sample

def enlarged : NodeConfigSpec where
  provider := "sros.nokia.com"
  constraints := Dict.ofList [("memory", "16Gi"), ("ephemeral-storage", "2Gi")]

def quantities : Resources :=
  enlarged.resources (Family.srOs "sros.nokia.com").requests (Family.srOs "sros.nokia.com").limits

end Sample

namespace NodeConfigSpec

theorem overlaid (s : NodeConfigSpec) (requests limits : Dict String String) :
    (s.resources requests limits).Overlaid s.constraints requests limits where
  requested name := by
    rw [Resources.requested?, resources, getD_nonemptyDict, find?_requests]
  limited name := by
    rw [Resources.limited?, resources, getD_nonemptyDict, find?_limits]
  noRequests := by
    simp only [resources, nonemptyDict_eq_none_iff, Dict.eq_empty_iff, find?_requests,
      Option.or_eq_none_iff]
  noLimits := by
    simp only [resources, nonemptyDict_eq_none_iff, Dict.eq_empty_iff, find?_limits,
      Option.map_eq_none_iff]

/-- **Constraints are laid over defaults**, and never make a container ask for more than it is held
to. For all constraints and defaults the quantities are overlaid, a part without quantities being
left out. If the defaults agree, as those of a router do, every resource that is both asked for and
limited is asked for in the quantity of its limit. -/
theorem resources_overlaid (s : NodeConfigSpec) (requests limits : Dict String String) :
    (s.resources requests limits).Overlaid s.constraints requests limits ∧
      (requests.Agrees limits → (s.resources requests limits).Balanced) ∧
      ∀ provider,
        (s.resources (Family.srOs provider).requests (Family.srOs provider).limits).Balanced :=
  ⟨s.overlaid requests limits, (s.overlaid requests limits).balanced,
    fun provider => (s.overlaid _ _).balanced (Family.srOs_agrees provider)⟩

/-- The memory changes in both quantities, and the storage is asked for without a limit. -/
theorem resources_overlaid_sample :
    (Family.srOs "sros.nokia.com").requests.Agrees (Family.srOs "sros.nokia.com").limits ∧
    Sample.quantities.requested? "memory" = some "16Gi" ∧
    Sample.quantities.limited? "memory" = some "16Gi" ∧
    Sample.quantities.requested? "ephemeral-storage" = some "2Gi" ∧
    Sample.quantities.limited? "ephemeral-storage" = none ∧ Sample.quantities.Balanced := by
  have hagrees := Family.srOs_agrees "sros.nokia.com"
  obtain ⟨-, hbalanced, -⟩ := Sample.enlarged.resources_overlaid
    (Family.srOs "sros.nokia.com").requests (Family.srOs "sros.nokia.com").limits
  exact ⟨hagrees, by decide, by decide, by decide, by decide, hbalanced hagrees⟩

end NodeConfigSpec

end NodeDeploy
