import NodeDeploy.Proofs.Codecs
import NodeDeploy.Proofs.Offsets

/-! # Custom resources come back from JSON

What the specifications and conditions of this group of resources say survives being written and
read. What is read of any JSON value, with its members in any order, defaults left out or a time at
any offset, has one written form, which stays as it is from then on.

* `Json.Lossless`: reading and writing fit together. A reader that yields only values that survive
  makes a lossless pair (`Json.Lossless.of_survives`).
* `Condition.recordable_of_ofJson?` and `NodeIntentStatus.recordable_of_ofJson?`: a time that is
  read from JSON can be named.
* `custom_resources_lossless`: all of them are lossless, and a time that is given at an offset is
  that instant.
-/

namespace NodeDeploy

namespace Json

variable {α : Type} {read : Json → Option α} {write : α → Json} {members : List (String × Json)}
  {name : String}

/-! ## Reading and writing back -/

/-- A value is read from what is written of it, be that a JSON value or its text. -/
def Restores (read : Json → Option α) (write : α → Json) (x : α) : Prop :=
  read (write x) = some x ∧ (parse? (write x).text).bind read = some x

/-- What is written of the value that is read. -/
def rewritten (read : Json → Option α) (write : α → Json) (j : Json) : Option Json :=
  (read j).map write

/-- Reading and writing lose nothing of the values that fit. -/
structure Lossless (read : Json → Option α) (write : α → Json) (Fits : α → Prop) : Prop where
  restores : ∀ x, Fits x → Restores read write x
  /-- Whatever is read comes back, -/
  settles : ∀ j x, read j = some x → Restores read write x
  /-- and what is written of it is not changed by reading it again. -/
  fixed : ∀ j k, rewritten read write j = some k → rewritten read write k = some k

theorem Survives.restores {x : α} (h : Survives read write x) : Restores read write x :=
  ⟨h.reads, by rw [parse?_text h.plain]; exact h.reads⟩

/-- **Nothing is lost if the values that fit survive and nothing else is read.** -/
theorem Lossless.of_survives {Fits : α → Prop} (hsurvives : ∀ x, Fits x → Survives read write x)
    (hread : ∀ j x, read j = some x → Fits x) : Lossless read write Fits where
  restores x hx := (hsurvives x hx).restores
  settles j x hj := (hsurvives x (hread j x hj)).restores
  fixed j k hj := by
    obtain ⟨x, hx, rfl⟩ := Option.map_eq_some_iff.1 hj
    rw [rewritten, (hsurvives x (hread j x hx)).reads]
    rfl

/-! ## Where the parts of a value come from -/

theorem exists_of_mem_mapM_some {l : List Json} {r : List α} (h : l.mapM read = some r) {x : α}
    (hx : x ∈ r) : ∃ j ∈ l, read j = some x := by
  induction l generalizing r with
  | nil =>
    obtain rfl := Option.some.inj h
    exact absurd hx List.not_mem_nil
  | cons j l ih =>
    rw [List.mapM_cons] at h
    obtain ⟨y, hy, h⟩ := Option.bind_eq_some_iff.1 h
    obtain ⟨s, hs, h⟩ := Option.bind_eq_some_iff.1 h
    obtain rfl := Option.some.inj h
    rcases List.mem_cons.1 hx with rfl | hx
    · exact ⟨j, List.mem_cons_self, hy⟩
    · obtain ⟨k, hk, hread⟩ := ih hs hx
      exact ⟨k, List.mem_cons_of_mem j hk, hread⟩

/-- The value that counts was read from one of those under the name. -/
theorem exists_of_readLast {values : List Json} {x : α}
    (h : readLast read values = some (some x)) : ∃ j ∈ values, read j = some x := by
  obtain ⟨l, hl, hlast⟩ := Option.map_eq_some_iff.1 h
  exact exists_of_mem_mapM_some hl (List.mem_of_getLast? hlast)

theorem exists_of_required {x : α} (h : required members name read = some x) :
    ∃ j, read j = some x := by
  obtain ⟨y, hy, rfl⟩ := Option.bind_eq_some_iff.1 h
  obtain ⟨j, -, hj⟩ := exists_of_readLast hy
  exact ⟨j, hj⟩

/-- A member that may be absent has its default, or was read from a value. -/
theorem exists_of_defaulted {default x : α} (h : defaulted members name read default = some x) :
    x = default ∨ ∃ j, read j = some x := by
  obtain ⟨y, hy, rfl⟩ := Option.map_eq_some_iff.1 h
  cases y with
  | none => exact .inl rfl
  | some y =>
    obtain ⟨j, -, hj⟩ := exists_of_readLast hy
    exact .inr ⟨j, hj⟩

theorem exists_of_readList {l : List α} {j : Json} (h : readList read j = some l) {x : α}
    (hx : x ∈ l) : ∃ k, read k = some x := by
  cases j with
  | arr items =>
    obtain ⟨k, -, hk⟩ := exists_of_mem_mapM_some h hx
    exact ⟨k, hk⟩
  | _ => cases h

end Json

/-! ## Conditions -/

namespace Condition

/-- **The time of a condition that is read can be recorded.** -/
theorem recordable_of_ofJson? {j : Json} {c : Condition} (h : ofJson? j = some c) :
    c.lastTransitionTime.Recordable := by
  obtain ⟨m, -, h⟩ := Option.bind_eq_some_iff.1 h
  obtain ⟨type, -, h⟩ := Option.bind_eq_some_iff.1 h
  obtain ⟨status, -, h⟩ := Option.bind_eq_some_iff.1 h
  obtain ⟨reason, -, h⟩ := Option.bind_eq_some_iff.1 h
  obtain ⟨message, -, h⟩ := Option.bind_eq_some_iff.1 h
  obtain ⟨time, htime, h⟩ := Option.bind_eq_some_iff.1 h
  obtain rfl := Option.some.inj h
  obtain ⟨k, hk⟩ := Json.exists_of_required htime
  obtain ⟨s, -, hs⟩ := Option.bind_eq_some_iff.1 hk
  exact Rfc3339.recordable_of_read? hs

end Condition

theorem NodeIntentStatus.recordable_of_ofJson? {j : Json} {s : NodeIntentStatus}
    (h : ofJson? j = some s) : ∀ c ∈ s.conditions, c.lastTransitionTime.Recordable := by
  obtain ⟨m, -, h⟩ := Option.bind_eq_some_iff.1 h
  obtain ⟨conditions, hconditions, h⟩ := Option.bind_eq_some_iff.1 h
  obtain rfl := Option.some.inj h
  intro c hc
  rcases Json.exists_of_defaulted hconditions with rfl | ⟨k, hk⟩
  · exact absurd hc List.not_mem_nil
  · obtain ⟨k, hk⟩ := Json.exists_of_readList hk hc
    exact Condition.recordable_of_ofJson? hk

/-! ## All custom resources -/

/-- **Custom resources survive a write and a read.** Any specification, and any condition whose time
can be named, is read from what is written of it. Whatever JSON value is read as one, what is
written of it is read as the same, and is written the same again. A time that is given at an offset
is the instant itself, and is written in UTC. -/
theorem custom_resources_lossless :
    Json.Lossless NodeIntentSpec.ofJson? NodeIntentSpec.toJson (fun _ => True) ∧
    Json.Lossless NodeConfigSpec.ofJson? NodeConfigSpec.toJson (fun _ => True) ∧
    Json.Lossless NodeIntentStatus.ofJson? NodeIntentStatus.toJson
      (fun s => ∀ c ∈ s.conditions, c.lastTransitionTime.Recordable) ∧
    Json.Lossless Condition.ofJson? Condition.toJson (fun c => c.lastTransitionTime.Recordable) ∧
    Json.Lossless NetworkAttachment.configOfJson?
      (fun config => .record [("config", some (.str config))]) (fun _ => True) ∧
    ∀ (c : Condition) (o : UtcOffset), c.lastTransitionTime.Recordable →
      (c.lastTransitionTime.shifted o).Recordable →
      Condition.ofJson? (c.jsonSince (c.lastTransitionTime.textAt o)) = some c ∧
      Json.rewritten Condition.ofJson? Condition.toJson
        (c.jsonSince (c.lastTransitionTime.textAt o)) = some c.toJson := by
  refine ⟨?_, ?_, ?_, ?_, ?_, fun c o hc hlocal => ?_⟩
  · exact .of_survives (fun s _ => s.survives) fun _ _ _ => trivial
  · exact .of_survives (fun s _ => s.survives) fun _ _ _ => trivial
  · exact .of_survives (fun s hs => NodeIntentStatus.survives hs) fun _ _ hj =>
      NodeIntentStatus.recordable_of_ofJson? hj
  · exact .of_survives (fun c hc => Condition.survives hc) fun _ _ hj =>
      Condition.recordable_of_ofJson? hj
  · exact .of_survives (fun config _ => NetworkAttachment.survives_config config) fun _ _ _ =>
      trivial
  · have hread := Condition.ofJson?_jsonSince (Instant.read?_textAt hc hlocal)
    exact ⟨hread, by rw [Json.rewritten, hread]; rfl⟩

namespace Sample

/-- A node that is not ready since the middle of a leap second. -/
def sinceLeap : Condition := ⟨.ready, .fails, .unknown, "pod not ready", ⟨1483228799, 1500000000⟩⟩

def west : UtcOffset := ⟨false, 5, 30, by decide, by decide⟩

theorem recordable_sinceLeap : sinceLeap.lastTransitionTime.Recordable where
  year := by decide
  nanos := by decide
  leap _ := by decide

theorem recordable_shifted : (sinceLeap.lastTransitionTime.shifted west).Recordable where
  year := by decide
  nanos := by decide
  leap _ := by decide

end Sample

/-- So it is with the leap second at the end of 2016, given in the afternoon of its day. -/
theorem custom_resources_lossless_sample :
    Sample.sinceLeap.lastTransitionTime.Recordable ∧
    (Sample.sinceLeap.lastTransitionTime.shifted Sample.west).Recordable ∧
    Sample.sinceLeap.lastTransitionTime.textAt Sample.west = "2016-12-31T18:29:60.500-05:30" ∧
    Condition.ofJson? (Sample.sinceLeap.jsonSince "2016-12-31T18:29:60.500-05:30") =
      some Sample.sinceLeap ∧
    Json.Restores Condition.ofJson? Condition.toJson Sample.sinceLeap := by
  obtain ⟨-, -, -, hcondition, -, hoffset⟩ := custom_resources_lossless
  have htext : Sample.sinceLeap.lastTransitionTime.textAt Sample.west =
      "2016-12-31T18:29:60.500-05:30" := by
    decide +kernel
  obtain ⟨hread, -⟩ := hoffset Sample.sinceLeap Sample.west Sample.recordable_sinceLeap
    Sample.recordable_shifted
  rw [htext] at hread
  exact ⟨Sample.recordable_sinceLeap, Sample.recordable_shifted, htext, hread,
    hcondition.restores _ Sample.recordable_sinceLeap⟩

end NodeDeploy
