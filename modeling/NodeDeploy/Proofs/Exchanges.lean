import NodeDeploy.Proofs.Scripts

/-! # Exchanges with a store

Any call of any store may fail. To tell which calls an action makes and what becomes of the failure
of one, the action is run on a store that is listened to: it answers as the store does, and keeps a
record of the calls and their failures.

* `Store.heard` is a store that is listened to, and `Heard` its state.
* `StoreRequest.phase?` is the phase of a pass that a call belongs to. A pass asks for the pod of a
  node twice, to converge it and to wait for it, so it counts whether this is the first time.
* `Traces`: an action does on a store that is listened to what it does on the store, and the first
  call that fails is its last. `Traces.bind` and its siblings are the rules, one for each way to
  build an action.
-/

namespace NodeDeploy

/-! ## Listening to a store -/

inductive StoreRequest where
  | getIntent (key : ObjectKey)
  | updateStatus (intent : NodeIntent)
  | addFinalizer (intent : NodeIntent) (finalizer : String)
  | removeFinalizer (intent : NodeIntent) (finalizer : String)
  | getConfig (key : ObjectKey)
  | listConfigs (ns : String)
  | applyAttachment (attachment : NetworkAttachment)
  | applyClaim (claim : VolumeClaim)
  | getPod (key : ObjectKey)
  | createPod (pod : Pod)
  | deletePod (key : ObjectKey)
  | getSecret (key : ObjectKey)

namespace StoreRequest

/-- Whether a call reads the intent or records its status. -/
def isVital : StoreRequest → Bool
  | .getIntent _ => true
  | .updateStatus _ => true
  | _ => false

def seeksPod : StoreRequest → Bool
  | .getPod _ => true
  | _ => false

/-- The phase of a pass that a call belongs to, given whether the pod has been asked for before.
Reading the intent and recording its status belong to none. -/
def phase? (sought : Bool) : StoreRequest → Option Phase
  | .getIntent _ => none
  | .updateStatus _ => none
  | .addFinalizer _ _ => some .resolving
  | .getConfig _ => some .resolving
  | .listConfigs _ => some .resolving
  | .applyClaim _ => some .attaching
  | .applyAttachment _ => some .attaching
  | .getPod _ => some (if sought then .awaitingReady else .converging)
  | .createPod _ => some .converging
  | .deletePod _ => some .converging
  | .getSecret _ => some .bootstrapping
  | .removeFinalizer _ _ => some .finalizing

theorem isVital_of_phase? {r : StoreRequest} {sought : Bool} {phase : Phase}
    (h : r.phase? sought = some phase) : r.isVital = false := by
  cases r with
  | getIntent key => cases h
  | updateStatus intent => cases h
  | _ => rfl

end StoreRequest

structure Exchange where
  request : StoreRequest
  failure : Option StoreError

def podSought (l : List Exchange) : Bool := l.any (·.request.seeksPod)

/-- The state of a store that is listened to: that of the store, and what was heard. -/
structure Heard (σ : Type) where
  state : σ
  exchanges : List Exchange

section Listening

variable {σ : Type}

def Action.heard {α : Type} (request : StoreRequest) (a : Action σ StoreError α) :
    Action (Heard σ) StoreError α := fun h =>
  match a h.state with
  | (.ok x, t) => (.ok x, ⟨t, h.exchanges ++ [⟨request, none⟩]⟩)
  | (.error error, t) => (.error error, ⟨t, h.exchanges ++ [⟨request, some error⟩]⟩)

def Store.heard (s : Store σ) : Store (Heard σ) where
  getIntent k := (s.getIntent k).heard (.getIntent k)
  updateStatus i := (s.updateStatus i).heard (.updateStatus i)
  addFinalizer i f := (s.addFinalizer i f).heard (.addFinalizer i f)
  removeFinalizer i f := (s.removeFinalizer i f).heard (.removeFinalizer i f)
  getConfig k := (s.getConfig k).heard (.getConfig k)
  listConfigs ns := (s.listConfigs ns).heard (.listConfigs ns)
  applyAttachment a := (s.applyAttachment a).heard (.applyAttachment a)
  applyClaim c := (s.applyClaim c).heard (.applyClaim c)
  getPod k := (s.getPod k).heard (.getPod k)
  createPod p := (s.createPod p).heard (.createPod p)
  deletePod k := (s.deletePod k).heard (.deletePod k)
  getSecret k := (s.getSecret k).heard (.getSecret k)

/-- What is done to the state without a call of the store is not heard. -/
def Action.unheard {ε α : Type} (a : Action σ ε α) : Action (Heard σ) ε α :=
  a.within Heard.state fun s h => { h with state := s }

def Connector.unheard (c : Connector σ) : Connector (Heard σ) :=
  c.within Heard.state fun s h => { h with state := s }

theorem Connector.unheard_runScript (c : Connector σ) (t : SessionTarget) (s : BootstrapScript) :
    c.unheard.runScript t s = (c.runScript t s).unheard := by
  have hpart : IsPart (Heard.state (σ := σ)) fun s h => { h with state := s } :=
    ⟨fun _ _ => rfl, fun _ => rfl, fun _ _ _ => rfl⟩
  exact Connector.within_runScript hpart c t s

theorem Action.run_heard {α : Type} (request : StoreRequest) (a : Action σ StoreError α) (x : σ)
    (l : List Exchange) : a.heard request ⟨x, l⟩ = match a x with
      | (.ok v, y) => (.ok v, ⟨y, l ++ [⟨request, none⟩]⟩)
      | (.error error, y) => (.error error, ⟨y, l ++ [⟨request, some error⟩]⟩) := rfl

end Listening

theorem podSought_append (l t : List Exchange) :
    podSought (l ++ t) = (podSought l || podSought t) := List.any_append

/-! ## What is heard of an action -/

/-- All calls were answered, and each belongs to a phase. -/
def Answered (l : List Exchange) : Prop :=
  ∀ x ∈ l, x.failure = none ∧ x.request.isVital = false

theorem Answered.nil : Answered [] := by
  intro x hx
  cases hx

theorem Answered.single {request : StoreRequest} (h : request.isVital = false) :
    Answered [⟨request, none⟩] := by
  intro x hx
  obtain rfl := List.mem_singleton.1 hx
  exact ⟨rfl, h⟩

theorem Answered.append {l t : List Exchange} (hl : Answered l) (ht : Answered t) :
    Answered (l ++ t) := by
  intro x hx
  rcases List.mem_append.1 hx with hx | hx
  · exact hl x hx
  · exact ht x hx

/-- The exchanges `t` that are heard of an action after `l`, and how the action ends. A call that
fails is the last one, and the action fails with what `blame` makes of the failure and the phase. -/
inductive Trace {ε α : Type} (sought : Bool) (blame : Phase → StoreError → ε → Prop)
    (l : List Exchange) : List Exchange → Except ε α → Prop where
  | value {t : List Exchange} {x : α} (answered : Answered t)
    (hsought : podSought (l ++ t) = sought) :
    Trace sought blame l t (.ok x)
  | error {t : List Exchange} {failure : ε} (answered : Answered t) :
    Trace sought blame l t (.error failure)
  | failed {t : List Exchange} {request : StoreRequest} {phase : Phase} {error : StoreError}
    {failure : ε} (answered : Answered t)
    (hphase : request.phase? (podSought (l ++ t)) = some phase)
    (hblame : blame phase error failure) :
    Trace sought blame l (t ++ [⟨request, some error⟩]) (.error failure)

/-- On a store that is listened to, `a` does what `b` does on the store, and leaves a trace. The
pod has been asked for before if `before` says so, and afterwards, unless the action fails, if
`after` does. -/
def Traces {σ ε α : Type} (before after : Bool) (blame : Phase → StoreError → ε → Prop)
    (a : Action (Heard σ) ε α) (b : Action σ ε α) : Prop :=
  ∀ x l, podSought l = before → ∃ t,
    a ⟨x, l⟩ = ((b x).1, ⟨(b x).2, l ++ t⟩) ∧ Trace after blame l t (b x).1

/-- The failure of a call is that of its step, and the call belongs to the phase of the step. -/
def BlamesStep (step : Phase) (phase : Phase) (error : StoreError) (failure : Failure) : Prop :=
  phase = step ∧ failure = .store error

/-- The failure of a call stops a pass in the phase that the call belongs to. -/
def BlamesPass (phase : Phase) (error : StoreError) (stop : Stop) : Prop :=
  stop = .failed phase (.store error)

namespace Traces

variable {σ ε φ α β : Type} {b₁ b₂ b₃ : Bool} {blame : Phase → StoreError → ε → Prop}

theorem pure (v : α) : Traces b₁ b₁ blame (pure v : Action (Heard σ) ε α) (pure v) := by
  intro x l hl
  refine ⟨[], by rw [List.append_nil]; rfl, .value .nil ?_⟩
  rw [List.append_nil, hl]

theorem throw (failure : ε) : Traces b₁ b₂ blame
    (throw failure : Action (Heard σ) ε α) (throw failure) := by
  intro x l _
  exact ⟨[], by rw [List.append_nil]; rfl, .error .nil⟩

theorem ofExcept (r : Except ε α) :
    Traces b₁ b₁ blame (Action.ofExcept r : Action (Heard σ) ε α) (.ofExcept r) := by
  rcases r with failure | v
  · exact throw failure
  · exact pure v

/-- What is not heard leaves no trace. -/
theorem unheard (a : Action σ ε α) : Traces b₁ b₁ blame a.unheard a := by
  intro x l hl
  refine ⟨[], by rw [List.append_nil]; rfl, ?_⟩
  rcases (a x).1 with failure | v
  · exact .error .nil
  · exact .value .nil (by rw [List.append_nil, hl])

/-- **A call is heard**, and its failure is that of the step that it belongs to. -/
theorem call (a : Action σ StoreError α) (request : StoreRequest) {phase : Phase}
    (hphase : request.phase? b₁ = some phase) (hsought : (b₁ || request.seeksPod) = b₂) :
    Traces b₁ b₂ (BlamesStep phase) ((a.heard request).mapError .store) (a.mapError .store) := by
  intro x l hl
  rw [Action.run_mapError, Action.run_mapError, Action.run_heard]
  rcases a x with ⟨error | v, y⟩
  · refine ⟨[⟨request, some error⟩], rfl, ?_⟩
    exact .failed .nil (by rw [List.append_nil, hl, hphase]) ⟨rfl, rfl⟩
  · refine ⟨[⟨request, none⟩], rfl, .value (.single (StoreRequest.isVital_of_phase? hphase)) ?_⟩
    rw [podSought_append, hl, ← hsought]
    simp [podSought]

/-- **One action after another**: the second is heard only if no call of the first has failed. -/
theorem bind {a : Action (Heard σ) ε α} {b : Action σ ε α} {f : α → Action (Heard σ) ε β}
    {g : α → Action σ ε β} (h : Traces b₁ b₂ blame a b)
    (hf : ∀ v, Traces b₂ b₃ blame (f v) (g v)) :
    Traces b₁ b₃ blame (a >>= f) (b >>= g) := by
  intro x l hl
  obtain ⟨t, hrun, htrace⟩ := h x l hl
  rw [Action.run_bind, Action.run_bind, hrun]
  rcases hb : b x with ⟨failure | v, y⟩
  · rw [hb] at htrace
    refine ⟨t, rfl, ?_⟩
    cases htrace with
    | error answered => exact .error answered
    | failed answered hphase hblame => exact .failed answered hphase hblame
  · rw [hb] at htrace
    cases htrace with
    | value answered hsought =>
      obtain ⟨u, hrun', htrace'⟩ := hf v y (l ++ t) hsought
      refine ⟨t ++ u, by rw [← List.append_assoc]; exact hrun', ?_⟩
      generalize (g v y).1 = ending at htrace'
      cases htrace' with
      | value answered' hsought' =>
        exact .value (answered.append answered') (by rw [← List.append_assoc, hsought'])
      | error answered' => exact .error (answered.append answered')
      | @failed u' request phase error failure answered' hphase hblame =>
        rw [← List.append_assoc]
        refine .failed (answered.append answered') ?_ hblame
        rw [← List.append_assoc, hphase]

theorem mapError {blame' : Phase → StoreError → φ → Prop} {a : Action (Heard σ) ε α}
    {b : Action σ ε α} (h : Traces b₁ b₂ blame a b) {f : ε → φ}
    (hf : ∀ phase error failure, blame phase error failure → blame' phase error (f failure)) :
    Traces b₁ b₂ blame' (a.mapError f) (b.mapError f) := by
  intro x l hl
  obtain ⟨t, hrun, htrace⟩ := h x l hl
  refine ⟨t, by rw [Action.run_mapError, Action.run_mapError, hrun], ?_⟩
  rw [Action.run_mapError]
  generalize (b x).1 = ending at htrace
  cases htrace with
  | value answered hsought => exact .value answered hsought
  | error answered => exact .error answered
  | failed answered hphase hblame => exact .failed answered hphase (hf _ _ _ hblame)

/-- A step stops the pass in its phase, which is that of its calls. -/
theorem step {phase : Phase} {a : Action (Heard σ) Failure α} {b : Action σ Failure α}
    (h : Traces b₁ b₂ (BlamesStep phase) a b) :
    Traces b₁ b₂ BlamesPass (Engine.step phase a) (Engine.step phase b) := by
  refine h.mapError ?_
  rintro _ error _ ⟨rfl, rfl⟩
  rfl

end Traces

end NodeDeploy
