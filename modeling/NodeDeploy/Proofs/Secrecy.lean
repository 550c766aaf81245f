import NodeDeploy.Proofs.Quoting
import NodeDeploy.Proofs.Reaching

/-! # What an intent reports of secrets

Two passes that differ only in a private key and in a password, with a device that does not look at
what it is sent, shall report the same. They do, but for one case: the command that installs the
private key holds the key, and a command that is rejected is part of the report.

* `BlindDevice` takes or rejects commands by their number.
* `Memory.Twins`: two memories differ only in the private key of a node and in the password of its
  provider.
* `errand_twins`: then the passes end the same, or come to scripts that differ in the key only.
* `reported_eq_iff`: the reports are the same unless the device rejects the command with the key,
  and then they tell the key.
-/

namespace NodeDeploy

/-! ## Devices that do not look at what they are sent -/

/-- A device that takes or rejects commands by their number. -/
structure BlindDevice where
  login : Except DeviceError Unit
  /-- What the device answers to the command of a number if it rejects it. -/
  rejection : Nat → Option String
  closing : Except DeviceError Unit

namespace BlindDevice

def connector (b : BlindDevice) : Connector Nat where
  openSession _ := fun n => (b.login, n)
  send _ command _ := fun n => match b.rejection n with
    | some output => (.error (.commandFailed command output), n + 1)
    | none => (.ok "", n + 1)
  close _ := fun n => (b.closing, n)

/-- How the device answers commands from a number on, and the number of the next one. -/
def answer (b : BlindDevice) : List (SendMode × String) → Nat → Except DeviceError Unit × Nat
  | [], n => (.ok (), n)
  | (_, command) :: rest, n => match b.rejection n with
    | some output => (.error (.commandFailed command output), n + 1)
    | none => b.answer rest (n + 1)

theorem run_sendEach (b : BlindDevice) (t : SessionTarget) (l : List (SendMode × String))
    (n : Nat) : b.connector.sendEach t l n = b.answer l n := by
  induction l generalizing n with
  | nil => rfl
  | cons x l ih =>
    obtain ⟨mode, command⟩ := x
    have hsend : b.connector.send t command mode n = match b.rejection n with
      | some output => (.error (.commandFailed command output), n + 1)
      | none => (.ok "", n + 1) := rfl
    rw [Connector.sendEach, Action.run_bind, hsend, answer]
    rcases b.rejection n with _ | output
    · exact ih (n + 1)
    · rfl

/-- How a run of a script ends, whatever the target. -/
theorem run_script (b : BlindDevice) (t : SessionTarget) (s : BootstrapScript) (n : Nat) :
    (b.connector.runScript t s n).1 = (do
      b.login
      (b.answer s.commands n).1
      b.closing) := by
  have hopen : b.connector.openSession t n = (b.login, n) := rfl
  rw [Connector.runScript_eq, Action.run_bind, hopen]
  rcases b.login with error | _
  · rfl
  have hclose (k : Nat) : b.connector.close t k = (b.closing, k) := rfl
  simp only [Connector.followedBy, run_sendEach, hclose]
  rcases b.answer s.commands n with ⟨error | _, k⟩ <;> rfl

/-- The device rejects the fourth command from a number on, and none before. -/
def RejectsFourth (b : BlindDevice) (n : Nat) (output : String) : Prop :=
  b.login = .ok () ∧ b.rejection n = none ∧ b.rejection (n + 1) = none ∧
    b.rejection (n + 2) = none ∧ b.rejection (n + 3) = some output

variable {b : BlindDevice} {n : Nat} {s s' : BootstrapScript} {c₁ c₂ c₃ : SendMode × String}
  {mode : SendMode} {x y : String} {post : List (SendMode × String)}

theorem run_of_rejected {output : String} (h : b.RejectsFourth n output)
    (hs : s.commands = c₁ :: c₂ :: c₃ :: (mode, x) :: post) (t : SessionTarget) :
    (b.connector.runScript t s n).1 = .error (.commandFailed x output) := by
  obtain ⟨hlogin, h₁, h₂, h₃, h₄⟩ := h
  rw [run_script, hlogin, hs]
  simp only [answer, h₁, h₂, h₃, h₄]
  rfl

/-- Scripts that differ in the fourth command only are told apart by its rejection only. -/
theorem run_twins (h : ∀ output, ¬b.RejectsFourth n output)
    (hs : s.commands = c₁ :: c₂ :: c₃ :: (mode, x) :: post)
    (hs' : s'.commands = c₁ :: c₂ :: c₃ :: (mode, y) :: post) (t t' : SessionTarget) :
    (b.connector.runScript t s n).1 = (b.connector.runScript t' s' n).1 := by
  rw [run_script, run_script, hs, hs']
  rcases hlogin : b.login with error | _
  · rfl
  simp only [answer]
  rcases h₁ : b.rejection n with _ | _
  · rcases h₂ : b.rejection (n + 1) with _ | _
    · rcases h₃ : b.rejection (n + 1 + 1) with _ | _
      · rcases h₄ : b.rejection (n + 1 + 1 + 1) with _ | output
        · rfl
        · exact absurd ⟨hlogin, h₁, h₂, h₃, h₄⟩ (h output)
      · rfl
    · rfl
  · rfl

end BlindDevice

/-! ## Scripts -/

namespace BootstrapScript

def keyCommand (profile key : String) : String := profileCommand profile ++ " key \"" ++ key ++ "\""

theorem keyCommand_injective {profile k k' : String}
    (h : keyCommand profile k = keyCommand profile k') : k = k' := by
  rw [keyCommand, keyCommand, String.append_left_inj, String.append_right_inj] at h
  exact h

end BootstrapScript

/-- The private key is installed by the fourth command, and no other command depends on it. -/
theorem Layout.script_commands (l : Layout) (bundle : CertificateBundle) : ∃ c₁ c₂ c₃ post,
    ∀ key, (l.script { bundle with key }).commands =
      c₁ :: c₂ :: c₃ :: (.eager, BootstrapScript.keyCommand bundle.profile key) :: post := by
  refine ⟨(.standard, "enter candidate private"),
    (.standard, BootstrapScript.profileCommand bundle.profile),
    (.standard, BootstrapScript.profileCommand bundle.profile ++ " authenticate-client false"),
    (l.script bundle).commands.drop 4, ?_⟩
  cases l <;> exact fun key => rfl

/-! ## Memories that differ in secrets only -/

/-- Two secrets under a key differ at most in the private key, if this is the key of a node, and in
the password, if this is the key of its credentials; either can be used in both. -/
structure Secret.Twins (node login k : ObjectKey) (s t : Secret) : Prop where
  shown : ∀ name, ¬(k = node ∧ name = "tls.key") → ¬(k = login ∧ name = "password") →
    s.text? name = t.text? name
  keys : k = node → (Pem.key? ((s.text? "tls.key").getD "").toList).isSome ∧
    (Pem.key? ((t.text? "tls.key").getD "").toList).isSome
  passwords : k = login → (s.text? "password").isSome ∧ (t.text? "password").isSome

/-- Two memories differ at most in the private key of a node and in the password under the name of
a provider in its namespace. -/
structure Memory.Twins (node : ObjectKey) (provider : String) (m n : Memory) : Prop where
  rest : n = { m with secrets := n.secrets }
  secrets : ∀ k, Option.Rel (Secret.Twins node ⟨node.ns, provider⟩ k)
    (m.secrets.find? k) (n.secrets.find? k)

namespace Memory

variable {node : ObjectKey} {provider : String} {m n : Memory}

theorem Twins.login (h : m.Twins node provider n) :
    (∃ f, m.loginOf ⟨node.ns, provider⟩ = .error f ∧ n.loginOf ⟨node.ns, provider⟩ = .error f) ∨
    ∃ a b, m.loginOf ⟨node.ns, provider⟩ = .ok a ∧ n.loginOf ⟨node.ns, provider⟩ = .ok b := by
  simp only [loginOf, secretOf]
  have hrel := h.secrets ⟨node.ns, provider⟩
  revert hrel
  generalize m.secrets.find? ⟨node.ns, provider⟩ = s?
  generalize n.secrets.find? ⟨node.ns, provider⟩ = t?
  intro hrel
  cases hrel with
  | none => exact .inl ⟨_, rfl, rfl⟩
  | @some s t hst =>
    have husername : s.text? "username" = t.text? "username" :=
      hst.shown "username" (by simp) (by simp)
    obtain ⟨hs, ht⟩ := hst.passwords rfl
    obtain ⟨p, hs⟩ := Option.isSome_iff_exists.1 hs
    obtain ⟨q, ht⟩ := Option.isSome_iff_exists.1 ht
    simp only [bind, Except.bind, Credentials.ofSecret?, hs, ht, husername]
    rcases t.text? "username" with _ | username
    · exact .inl ⟨_, rfl, rfl⟩
    · exact .inr ⟨_, _, rfl, rfl⟩

theorem Twins.bundle (h : m.Twins node provider n) :
    (∃ f, m.bundleOf node = .error f ∧ n.bundleOf node = .error f) ∨
    ∃ a key, m.bundleOf node = .ok a ∧ n.bundleOf node = .ok { a with key } := by
  simp only [bundleOf, secretOf]
  have hrel := h.secrets node
  revert hrel
  generalize m.secrets.find? node = s?
  generalize n.secrets.find? node = t?
  intro hrel
  cases hrel with
  | none => exact .inl ⟨_, rfl, rfl⟩
  | @some s t hst =>
    have hauthority : s.text? "ca.crt" = t.text? "ca.crt" :=
      hst.shown "ca.crt" (by simp) (by simp)
    have hcertificate : s.text? "tls.crt" = t.text? "tls.crt" :=
      hst.shown "tls.crt" (by simp) (by simp)
    obtain ⟨hs, ht⟩ := hst.keys rfl
    obtain ⟨p, hs⟩ := Option.isSome_iff_exists.1 hs
    obtain ⟨q, ht⟩ := Option.isSome_iff_exists.1 ht
    simp only [bind, Except.bind, CertificateBundle.ofSecret, CertificateBundle.ofPem, hs, ht,
      hauthority, hcertificate]
    rcases Pem.certificate? ((t.text? "ca.crt").getD "").toList with _ | authority
    · exact .inl ⟨_, rfl, rfl⟩
    rcases Pem.certificate? ((t.text? "tls.crt").getD "").toList with _ | certificate
    · exact .inl ⟨_, rfl, rfl⟩
    · exact .inr ⟨_, _, rfl, rfl⟩

end Memory

namespace Engine

variable {e : Engine} {key : ObjectKey} {i : NodeIntent} {m n : Memory} {layout : Layout}
  {family : Family}

/-! ## The two passes -/

/-- A pass comes to the script that installs a bundle. -/
structure Reaches (e : Engine) (key : ObjectKey) (i : NodeIntent) (layout : Layout)
    (family : Family) (m : Memory) (bundle : CertificateBundle) : Prop where
  accessible : ∃ config, Accessible e key m i (.network layout family) config
  login : ∃ login, m.loginOf ⟨key.ns, family.provider⟩ = .ok login
  bundled : m.bundleOf key = .ok bundle

theorem Reaches.errand {bundle : CertificateBundle}
    (h : Reaches e i.metadata.key i layout family m bundle) :
    ∃ target, e.errand i.metadata.key i m = .ok (some ⟨target, layout.script bundle⟩) := by
  obtain ⟨⟨config, ha⟩, ⟨login, hlogin⟩, hbundle⟩ := h
  obtain ⟨p, hp, hdriver, -, hc, l, hl⟩ := (accessible_iff ha.stored ha.live).2 ha
  obtain ⟨address, rest, rfl⟩ := List.exists_cons_of_ne_nil (ne_nil_of_podAddresses hl)
  have hkey : (⟨i.metadata.key.ns, i.metadata.displayName⟩ : ObjectKey) = i.metadata.key := rfl
  rw [errand_of_reached hp hc hl, hdriver, errandTo_network, hlogin, hkey, hbundle]
  exact ⟨_, rfl⟩

/-- The secrets have no part in what is needed up to the device. -/
theorem accessible_twin {provider : String} {driver : Driver} {config : NodeConfig}
    (h : m.Twins key provider n) (ha : Accessible e key m i driver config) :
    Accessible e key n i driver config := by
  rw [h.rest]
  exact ⟨ha.stored, ha.live, ha.registered, ha.configured, ha.modelled, ha.identified, ha.converges⟩

/-- What is left to be done on a network device fails the same way in both, or both have a login and
bundles that differ in the private key only. -/
theorem errandTo_twins (e : Engine) (layout : Layout)
    (h : m.Twins i.metadata.key family.provider n) (address : String) (rest : List String) :
    (∃ f, e.errandTo (.network layout family) i.metadata.key.ns i (address :: rest) m = .error f ∧
      e.errandTo (.network layout family) i.metadata.key.ns i (address :: rest) n = .error f) ∨
    (∃ a, m.loginOf ⟨i.metadata.key.ns, family.provider⟩ = .ok a) ∧
      (∃ a, n.loginOf ⟨i.metadata.key.ns, family.provider⟩ = .ok a) ∧
      ∃ bundle other, m.bundleOf i.metadata.key = .ok bundle ∧
        n.bundleOf i.metadata.key = .ok { bundle with key := other } := by
  have hkey : (⟨i.metadata.key.ns, i.metadata.displayName⟩ : ObjectKey) = i.metadata.key := rfl
  rw [errandTo_network, errandTo_network, hkey]
  rcases h.login with ⟨f, hm, hn⟩ | ⟨a, a', hm, hn⟩
  · rw [hm, hn]
    exact .inl ⟨f, rfl, rfl⟩
  rcases h.bundle with ⟨f, hbm, hbn⟩ | ⟨bundle, other, hbm, hbn⟩
  · rw [hm, hn, hbm, hbn]
    exact .inl ⟨f, rfl, rfl⟩
  · exact .inr ⟨⟨a, hm⟩, ⟨a', hn⟩, bundle, other, hbm, hbn⟩

/-- **Two passes whose memories differ in secrets only end the same before the device**, or come to
scripts that differ in the private key only. -/
theorem errand_twins (h : m.Twins i.metadata.key family.provider n)
    (hi : m.intents.find? i.metadata.key = some i) (hl : i.metadata.isDeleted = false)
    (hd : Dict.find? e.registry i.spec.provider = some (.network layout family)) :
    (∃ stop, e.errand i.metadata.key i m = .error stop ∧
      e.errand i.metadata.key i n = .error stop) ∨
    ∃ bundle other, Reaches e i.metadata.key i layout family m bundle ∧
      Reaches e i.metadata.key i layout family n { bundle with key := other } := by
  have hconfigs : n.configs = m.configs := by rw [h.rest]
  have hplan := plan_congr (e := e) hconfigs i
  rcases hp : e.plan m i with stop | p
  · exact .inl ⟨stop, errand_of_no_plan hp, errand_of_no_plan (hplan.trans hp)⟩
  have hpn := hplan.trans hp
  have hdriver : p.driver = .network layout family := by
    obtain ⟨hresolved, -⟩ := plan_eq_ok_iff.1 hp
    have hregistered := (resolved_eq_ok_iff.1 hresolved).1
    exact Option.some.inj (hregistered.symm.trans hd)
  -- Convergence and its pod are the same in both, since no secret has a part in them.
  obtain ⟨hsame, hpods⟩ := Memory.convergePod_congr (p := p.pod) (m := p.prepared i n)
    (n := p.prepared i m) (by rw [Plan.prepared_eq, Plan.prepared_eq p i m, h.rest])
    (by rw [Plan.prepared_eq, Plan.prepared_eq p i m, h.rest])
    (by rw [Plan.prepared_eq, Plan.prepared_eq p i m, h.rest])
  rcases hc : ((p.prepared i m).convergePod p.pod).1 with error | ⟨⟩
  · exact .inl ⟨_, errand_of_refused hp hc, errand_of_refused hpn (hsame.trans hc)⟩
  have hcn := hsame.trans hc
  rcases ha : podAddresses (((p.prepared i m).convergePod p.pod).2.pods.find? i.metadata.key) with
    reason | l
  · exact .inl ⟨_, errand_of_waiting hp hc ha, errand_of_waiting hpn hcn (hpods ▸ ha)⟩
  have haccessible := (accessible_iff hi hl).1 ⟨p, hp, hdriver, rfl, hc, _, ha⟩
  obtain ⟨address, rest, rfl⟩ := List.exists_cons_of_ne_nil (ne_nil_of_podAddresses ha)
  rcases errandTo_twins e layout h address rest with
    ⟨f, hm, hn⟩ | ⟨hm, hn, bundle, other, hbm, hbn⟩
  · refine .inl ⟨.failed .bootstrapping f, ?_, ?_⟩
    · rw [errand_of_reached hp hc ha, hdriver, hm]
      rfl
    · rw [errand_of_reached hpn hcn (hpods ▸ ha), hdriver, hn]
      rfl
  · exact .inr ⟨bundle, other, ⟨⟨_, haccessible⟩, hm, hbm⟩,
      ⟨⟨_, accessible_twin h haccessible⟩, hn, hbn⟩⟩

/-! ## The two reports -/

/-- What the intent of a key reports after a pass. -/
def reported {δ : Type} (e : Engine) (c : Connector δ) (key : ObjectKey) (now : Instant)
    (w : World δ) : Option ConditionState :=
  ((e.pass World.store (World.link c) key now w).2.memory.intents.find? key).bind
    NodeIntent.readyState?

theorem reported_of_live {δ : Type} (c : Connector δ) (now : Instant) (d : δ)
    (hi : m.intents.find? i.metadata.key = some i) (hl : i.metadata.isDeleted = false) :
    e.reported c i.metadata.key now ⟨m, d⟩ =
      some (endCondition now (e.ending c i.metadata.key i m d).1).state := by
  rw [reported, pass_of_live hi hl c now d]
  dsimp only
  rw [Memory.find?_recorded _ (find?_deployed hi) rfl]
  exact NodeIntent.readyState?_of_statusTelling (endCondition_type now _) rfl

theorem ending_of_errand {δ : Type} {c : Connector δ} {d : δ} {target : SessionTarget}
    {script : BootstrapScript} (h : e.errand key i m = .ok (some ⟨target, script⟩)) :
    (e.ending c key i m d).1 = (c.runScript target script d).1.mapError fun error =>
      .failed .bootstrapping (.bootstrap error) := by
  rw [ending, h]
  rfl

theorem ending_of_stop {δ : Type} {c : Connector δ} {d : δ} {stop : Stop}
    (h : e.errand key i m = .error stop) : (e.ending c key i m d).1 = .error stop := by
  rw [ending, h]

variable {b : BlindDevice} {count : Nat} {bundle : CertificateBundle} {output other : String}

/-- If the fourth command is rejected, the pass stops with the command that holds the key. -/
theorem ending_of_rejected (h : Reaches e i.metadata.key i layout family m bundle)
    (hr : b.RejectsFourth count output) :
    (e.ending b.connector i.metadata.key i m count).1 = .error (.failed .bootstrapping (.bootstrap
      (.commandFailed (BootstrapScript.keyCommand bundle.profile bundle.key) output))) := by
  obtain ⟨target, herrand⟩ := h.errand
  obtain ⟨c₁, c₂, c₃, post, hcommands⟩ := layout.script_commands bundle
  rw [ending_of_errand herrand, BlindDevice.run_of_rejected hr (hcommands bundle.key)]
  rfl

/-- If it is not, the key has no part in the end of the pass. -/
theorem ending_twins (h : Reaches e i.metadata.key i layout family m bundle)
    (h' : Reaches e i.metadata.key i layout family n { bundle with key := other })
    (hr : ∀ output, ¬b.RejectsFourth count output) :
    (e.ending b.connector i.metadata.key i m count).1 =
      (e.ending b.connector i.metadata.key i n count).1 := by
  obtain ⟨target, herrand⟩ := h.errand
  obtain ⟨target', herrand'⟩ := h'.errand
  obtain ⟨c₁, c₂, c₃, post, hcommands⟩ := layout.script_commands bundle
  have hrun := BlindDevice.run_twins (s := layout.script bundle) hr (hcommands bundle.key)
    (hcommands other) target target'
  rw [ending_of_errand herrand, ending_of_errand herrand', hrun]

theorem message_commandFailed (command output : String) :
    (DeviceError.commandFailed command output).message =
      "command " ++ quoted command ++ " failed: " ++ output := rfl

/-- The text of a failure tells the command that failed. -/
theorem commandFailed_message_injective {command command' output : String}
    (h : (DeviceError.commandFailed command output).message =
      (DeviceError.commandFailed command' output).message) : command = command' := by
  rw [message_commandFailed, message_commandFailed] at h
  have hfailed := (String.append_left_inj output).1 h
  have hquoted := (String.append_left_inj " failed: ").1 hfailed
  exact quoted_injective ((String.append_right_inj "command ").1 hquoted)

/-- **A report of the rejected command tells the private key.** -/
theorem state_rejected_iff (profile k k' output : String) (now later : Instant) :
    (endCondition now (.error (.failed .bootstrapping (.bootstrap
        (.commandFailed (BootstrapScript.keyCommand profile k) output))))).state =
      (endCondition later (.error (.failed .bootstrapping (.bootstrap
        (.commandFailed (BootstrapScript.keyCommand profile k') output))))).state ↔ k = k' := by
  constructor
  · intro h
    have hmessage := congrArg ConditionState.message h
    have hdevice := (String.append_right_inj "bootstrap failed: ").1 hmessage
    exact BootstrapScript.keyCommand_injective (commandFailed_message_injective hdevice)
  · rintro rfl
    rfl

/-- The state of a condition does not tell the time. -/
theorem state_endCondition (ended : Except Stop Unit) (now later : Instant) :
    (endCondition now ended).state = (endCondition later ended).state := by
  rcases ended with (_ | _) | _ <;> rfl

/-- The device of a node rejects the command with the private key, and the keys are not the same. -/
def Exposes (e : Engine) (b : BlindDevice) (key : ObjectKey) (layout : Layout) (family : Family)
    (m n : Memory) (count : Nat) : Prop :=
  ∃ i bundle other output,
    Reaches e key i layout family m bundle ∧
    Reaches e key i layout family n { bundle with key := other } ∧
    bundle.key ≠ other ∧ b.RejectsFourth count output

theorem reported_eq_iff_of_live (now later : Instant)
    (h : m.Twins i.metadata.key family.provider n)
    (hi : m.intents.find? i.metadata.key = some i) (hl : i.metadata.isDeleted = false)
    (hd : Dict.find? e.registry i.spec.provider = some (.network layout family)) :
    e.reported b.connector i.metadata.key now ⟨m, count⟩ =
        e.reported b.connector i.metadata.key later ⟨n, count⟩ ↔
      ¬Exposes e b i.metadata.key layout family m n count := by
  have hin : n.intents.find? i.metadata.key = some i := by
    rw [h.rest]
    exact hi
  rw [reported_of_live b.connector now count hi hl, reported_of_live b.connector later count hin hl,
    Option.some_inj]
  rcases errand_twins h hi hl hd with ⟨stop, hm, hn⟩ | ⟨bundle, other, hm, hn⟩
  · rw [ending_of_stop hm, ending_of_stop hn]
    refine ⟨?_, fun _ => state_endCondition _ now later⟩
    rintro - ⟨j, bundle, other, output, hreaches, -⟩
    obtain ⟨config, haccessible⟩ := hreaches.accessible
    obtain rfl : i = j := Option.some.inj (hi.symm.trans haccessible.stored)
    obtain ⟨target, herrand⟩ := hreaches.errand
    rw [hm] at herrand
    cases herrand
  by_cases hr : ∃ output, b.RejectsFourth count output
  · obtain ⟨output, hr⟩ := hr
    rw [ending_of_rejected hm hr, ending_of_rejected hn hr, state_rejected_iff]
    constructor
    · rintro hkey ⟨j, bundle', other', output', hm', hn', hne, -⟩
      obtain rfl : bundle = bundle' := Except.ok.inj (hm.bundled.symm.trans hm'.bundled)
      have hother := Except.ok.inj (hn.bundled.symm.trans hn'.bundled)
      exact hne (hkey.trans (congrArg CertificateBundle.key hother))
    · intro hnot
      by_contra hne
      exact hnot ⟨i, bundle, other, output, hm, hn, hne, hr⟩
  · have hr' : ∀ output, ¬b.RejectsFourth count output := fun output g => hr ⟨output, g⟩
    rw [ending_twins hm hn hr']
    refine ⟨?_, fun _ => state_endCondition _ now later⟩
    rintro - ⟨-, -, -, output, -, -, -, g⟩
    exact hr ⟨output, g⟩

/-- A pass that does not get to the device exposes nothing. -/
theorem not_exposes (h : ∀ i, m.intents.find? key = some i → i.metadata.isDeleted = true) :
    ¬Exposes e b key layout family m n count := by
  rintro ⟨i, bundle, other, output, hreaches, -⟩
  obtain ⟨config, haccessible⟩ := hreaches.accessible
  have hdeleted := h i haccessible.stored
  rw [haccessible.live] at hdeleted
  cases hdeleted

/-- A pass over an intent that is being deleted reports nothing of secrets. -/
theorem reported_eq_of_deleted {δ : Type} {c : Connector δ} {d : δ} {provider : String}
    (now later : Instant) (h : m.Twins i.metadata.key provider n)
    (hi : m.intents.find? i.metadata.key = some i) (hl : i.metadata.isDeleted = true) :
    e.reported c i.metadata.key now ⟨m, d⟩ = e.reported c i.metadata.key later ⟨n, d⟩ := by
  have hintents : m.intents = n.intents := by rw [h.rest]
  have hrefusing : m.refusingRelease = n.refusingRelease := by rw [h.rest]
  have hin : n.intents.find? i.metadata.key = some i := hintents ▸ hi
  rcases Option.eq_none_or_eq_some m.refusingRelease with hr | ⟨message, hr⟩
  · rw [reported, reported, pass_of_released hi hl hr, pass_of_released hin hl (hrefusing ▸ hr)]
    dsimp only
    rw [Memory.removeFinalizer_intents_congr hintents hrefusing]
  · rw [reported, reported, pass_of_kept hi hl hr, pass_of_kept hin hl (hrefusing ▸ hr)]
    dsimp only
    rw [Memory.find?_recorded _ hi rfl, Memory.find?_recorded _ hin rfl]
    dsimp only [Option.bind_some]
    rw [NodeIntent.readyState?_of_statusTelling (endCondition_type now _) rfl,
      NodeIntent.readyState?_of_statusTelling (endCondition_type later _) rfl,
      state_endCondition _ now later]

/-- **Two passes whose memories differ in secrets only report the same, unless the device rejects
the command with the private key.** Then the report tells the key: the reports differ exactly if the
keys do. The password has no part in a report. -/
theorem reported_eq_iff (e : Engine) (b : BlindDevice) (key : ObjectKey) (now later : Instant)
    (layout : Layout) (family : Family) (m n : Memory) (count : Nat) (hm : m.Filed)
    (h : m.Twins key family.provider n)
    (hd : ∀ i, m.intents.find? key = some i →
      Dict.find? e.registry i.spec.provider = some (.network layout family)) :
    e.reported b.connector key now ⟨m, count⟩ = e.reported b.connector key later ⟨n, count⟩ ↔
      ¬Exposes e b key layout family m n count := by
  rcases Option.eq_none_or_eq_some (m.intents.find? key) with hi | ⟨i, hi⟩
  · have hin : n.intents.find? key = none := by
      rw [h.rest]
      exact hi
    have hnot : ¬Exposes e b key layout family m n count :=
      not_exposes fun j hj => absurd (hi.symm.trans hj) (by simp)
    refine ⟨fun _ => hnot, fun _ => ?_⟩
    rw [reported, reported, pass_of_missing hi, pass_of_missing hin]
    dsimp only
    rw [hi, hin]
  obtain rfl := hm.intents key i hi
  cases hl : i.metadata.isDeleted with
  | false => exact reported_eq_iff_of_live now later h hi hl (hd i hi)
  | true =>
    have hnot : ¬Exposes e b i.metadata.key layout family m n count :=
      not_exposes fun j hj => (Option.some.inj (hi.symm.trans hj)) ▸ hl
    exact ⟨fun _ => hnot, fun _ => reported_eq_of_deleted now later h hi hl⟩

end Engine

/-- What can be extracted from a secret has a private key. -/
theorem key?_isSome_of_extracted {profile : String} {s : Secret} {bundle : CertificateBundle}
    (h : CertificateBundle.ofSecret profile s = .ok bundle) :
    (Pem.key? ((s.text? "tls.key").getD "").toList).isSome := by
  rw [CertificateBundle.ofSecret, CertificateBundle.ofPem] at h
  split at h
  · cases h
  split at h
  · cases h
  split at h
  · cases h
  next hkey =>
    rw [hkey]
    rfl

namespace Sample

theorem extracted_second :
    CertificateBundle.ofSecret certificateProfile (certificates "second") =
      .ok (bundle "second") := by
  rfl

theorem text?_certificates (first second : String) {name : String} (h : name ≠ "tls.key") :
    (certificates first).text? name = (certificates second).text? name := by
  simp only [Secret.text?, certificates, Option.bind_some, Dict.find?_insert_ne _ h]

/-- The sample with one private key and with another. -/
theorem twins : (memory "first").Twins key "srlinux.nokia.com" (memory "second") where
  rest := rfl
  secrets k := by
    by_cases hnode : k = key
    · subst hnode
      refine .some ⟨fun name h _ => ?_, fun _ => ⟨?_, ?_⟩, fun h => absurd h (by decide)⟩
      · exact text?_certificates "first" "second" fun g => h ⟨rfl, g⟩
      · exact key?_isSome_of_extracted extracted_first
      · exact key?_isSome_of_extracted extracted_second
    by_cases hlogin : k = ⟨key.ns, "srlinux.nokia.com"⟩
    · subst hlogin
      exact .some ⟨fun _ _ _ => rfl, fun h => absurd h hnode, fun _ => ⟨rfl, rfl⟩⟩
    · have hnone (body : String) : (memory body).secrets.find? k = none := by
        refine (Dict.find?_insert_ne _ hnode _).trans ?_
        exact (Dict.find?_insert_ne _ hlogin _).trans rfl
      rw [hnone, hnone]
      exact .none

theorem reaches {body : String} (h : CertificateBundle.ofSecret certificateProfile
      (certificates body) = .ok (bundle body)) :
    Engine.Reaches {} key intent .srLinux (.srLinux "srlinux.nokia.com") (memory body)
      (bundle body) := by
  have hne : (⟨key.ns, "srlinux.nokia.com"⟩ : ObjectKey) ≠ key := by decide
  have hstored : (memory body).secrets.find? ⟨key.ns, "srlinux.nokia.com"⟩ = some login :=
    (Dict.find?_insert_ne _ hne _).trans (Dict.find?_insert_self _ _ _)
  obtain ⟨credentials, hlogin⟩ := Credentials.exists_ofSecret?_iff.2 ⟨(rfl : (login.text?
    "username").isSome = true), (rfl : (login.text? "password").isSome = true)⟩
  exact ⟨⟨_, accessible body⟩, ⟨credentials, Memory.loginOf_eq_ok_iff.2 ⟨login, hstored, hlogin⟩⟩,
    Memory.bundleOf_eq_ok_iff.2 ⟨certificates body, Dict.find?_insert_self _ key _, h⟩⟩

theorem registered (body : String) (i : NodeIntent)
    (hi : (memory body).intents.find? key = some i) :
    Dict.find? Registry.builtin i.spec.provider = some .srLinux := by
  obtain rfl : intent = i := Option.some.inj ((stored body).symm.trans hi)
  rfl

def rejecting (number : Nat) : BlindDevice where
  login := .ok ()
  rejection n := if n = number then some "Error: rejected" else none
  closing := .ok ()

end Sample

namespace Engine

/-- If another command is rejected, the reports are the same. -/
theorem reported_eq_sample : (Sample.memory "first").Filed ∧
    (Sample.memory "first").Twins Sample.key "srlinux.nokia.com" (Sample.memory "second") ∧
    (∀ i, (Sample.memory "first").intents.find? Sample.key = some i →
      Dict.find? Registry.builtin i.spec.provider = some .srLinux) ∧
    ({} : Engine).reported (Sample.rejecting 4).connector Sample.key default
        ⟨Sample.memory "first", 0⟩ =
      ({} : Engine).reported (Sample.rejecting 4).connector Sample.key default
        ⟨Sample.memory "second", 0⟩ := by
  refine ⟨Sample.filed_memory "first", Sample.twins, Sample.registered "first", ?_⟩
  refine (reported_eq_iff {} (Sample.rejecting 4) Sample.key default default .srLinux
    (.srLinux "srlinux.nokia.com") (Sample.memory "first") (Sample.memory "second") 0
    (Sample.filed_memory "first") Sample.twins (Sample.registered "first")).2 ?_
  rintro ⟨i, bundle, other, output, -, -, -, -, -, -, -, hrejected⟩
  cases hrejected

/-- **A private key flows into a report**: two passes whose memories differ in the private key only
report differently if the device rejects the fourth command. -/
theorem private_key_reported : (Sample.memory "first").Filed ∧
    (Sample.memory "first").Twins Sample.key "srlinux.nokia.com" (Sample.memory "second") ∧
    (∀ i, (Sample.memory "first").intents.find? Sample.key = some i →
      Dict.find? Registry.builtin i.spec.provider = some .srLinux) ∧
    ({} : Engine).reported (Sample.rejecting 3).connector Sample.key default
        ⟨Sample.memory "first", 0⟩ ≠
      ({} : Engine).reported (Sample.rejecting 3).connector Sample.key default
        ⟨Sample.memory "second", 0⟩ := by
  refine ⟨Sample.filed_memory "first", Sample.twins, Sample.registered "first", fun h => ?_⟩
  have hiff :
      ({} : Engine).reported (Sample.rejecting 3).connector Sample.key default
          ⟨Sample.memory "first", 0⟩ =
        ({} : Engine).reported (Sample.rejecting 3).connector Sample.key default
          ⟨Sample.memory "second", 0⟩ ↔
      ¬Exposes {} (Sample.rejecting 3) Sample.key .srLinux (.srLinux "srlinux.nokia.com")
        (Sample.memory "first") (Sample.memory "second") 0 :=
    reported_eq_iff_of_live default default Sample.twins (i := Sample.intent)
      (Sample.stored "first") rfl rfl
  refine hiff.1 h ⟨Sample.intent, Sample.bundle "first", "second", "Error: rejected",
    Sample.reaches Sample.extracted_first, Sample.reaches Sample.extracted_second, by decide, ?_⟩
  exact ⟨rfl, rfl, rfl, rfl, rfl⟩

end Engine

end NodeDeploy
