import NodeDeploy.Proofs.References

/-! # What the texts of the wiring say

The interfaces of a node are wired by other programs, which read two texts: the plugin chain of an
attachment, and the annotation of a pod that selects attachments. Names go into both texts as they
are, and some members stand in them only at times.

* `Wiring.chainValue` and `Wiring.selectionValue`: what the texts are to say, as JSON values.
* `Wiring.parse?_chainText` and `Wiring.parse?_selection`: they say it, whatever the names.
* `Wiring.chainText_injective`: different chains have different texts.
* `Wiring.texts_say`: all of it, with the attachments of a node.
-/

namespace NodeDeploy

namespace Wiring

/-! ## Chains -/

def Capabilities.granted (c : Capabilities) : List String :=
  (if c.ips then ["ips"] else []) ++ if c.mac then ["mac"] else []

/-- The chain of an interface: one plugin that wires it and, where capabilities are given, one that
grants them. -/
def chainValue (interface : String) (tuning : Option Capabilities) : Json := .obj [
  ("cniVersion", .str "0.3.1"),
  ("plugins", .arr (
    .obj [("type", .str "wire"), ("interfaceName", .str interface)] ::
    (tuning.map fun c => .obj [
      ("type", .str "tuning"),
      ("capabilities", .obj (c.granted.map fun name => (name, .bool true)))]).toList))]

theorem chain_eq_chainValue (interface : String) (tuning : Option Capabilities) :
    chain interface tuning = chainValue interface tuning := by
  rcases tuning with _ | ⟨_ | _, _ | _⟩ <;> rfl

/-- **The text of a chain is read as the chain.** -/
theorem parse?_chainText (interface : String) (tuning : Option Capabilities) :
    Json.parse? (chainText interface tuning) = some (chainValue interface tuning) := by
  rw [chainText, Json.parse?_text (plain_chain interface tuning), chain_eq_chainValue]

theorem tuningPlugin_injective {c d : Capabilities} (h : tuningPlugin c = tuningPlugin d) :
    c = d := by
  rcases c with ⟨_ | _, _ | _⟩ <;> rcases d with ⟨_ | _, _ | _⟩ <;>
    simp_all [tuningPlugin, Capabilities.toJson, Json.record]

theorem chain_injective {interface interface' : String} {tuning tuning' : Option Capabilities}
    (h : chain interface tuning = chain interface' tuning') :
    interface = interface' ∧ tuning = tuning' := by
  simp only [chain, wirePlugin, Json.obj.injEq, Json.arr.injEq, Json.str.injEq, List.cons.injEq,
    Prod.mk.injEq, true_and, and_true] at h
  obtain ⟨hinterface, hplugins⟩ := h
  have hmap := congrArg List.head? hplugins
  rw [Option.head?_toList, Option.head?_toList] at hmap
  exact ⟨hinterface, Option.map_injective (fun _ _ => tuningPlugin_injective) hmap⟩

/-- **Different chains have different texts.** -/
theorem chainText_injective {interface interface' : String} {tuning tuning' : Option Capabilities}
    (h : chainText interface tuning = chainText interface' tuning') :
    interface = interface' ∧ tuning = tuning' := by
  have hparse := congrArg Json.parse? h
  rw [parse?_chainText, parse?_chainText, ← chain_eq_chainValue, ← chain_eq_chainValue] at hparse
  exact chain_injective (Option.some.inj hparse)

/-! ## Selections -/

/-- An entry of the annotation: the name of an attachment and, where it is known, the interface. -/
def selectionValue (name : String) (interface : Option String) : Json :=
  .obj (("name", .str name) :: (interface.map fun x => ("interface", .str x)).toList)

theorem selectionEntry_eq_selectionValue (a : NetworkAttachment) : selectionEntry a =
    selectionValue (a.metadata.name.getD "") (a.metadata.label? interfaceLabel) := by
  rw [selectionEntry]
  cases a.metadata.label? interfaceLabel <;> rfl

/-- **The annotation is read as an entry for each attachment**, in their order. -/
theorem parse?_selection {attachments : List NetworkAttachment} (h : attachments ≠ []) :
    ∃ text, selection? attachments = some text ∧
      Json.parse? text = some (.arr (attachments.map fun a =>
        selectionValue (a.metadata.name.getD "") (a.metadata.label? interfaceLabel))) := by
  have hentries : attachments.map selectionEntry = attachments.map fun a =>
      selectionValue (a.metadata.name.getD "") (a.metadata.label? interfaceLabel) :=
    List.map_congr_left fun a _ => selectionEntry_eq_selectionValue a
  refine ⟨_, if_neg (by simpa using h), ?_⟩
  rw [Json.parse?_text (plain_selectionEntries attachments), hentries]

/-- The attachments of a node are selected by their interfaces, each under its own name. -/
theorem entries_of_attachments {f : Family} {i : NodeIntent} {attachments : List NetworkAttachment}
    (h : f.attachments i = .ok attachments) :
    (attachments.map fun a =>
      selectionValue (a.metadata.name.getD "") (a.metadata.label? interfaceLabel)) =
      f.interfaces.map fun interface =>
        selectionValue (i.metadata.displayName ++ "-" ++ interface) (some interface) := by
  refine map_eq_of_mapM h fun interface a ha => ?_
  obtain ⟨hname, hlabel, -⟩ := NodeIntent.networkAttachment_wires ha
  rw [hname, hlabel]
  rfl

/-- **The texts of the wiring say what they are to say.** The text of a chain is read as the
version, the plugin that wires the interface and, if capabilities are given, the plugin that grants
just those that are true, whatever characters the name of the interface has; and different chains
have different texts. Where there are attachments, the text that selects them is read as the name
and the interface of each, in order, an unlabelled one having no interface; without attachments
there is no text. The attachments of a node are selected under the name of the node followed by that
of the interface. -/
theorem texts_say :
    (∀ interface tuning,
      Json.parse? (chainText interface tuning) = some (chainValue interface tuning)) ∧
    (∀ interface interface' tuning tuning',
      chainText interface tuning = chainText interface' tuning' →
        interface = interface' ∧ tuning = tuning') ∧
    selection? [] = none ∧
    (∀ attachments : List NetworkAttachment, attachments ≠ [] → ∃ text,
      selection? attachments = some text ∧
      Json.parse? text = some (.arr (attachments.map fun a =>
        selectionValue (a.metadata.name.getD "") (a.metadata.label? interfaceLabel)))) ∧
    ∀ (f : Family) (i : NodeIntent), i.Identified → ∃ attachments,
      f.attachments i = .ok attachments ∧ (f.interfaces ≠ [] → ∃ text,
        selection? attachments = some text ∧
        Json.parse? text = some (.arr (f.interfaces.map fun interface =>
          selectionValue (i.metadata.displayName ++ "-" ++ interface) (some interface)))) := by
  refine ⟨parse?_chainText, fun _ _ _ _ => chainText_injective, rfl,
    fun _ => parse?_selection, fun f i hi => ?_⟩
  obtain ⟨attachments, hattachments⟩ := mapM_of_forall (l := f.interfaces) fun interface _ =>
    NodeIntent.networkAttachment_of_identified hi interface
  refine ⟨attachments, hattachments, fun hne => ?_⟩
  have hsome : attachments ≠ [] := fun hnil => hne ((mapM_eq_nil_iff hattachments).1 hnil)
  obtain ⟨text, htext, hparse⟩ := parse?_selection hsome
  rw [entries_of_attachments hattachments] at hparse
  exact ⟨text, htext, hparse⟩

/-- So it is for an interface whose name has a quote, a backslash and a line break in it, and for a
node with two interfaces. -/
theorem texts_say_sample : Sample.intent.Identified ∧
    Json.parse? (chainText "e\"1\\\n" (some { mac := true })) =
      some (chainValue "e\"1\\\n" (some { mac := true })) ∧
    ∃ attachments text,
      (Family.srLinux "srlinux.nokia.com").attachments Sample.intent = .ok attachments ∧
      selection? attachments = some text ∧
      Json.parse? text = some (.arr [selectionValue "leaf1-e1-1" (some "e1-1"),
        selectionValue "leaf1-e1-2" (some "e1-2")]) := by
  have hi : Sample.intent.Identified := by decide
  obtain ⟨hchain, -, -, -, hnode⟩ := texts_say
  obtain ⟨attachments, hattachments, hselected⟩ :=
    hnode (.srLinux "srlinux.nokia.com") Sample.intent hi
  obtain ⟨text, htext, hparse⟩ := hselected (List.cons_ne_nil _ _)
  exact ⟨hi, hchain _ _, attachments, text, hattachments, htext, hparse⟩

end Wiring

end NodeDeploy
