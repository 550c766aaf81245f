import Mathlib.Data.List.TakeWhile
import NodeDeploy.Cluster.Request
import NodeDeploy.Resource.NetworkAttachment
import NodeDeploy.Resource.NodeConfig
import NodeDeploy.Resource.NodeIntent
import NodeDeploy.Resource.Pod
import NodeDeploy.Resource.Secret
import NodeDeploy.Resource.VolumeClaim

/-! # Addresses of objects

The namespace and the name of an object go into the path of a request as they are. They can if they
are not empty, are made of characters that may stand in a path, have no slash in them, and are
short enough to leave room for the rest of the target.

* `ObjectKey.Addressable`: keys that can be addressed.
* `Target.read?_path` and `Target.read?_query`: a target is its path and the parts of its query.
* `ResourceKind.read?_objectPath` and `ResourceKind.read?_listPath`: the targets of objects.
-/

namespace NodeDeploy

/-! ## Targets -/

namespace Target

theorem ne_of_inPath {c : Char} (h : inPath c = true) : c ≠ '#' ∧ c ≠ '?' := by
  constructor <;> rintro rfl <;> exact absurd h (by decide)

theorem ne_of_inQuery {c : Char} (h : inQuery c = true) : c ≠ '#' := by
  rintro rfl
  exact absurd h (by decide)

/-- A path and a query are read apart at the first question mark. -/
theorem read?_query (path : String) (query : List Char) {text : String}
    (htext : text.toList = path.toList ++ '?' :: query)
    (hpath : ∀ c ∈ path.toList, inPath c = true) (hquery : ∀ c ∈ query, inQuery c = true)
    (hlength : text.utf8ByteSize ≤ byteLimit) :
    read? text = some ⟨path, (Text.pieces '&' query).map String.ofList⟩ := by
  have hsent : text.toList.takeWhile (· ≠ '#') = text.toList := by
    rw [htext]
    refine List.takeWhile_eq_self_iff.2 fun c hc => decide_eq_true ?_
    rcases List.mem_append.1 hc with hc | hc
    · exact (ne_of_inPath (hpath c hc)).1
    · rcases List.mem_cons.1 hc with rfl | hc
      · decide
      · exact ne_of_inQuery (hquery c hc)
  have hne : ∀ c ∈ path.toList, decide (c ≠ '?') = true := fun c hc =>
    decide_eq_true (ne_of_inPath (hpath c hc)).2
  have hbefore : text.toList.takeWhile (· ≠ '?') = path.toList := by
    rw [htext, List.takeWhile_append_of_pos hne]
    simp
  have hbehind : (text.toList.dropWhile (· ≠ '?')).drop 1 = query := by
    rw [htext, List.dropWhile_append_of_pos hne]
    simp
  have hall : path.toList.all inPath = true := List.all_eq_true.2 hpath
  have hall' : query.all inQuery = true := List.all_eq_true.2 hquery
  simp only [read?, hsent, hbefore, hbehind]
  simp [hall, hall', hlength]

theorem read?_path {path : String} (hpath : ∀ c ∈ path.toList, inPath c = true)
    (hlength : path.utf8ByteSize ≤ byteLimit) : read? path = some ⟨path, []⟩ := by
  have hne : ∀ c ∈ path.toList, decide (c ≠ '#') = true := fun c hc =>
    decide_eq_true (ne_of_inPath (hpath c hc)).1
  have hne' : ∀ c ∈ path.toList, decide (c ≠ '?') = true := fun c hc =>
    decide_eq_true (ne_of_inPath (hpath c hc)).2
  have hsent : path.toList.takeWhile (· ≠ '#') = path.toList := List.takeWhile_eq_self_iff.2 hne
  have hbefore : path.toList.takeWhile (· ≠ '?') = path.toList := List.takeWhile_eq_self_iff.2 hne'
  have hbehind : path.toList.dropWhile (· ≠ '?') = [] := List.dropWhile_eq_nil_iff.2 hne'
  have hall : path.toList.all inPath = true := List.all_eq_true.2 hpath
  simp only [read?, hsent, hbefore, hbehind]
  simp [hall, hlength, Text.pieces, Text.split]

end Target

/-! ## Keys -/

/-- A part of a path: not empty, and made of characters that may stand there and are no slash. -/
structure IsSegment (s : String) : Prop where
  ne_empty : s ≠ ""
  inPath : ∀ c ∈ s.toList, Target.inPath c = true
  noSlash : '/' ∉ s.toList

/-- How many bytes the namespace and the name of an object may have together. -/
def ObjectKey.byteLimit : Nat := 65400

structure ObjectKey.Addressable (key : ObjectKey) : Prop where
  ns : IsSegment key.ns
  name : IsSegment key.name
  length : key.ns.utf8ByteSize + key.name.utf8ByteSize ≤ byteLimit

/-! ## Objects -/

namespace ResourceKind

/-- The kinds of objects that the cluster is asked for. -/
def served : List ResourceKind :=
  [nodeIntent, nodeConfig, networkAttachment, volumeClaim, pod, secret]

/-- What stands before the namespace in the path of a list. -/
def root (k : ResourceKind) : String :=
  (if k.group.isEmpty then "/api/" else "/apis/") ++ k.apiVersion ++ "/namespaces/"

theorem listPath_eq (k : ResourceKind) (ns : String) :
    k.listPath ns = k.root ++ ns ++ "/" ++ k.plural := rfl

/-- The parts of a path that a kind gives may stand there, and are short. -/
theorem root_plural {k : ResourceKind} (h : k ∈ served) :
    (∀ c ∈ k.root.toList, Target.inPath c = true) ∧
      (∀ c ∈ k.plural.toList, Target.inPath c = true) ∧
      k.root.utf8ByteSize + k.plural.utf8ByteSize ≤ 80 := by
  simp only [served, List.mem_cons, List.not_mem_nil, or_false] at h
  rcases h with rfl | rfl | rfl | rfl | rfl | rfl <;>
    exact ⟨List.all_eq_true.1 (by decide), List.all_eq_true.1 (by decide), by decide⟩

section

variable {k : ResourceKind} (hk : k ∈ served)
include hk

theorem inPath_listPath {ns : String} (h : IsSegment ns) :
    ∀ c ∈ (k.listPath ns).toList, Target.inPath c = true := by
  obtain ⟨hroot, hplural, -⟩ := root_plural hk
  intro c hc
  simp only [listPath_eq, String.toList_append, List.mem_append, List.mem_singleton,
    show "/".toList = ['/'] from rfl] at hc
  rcases hc with ((hc | hc) | rfl) | hc
  · exact hroot c hc
  · exact h.inPath c hc
  · decide
  · exact hplural c hc

theorem utf8ByteSize_listPath_le (ns : String) :
    (k.listPath ns).utf8ByteSize ≤ ns.utf8ByteSize + 81 := by
  obtain ⟨-, -, hlength⟩ := root_plural hk
  have hslash : "/".utf8ByteSize = 1 := rfl
  simp only [listPath_eq, String.utf8ByteSize_append, hslash]
  omega

variable {key : ObjectKey} (h : key.Addressable)
include h

theorem inPath_objectPath : ∀ c ∈ (k.objectPath key).toList, Target.inPath c = true := by
  intro c hc
  simp only [objectPath, String.toList_append, List.mem_append, List.mem_singleton,
    show "/".toList = ['/'] from rfl] at hc
  rcases hc with (hc | rfl) | hc
  · exact inPath_listPath hk h.ns c hc
  · decide
  · exact h.name.inPath c hc

/-- The path of an object leaves room for what the targets of requests have behind it. -/
theorem utf8ByteSize_objectPath_le : (k.objectPath key).utf8ByteSize + 50 ≤ Target.byteLimit := by
  have hlength := h.length
  have hlist := utf8ByteSize_listPath_le hk key.ns
  have hslash : "/".utf8ByteSize = 1 := rfl
  simp only [objectPath, String.utf8ByteSize_append, hslash, Target.byteLimit,
    ObjectKey.byteLimit] at *
  omega

theorem read?_objectPath : Target.read? (k.objectPath key) = some ⟨k.objectPath key, []⟩ :=
  Target.read?_path (inPath_objectPath hk h)
    (Nat.le_trans (Nat.le_add_right _ _) (utf8ByteSize_objectPath_le hk h))

/-- The target of a change to an object, or to a part of it. -/
theorem read?_change {part : String} (hpart : part = "" ∨ part = "/status") :
    Target.read? (k.objectPath key ++ part ++ "?") = some ⟨k.objectPath key ++ part, []⟩ := by
  have hpath : ∀ c ∈ part.toList, Target.inPath c = true := by
    rcases hpart with rfl | rfl <;> exact List.all_eq_true.1 (by decide)
  have hsize : part.utf8ByteSize ≤ 7 := by
    rcases hpart with rfl | rfl <;> decide
  have hmark : "?".utf8ByteSize = 1 := rfl
  have hlength := utf8ByteSize_objectPath_le hk h
  refine Target.read?_query _ [] (by rw [String.toList_append]; rfl) ?_
    (fun _ hc => nomatch hc) ?_
  · intro c hc
    rw [String.toList_append] at hc
    rcases List.mem_append.1 hc with hc | hc
    · exact inPath_objectPath hk h c hc
    · exact hpath c hc
  · simp only [String.utf8ByteSize_append, hmark]
    omega

theorem read?_applied : Target.read? (k.objectPath key ++ "?" ++ Request.applyQuery) =
    some ⟨k.objectPath key, ["force=true", "fieldManager=node-deployer"]⟩ := by
  have hquery : ∀ c ∈ Request.applyQuery.toList, Target.inQuery c = true :=
    List.all_eq_true.1 (by decide)
  have hsize : Request.applyQuery.utf8ByteSize = 38 := rfl
  have hmark : "?".utf8ByteSize = 1 := rfl
  have hlength := utf8ByteSize_objectPath_le hk h
  have hread := Target.read?_query (k.objectPath key) Request.applyQuery.toList
    (show (k.objectPath key ++ "?" ++ Request.applyQuery).toList = _ by
      simp only [String.toList_append, List.append_assoc]; rfl) (inPath_objectPath hk h) hquery
    (by simp only [String.utf8ByteSize_append, hsize, hmark]; omega)
  have hpieces : (Text.pieces '&' Request.applyQuery.toList).map String.ofList =
      ["force=true", "fieldManager=node-deployer"] := by decide
  rw [hread, hpieces]

end

/-- The target of a list, or of an object that is to be in it. -/
theorem read?_listPath {k : ResourceKind} (hk : k ∈ served) {ns : String} (h : IsSegment ns)
    (hlength : ns.utf8ByteSize ≤ ObjectKey.byteLimit) :
    Target.read? (k.listPath ns ++ "?") = some ⟨k.listPath ns, []⟩ := by
  have hmark : "?".utf8ByteSize = 1 := rfl
  have hlist := utf8ByteSize_listPath_le hk ns
  refine Target.read?_query _ [] (by rw [String.toList_append]; rfl)
    (inPath_listPath hk h) (fun _ hc => nomatch hc) ?_
  simp only [String.utf8ByteSize_append, hmark, Target.byteLimit, ObjectKey.byteLimit] at *
  omega

end ResourceKind

end NodeDeploy
