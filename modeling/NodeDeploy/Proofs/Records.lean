import NodeDeploy.Json.Reader
import NodeDeploy.Proofs.JsonText

/-! # Values that survive in JSON

A value survives if its JSON form can be put into text and is read as that value again. Strings and
truth values do, whole numbers do if they have the width that the reader asks for, and lists,
dictionaries and members of records do if what is in them does.

* `Json.Survives`: a value, with how it is written and read.
* `Json.survives_list`, `Json.survives_dict` and `Json.survives_word`: values made of others.
* `Json.valuesOf_present_cons`: the values under a name in a record.
* `Json.optionalOf_map` and `Json.readLast_singleton`: what is made of the values under a name.
-/

namespace NodeDeploy

/-! ## Dictionaries of their entries -/

namespace Dict

variable {κ α : Type} [Key κ]

theorem place_of_gt {k : κ} {l : List (κ × α)} (x : α) (h : ∀ e ∈ l, Key.lt e.1 k = true) :
    place k x l = l ++ [(k, x)] := by
  induction l with
  | nil => rfl
  | cons e l ih =>
    have he := h e List.mem_cons_self
    rw [place, Key.asymm he, he]
    simp [ih fun f hf => h f (List.mem_cons_of_mem e hf)]

/-- Entries in order, all of them behind those that are there, are appended. -/
theorem entries_foldl_insert (l : List (κ × α)) (d : Dict κ α)
    (h : (d.entries ++ l).Pairwise fun a b => Key.lt a.1 b.1 = true) :
    (l.foldl (fun d e => d.insert e.1 e.2) d).entries = d.entries ++ l := by
  induction l generalizing d with
  | nil => simp
  | cons e l ih =>
    have hplace : place e.1 e.2 d.entries = d.entries ++ [e] :=
      place_of_gt e.2 fun f hf => (List.pairwise_append.1 h).2.2 f hf e List.mem_cons_self
    have hinsert : (d.insert e.1 e.2).entries = d.entries ++ [e] := hplace
    rw [List.foldl_cons, ih _ (by rwa [hinsert, List.append_assoc]), hinsert, List.append_assoc]
    rfl

/-- **A dictionary is that of its entries.** -/
theorem ofList_entries (d : Dict κ α) : ofList d.entries = d :=
  ext (entries_foldl_insert d.entries empty d.sorted)

end Dict

namespace Json

variable {α : Type}

/-! ## Surviving -/

/-- A value is read as it was written, and so is the text of what was written. None is written as
null, which stands for a missing value. -/
structure Survives (read : Json → Option α) (write : α → Json) (x : α) : Prop where
  reads : read (write x) = some x
  plain : (write x).Plain
  present : write x ≠ .null

@[simp] theorem plain_str (s : String) : (str s).Plain := trivial

@[simp] theorem plain_bool (b : Bool) : (bool b).Plain := trivial

@[simp] theorem survives_string (s : String) : Survives readString .str s :=
  ⟨rfl, trivial, Json.noConfusion⟩

@[simp] theorem survives_bool (b : Bool) : Survives readBool .bool b :=
  ⟨rfl, trivial, Json.noConfusion⟩

def IsInt32 (n : Int) : Prop := -0x80000000 ≤ n ∧ n ≤ 0x7fffffff

def IsInt64 (n : Int) : Prop := -0x8000000000000000 ≤ n ∧ n ≤ 0x7fffffffffffffff

theorem survives_int32 {n : Int} (h : IsInt32 n) : Survives readInt32 .int n := by
  unfold IsInt32 at h
  refine ⟨?_, ⟨by omega, by omega⟩, Json.noConfusion⟩
  rw [readInt32, readInt, if_pos h]

theorem survives_int64 {n : Int} (h : IsInt64 n) : Survives readInt64 .int n := by
  unfold IsInt64 at h
  refine ⟨?_, ⟨by omega, by omega⟩, Json.noConfusion⟩
  rw [readInt64, readInt, if_pos h]

theorem survives_list {read : Json → Option α} {write : α → Json} {l : List α}
    (h : ∀ x ∈ l, Survives read write x) :
    Survives (readList read) (fun l => .arr (l.map write)) l := by
  refine ⟨?_, itemsPlain_map fun x hx => (h x hx).plain, Json.noConfusion⟩
  show (l.map write).mapM read = some l
  induction l with
  | nil => rfl
  | cons x l ih =>
    rw [List.map_cons, List.mapM_cons, (h x List.mem_cons_self).reads,
      ih fun y hy => h y (List.mem_cons_of_mem x hy)]
    rfl

@[simp] theorem survives_strings (l : List String) : Survives (readList readString) strings l :=
  survives_list fun s _ => survives_string s

@[simp] theorem plain_strings (l : List String) : (strings l).Plain := (survives_strings l).plain

theorem membersPlain_map {f : α → String × Json} {l : List α} (h : ∀ x ∈ l, (f x).2.Plain) :
    MembersPlain (l.map f) := by
  induction l with
  | nil => trivial
  | cons x l ih =>
    exact ⟨h x List.mem_cons_self, ih fun y hy => h y (List.mem_cons_of_mem x hy)⟩

theorem survives_dict {read : Json → Option α} {write : α → Json} {d : Dict String α}
    (h : ∀ e ∈ d.entries, Survives read write e.2) : Survives (readDict read) (ofDict write) d := by
  have hentries : ∀ l : List (String × α), (∀ e ∈ l, Survives read write e.2) →
      ((l.map fun e => (e.1, write e.2)).mapM fun (m : String × Json) =>
        (read m.2).map fun x => (m.1, x)) = some l := by
    intro l hl
    induction l with
    | nil => rfl
    | cons e l ih =>
      rw [List.map_cons, List.mapM_cons, ih fun f hf => hl f (List.mem_cons_of_mem e hf)]
      simp only [(hl e List.mem_cons_self).reads]
      rfl
  have hwrite : ofDict write d = .obj (d.entries.map fun e => (e.1, write e.2)) := rfl
  refine ⟨?_, membersPlain_map fun e he => (h e he).plain, Json.noConfusion⟩
  rw [hwrite, readDict, hentries d.entries h, Option.map_some, Dict.ofList_entries]

@[simp] theorem survives_ofStrings (d : Dict String String) :
    Survives (readDict readString) ofStrings d := survives_dict fun e _ => survives_string e.2

@[simp] theorem plain_ofStrings (d : Dict String String) : (ofStrings d).Plain :=
  (survives_ofStrings d).plain

/-- A word survives if it has the meaning that it was written for. -/
theorem survives_word {meaning : String → Option α} {word : α → String} {x : α}
    (h : meaning (word x) = some x) : Survives (readWord meaning) (fun x => .str (word x)) x :=
  ⟨h, trivial, Json.noConfusion⟩

/-! ## Records -/

def present (l : List (String × Option Json)) : List (String × Json) :=
  l.filterMap fun (k, v) => v.map fun w => (k, w)

theorem record_eq (l : List (String × Option Json)) : record l = .obj (present l) := rfl

@[simp] theorem readObject_record (l : List (String × Option Json)) :
    (record l).readObject = some (present l) := rfl

/-- A check that is passed. -/
theorem guard_of {p : Prop} [Decidable p] (h : p) : (guard p : Option Unit) = some () := if_pos h

/-- One field is read, and then the rest. -/
theorem reads_bind {β : Type} {o : Option α} {f : α → Option β} {x : α} {y : β} (h : o = some x)
    (hf : f x = some y) : (o >>= f) = some y := by
  rw [h]
  exact hf

@[simp] theorem record_ne_null (l : List (String × Option Json)) : record l ≠ .null :=
  Json.noConfusion

@[simp] theorem valuesOf_present_nil (name : String) : valuesOf name (present []) = [] := rfl

@[simp] theorem valuesOf_present_cons (name k : String) (v : Option Json)
    (l : List (String × Option Json)) : valuesOf name (present ((k, v) :: l)) =
      if k = name then v.toList ++ valuesOf name (present l) else valuesOf name (present l) := by
  rcases v with _ | v
  · simp [present]
  · simp only [present, List.filterMap_cons, Option.map_some, valuesOf]
    rfl

def PlainMember (v : Option Json) : Prop := ∀ j ∈ v, j.Plain

@[simp] theorem plainMember_none : PlainMember none := by
  simp [PlainMember]

@[simp] theorem plainMember_some (j : Json) : PlainMember (some j) ↔ j.Plain := by
  simp [PlainMember]

theorem plainMember_map {write : α → Json} {x : Option α} (h : ∀ y ∈ x, (write y).Plain) :
    PlainMember (x.map write) := by
  intro j hj
  obtain ⟨y, hy, rfl⟩ := Option.map_eq_some_iff.1 hj
  exact h y hy

@[simp] theorem plain_record_nil : (record []).Plain := trivial

@[simp] theorem plain_record_cons (k : String) (v : Option Json) (l : List (String × Option Json)) :
    (record ((k, v) :: l)).Plain ↔ PlainMember v ∧ (record l).Plain := by
  rcases v with _ | v
  · simp [record, PlainMember]
  · simp [record, Plain, MembersPlain]

/-- The members of a record that has none of its names twice. -/
theorem readRecord_record {names : List String} {needed : Nat} {l : List (String × Option Json)}
    (h : ∀ name ∈ names, (valuesOf name (present l)).length ≤ 1) :
    (record l).readRecord names needed = some (present l) := by
  rw [record_eq, readRecord, if_pos (by simpa using h)]

/-! ## Members -/

section Members

variable {read : Json → Option α} {write : α → Json} {members : List (String × Json)}
  {name : String}

/-- What is made of the values under a name where they may be absent or null. -/
def optionalOf (read : Json → Option α) (values : List Json) : Option (Option α) :=
  (readLast (readNullable read) values).map fun x => x.bind id

theorem optional_def : optional members name read = optionalOf read (valuesOf name members) := rfl

theorem lenient_def {default : α} : lenient members name read default =
    (optionalOf read (valuesOf name members)).map fun x => x.getD default := rfl

@[simp] theorem optionalOf_nil : optionalOf read [] = some none := rfl

theorem optionalOf_ne_null {j : Json} (h : j ≠ .null) :
    optionalOf read [j] = (read j).map some := by
  have hread : readNullable read j = (read j).map some := by
    rw [readNullable]
    exact h
  rw [optionalOf, readLast, List.mapM_cons, hread]
  rcases read j with _ | x <;> rfl

theorem optionalOf_singleton {x : α} (h : Survives read write x) :
    optionalOf read [write x] = some (some x) := by
  rw [optionalOf_ne_null h.present, h.reads]
  rfl

theorem optionalOf_map {x : Option α} (h : ∀ y ∈ x, Survives read write y) :
    optionalOf read (x.map write).toList = some x := by
  cases x with
  | none => rfl
  | some x => exact optionalOf_singleton (h x rfl)

theorem optionalOf_record {l : List (String × Option Json)} {x : α}
    (h : read (record l) = some x) : optionalOf read [record l] = some (some x) := by
  rw [optionalOf_ne_null (record_ne_null l), h]
  rfl

theorem defaulted_def {default : α} : defaulted members name read default =
    (readLast read (valuesOf name members)).map fun x => x.getD default := rfl

theorem readLast_singleton {x : α} (h : Survives read write x) :
    readLast read [write x] = some (some x) := by
  simp [readLast, h.reads]

@[simp] theorem readLast_nil : readLast read [] = some none := rfl

/-- A list that is left out if it is empty is the one that is read. -/
theorem readLast_unlessEmpty {l : List α} (h : ∀ x ∈ l, Survives read write x) :
    (readLast (readList read)
      (if l.isEmpty then none else some (Json.arr (l.map write))).toList).map
        (fun x => x.getD []) = some l := by
  cases l with
  | nil => rfl
  | cons x l => exact congrArg (Option.map _) (readLast_singleton (survives_list h))

theorem plainMember_unlessEmpty {l : List α} (h : ∀ x ∈ l, Survives read write x) :
    PlainMember (if l.isEmpty then none else some (Json.arr (l.map write))) := by
  split
  · exact plainMember_none
  · exact (plainMember_some _).2 (survives_list h).plain

/-- A member is asked for by its values alone. -/
theorem optional_congr {others : List (String × Json)}
    (h : valuesOf name members = valuesOf name others) :
    optional members name read = optional others name read := by
  rw [optional, optional, h]

theorem required_congr {others : List (String × Json)}
    (h : valuesOf name members = valuesOf name others) :
    required members name read = required others name read := by
  rw [required, required, h]

end Members

end Json

end NodeDeploy
