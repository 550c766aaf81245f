/-! # Ordered dictionaries

A `Dict κ α` is a finite map whose entries are listed in the order of their keys, each key once.
Labels, annotations, quantities, catalogs and the tables of a store are dictionaries, and the text
of a dictionary is the text of its entries, so the order belongs to the type.

* `Dict.find?_insert` and `Dict.find?_erase` give the look-ups after an update;
* `Dict.ext_find?` says that the look-ups determine the dictionary;
* `Dict.insert_eq_self` and `Dict.modify_eq_self` say when an update changes nothing.
-/

namespace NodeDeploy

/-- A type with a decidable strict total order, fit to be the keys of a dictionary. -/
class Key (κ : Type) where
  lt : κ → κ → Bool
  irrefl : ∀ a, lt a a = false
  trans : ∀ {a b c}, lt a b = true → lt b c = true → lt a c = true
  connected : ∀ {a b}, lt a b = false → lt b a = false → a = b

namespace Key

variable {κ : Type} [Key κ]

theorem asymm {a b : κ} (h : lt a b = true) : lt b a = false := by
  cases hb : lt b a with
  | false => rfl
  | true => exact absurd (trans h hb) (by simp [irrefl])

end Key

/-- Strings are ordered by code points. -/
instance : Key String where
  lt a b := decide (a < b)
  irrefl a := by simp
  trans h g := by
    simp only [decide_eq_true_eq] at h g ⊢
    exact String.lt_trans h g
  connected {a b} h g := by
    simp only [decide_eq_false_iff_not] at h g
    exact Std.Trichotomous.trichotomous (r := ((· < ·) : String → String → Prop)) a b h g

/-- A finite map, its entries listed by increasing key. -/
structure Dict (κ : Type) (α : Type) [Key κ] where
  entries : List (κ × α)
  sorted : entries.Pairwise (fun a b => Key.lt a.1 b.1 = true)

namespace Dict

variable {κ α β : Type} [Key κ]

@[ext] theorem ext {d e : Dict κ α} (h : d.entries = e.entries) : d = e := by
  cases d; cases e; simp_all

instance [DecidableEq κ] [DecidableEq α] : DecidableEq (Dict κ α) := fun d e =>
  if h : d.entries = e.entries then .isTrue (ext h) else .isFalse fun g => h (g ▸ rfl)

instance [Repr κ] [Repr α] : Repr (Dict κ α) := ⟨fun d n => reprPrec d.entries n⟩

def empty : Dict κ α := ⟨[], .nil⟩

instance : EmptyCollection (Dict κ α) := ⟨empty⟩
instance : Inhabited (Dict κ α) := ⟨empty⟩

def lookup (k : κ) : List (κ × α) → Option α
  | [] => none
  | (j, x) :: rest => if Key.lt k j || Key.lt j k then lookup k rest else some x

/-- Puts `x` under `k` at its place in the order, instead of an earlier value of `k`. -/
def place (k : κ) (x : α) : List (κ × α) → List (κ × α)
  | [] => [(k, x)]
  | (j, y) :: rest =>
    if Key.lt k j then (k, x) :: (j, y) :: rest
    else if Key.lt j k then (j, y) :: place k x rest
    else (k, x) :: rest

theorem mem_place {k : κ} {x : α} {l : List (κ × α)} {e : κ × α} (h : e ∈ place k x l) :
    e = (k, x) ∨ e ∈ l := by
  fun_induction place k x l with
  | case1 => simp_all
  | case2 => simp_all
  | case3 j y rest _ _ ih => grind
  | case4 => grind

theorem sorted_place {k : κ} {x : α} {l : List (κ × α)}
    (h : l.Pairwise (fun a b => Key.lt a.1 b.1 = true)) :
    (place k x l).Pairwise (fun a b => Key.lt a.1 b.1 = true) := by
  fun_induction place k x l with
  | case1 => simp
  | case2 j y rest hk =>
    refine List.pairwise_cons.2 ⟨fun e he => ?_, h⟩
    rcases List.mem_cons.1 he with rfl | he
    · exact hk
    · exact Key.trans hk ((List.pairwise_cons.1 h).1 e he)
  | case3 j y rest _ hj ih =>
    refine List.pairwise_cons.2 ⟨fun e he => ?_, ih (List.pairwise_cons.1 h).2⟩
    rcases mem_place he with rfl | he
    · exact hj
    · exact (List.pairwise_cons.1 h).1 e he
  | case4 j y rest hk hj =>
    obtain rfl : k = j := Key.connected (by simpa using hk) (by simpa using hj)
    exact List.pairwise_cons.2 ⟨(List.pairwise_cons.1 h).1, (List.pairwise_cons.1 h).2⟩

def find? (d : Dict κ α) (k : κ) : Option α := lookup k d.entries

def contains (d : Dict κ α) (k : κ) : Bool := (d.find? k).isSome

def insert (d : Dict κ α) (k : κ) (x : α) : Dict κ α := ⟨place k x d.entries, sorted_place d.sorted⟩

def erase (d : Dict κ α) (k : κ) : Dict κ α :=
  ⟨d.entries.filter fun e => Key.lt k e.1 || Key.lt e.1 k, d.sorted.filter _⟩

/-- The dictionary of a list of entries, where the last entry of a key counts. -/
def ofList (l : List (κ × α)) : Dict κ α := l.foldl (fun d e => d.insert e.1 e.2) empty

def keys (d : Dict κ α) : List κ := d.entries.map (·.1)

def values (d : Dict κ α) : List α := d.entries.map (·.2)

def isEmpty (d : Dict κ α) : Bool := d.entries.isEmpty

def mapValues (d : Dict κ α) (f : κ → α → β) : Dict κ β :=
  ⟨d.entries.map fun e => (e.1, f e.1 e.2), List.pairwise_map.2 d.sorted⟩

/-- Puts the entries of `e` over those of `d`. -/
def overlay (d e : Dict κ α) : Dict κ α := e.entries.foldl (fun d x => d.insert x.1 x.2) d

/-- Changes the value of `k` where there is one. -/
def modify (d : Dict κ α) (k : κ) (f : α → α) : Dict κ α :=
  match d.find? k with
  | some x => d.insert k (f x)
  | none => d

/-! ## Look-ups -/

theorem lookup_place_self (k : κ) (x : α) (l : List (κ × α)) : lookup k (place k x l) = some x := by
  fun_induction place k x l <;> simp_all [lookup, Key.irrefl]

theorem lookup_place_ne {k j : κ} (h : j ≠ k) (x : α) (l : List (κ × α)) :
    lookup j (place k x l) = lookup j l := by
  have hne : ∀ {a : κ}, a ≠ j → (Key.lt j a || Key.lt a j) = true := by
    intro a ha
    cases h₁ : Key.lt j a <;> cases h₂ : Key.lt a j <;> simp
    exact ha (Key.connected h₂ h₁)
  fun_induction place k x l with
  | case1 => simp [lookup, hne h.symm]
  | case2 i y rest _ => rw [lookup, if_pos (hne h.symm)]
  | case3 i y rest _ _ ih => simp [lookup, ih]
  | case4 i y rest h₁ h₂ =>
    obtain rfl : k = i := Key.connected (by simpa using h₁) (by simpa using h₂)
    simp [lookup, hne h.symm]

@[simp] theorem find?_empty (k : κ) : (empty : Dict κ α).find? k = none := rfl

@[simp] theorem find?_insert_self (d : Dict κ α) (k : κ) (x : α) :
    (d.insert k x).find? k = some x :=
  lookup_place_self k x d.entries

theorem find?_insert_ne (d : Dict κ α) {k j : κ} (h : j ≠ k) (x : α) :
    (d.insert k x).find? j = d.find? j :=
  lookup_place_ne h x d.entries

theorem find?_insert [DecidableEq κ] (d : Dict κ α) (k j : κ) (x : α) :
    (d.insert k x).find? j = if j = k then some x else d.find? j := by
  split
  · subst j; exact find?_insert_self d k x
  · exact find?_insert_ne d ‹_› x

theorem lookup_filter_self (k : κ) (l : List (κ × α)) :
    lookup k (l.filter fun e => Key.lt k e.1 || Key.lt e.1 k) = none := by
  induction l with
  | nil => rfl
  | cons e rest ih =>
    cases h : (Key.lt k e.1 || Key.lt e.1 k) <;> simp_all [lookup]

theorem lookup_filter_ne {k j : κ} (h : j ≠ k) (l : List (κ × α)) :
    lookup j (l.filter fun e => Key.lt k e.1 || Key.lt e.1 k) = lookup j l := by
  induction l with
  | nil => rfl
  | cons e rest ih =>
    cases hk : (Key.lt k e.1 || Key.lt e.1 k) with
    | true => simp [hk, lookup, ih]
    | false =>
      have he : e.1 = k := by
        simp only [Bool.or_eq_false_iff] at hk
        exact Key.connected hk.2 hk.1
      have hj : (Key.lt j e.1 || Key.lt e.1 j) = true := by
        cases h₁ : Key.lt j e.1 <;> cases h₂ : Key.lt e.1 j <;> simp
        exact h ((Key.connected h₁ h₂).trans he)
      simp [hk, lookup, ih, hj]

@[simp] theorem find?_erase_self (d : Dict κ α) (k : κ) : (d.erase k).find? k = none :=
  lookup_filter_self k d.entries

theorem find?_erase_ne (d : Dict κ α) {k j : κ} (h : j ≠ k) : (d.erase k).find? j = d.find? j :=
  lookup_filter_ne h d.entries

theorem find?_erase [DecidableEq κ] (d : Dict κ α) (k j : κ) :
    (d.erase k).find? j = if j = k then none else d.find? j := by
  split
  · subst j; exact find?_erase_self d k
  · exact find?_erase_ne d ‹_›

theorem find?_mapValues (d : Dict κ α) (f : κ → α → β) (k : κ) :
    (d.mapValues f).find? k = (d.find? k).map (f k) := by
  simp only [find?, mapValues]
  induction d.entries with
  | nil => rfl
  | cons e l ih =>
    rw [List.map_cons, lookup, lookup]
    split
    · exact ih
    · next h =>
      simp only [Bool.not_eq_true, Bool.or_eq_false_iff] at h
      obtain rfl : k = e.1 := Key.connected h.1 h.2
      rfl

theorem lookup_eq_none_of_lt {k : κ} {l : List (κ × α)} (h : ∀ e ∈ l, Key.lt k e.1 = true) :
    lookup k l = none := by
  induction l with
  | nil => rfl
  | cons e rest ih => simp_all [lookup]

theorem entries_eq_of_lookup_eq {l m : List (κ × α)}
    (hl : l.Pairwise (fun a b => Key.lt a.1 b.1 = true))
    (hm : m.Pairwise (fun a b => Key.lt a.1 b.1 = true))
    (h : ∀ k, lookup k l = lookup k m) : l = m := by
  induction l generalizing m with
  | nil =>
    cases m with
    | nil => rfl
    | cons e m => have := h e.1; simp [lookup, Key.irrefl] at this
  | cons e l ih =>
    cases m with
    | nil => have := h e.1; simp [lookup, Key.irrefl] at this
    | cons f m =>
      obtain ⟨hl₁, hl₂⟩ := List.pairwise_cons.1 hl
      obtain ⟨hm₁, hm₂⟩ := List.pairwise_cons.1 hm
      have key : e.1 = f.1 := by
        refine Key.connected ?_ ?_
        · refine Bool.eq_false_iff.2 fun hlt => ?_
          have := h e.1
          rw [lookup_eq_none_of_lt (l := f :: m) (fun g hg => ?_)] at this
          · simp [lookup, Key.irrefl] at this
          · rcases List.mem_cons.1 hg with rfl | hg
            · exact hlt
            · exact Key.trans hlt (hm₁ g hg)
        · refine Bool.eq_false_iff.2 fun hlt => ?_
          have := h f.1
          rw [lookup_eq_none_of_lt (l := e :: l) (fun g hg => ?_)] at this
          · simp [lookup, Key.irrefl] at this
          · rcases List.mem_cons.1 hg with rfl | hg
            · exact hlt
            · exact Key.trans hlt (hl₁ g hg)
      have val : e = f := by
        have := h e.1
        simp only [lookup, Key.irrefl, key, Bool.or_self, Bool.false_eq_true, if_false,
          Option.some.injEq] at this
        exact Prod.ext key this
      subst val
      congr 1
      refine ih hl₂ hm₂ fun k => ?_
      have := h k
      simp only [lookup] at this
      split at this
      · exact this
      · next hk =>
        simp only [Bool.not_eq_true, Bool.or_eq_false_iff] at hk
        obtain rfl : k = e.1 := Key.connected hk.1 hk.2
        rw [lookup_eq_none_of_lt hl₁, lookup_eq_none_of_lt hm₁]

theorem find?_foldl_insert {l : List (κ × α)}
    (hl : l.Pairwise (fun a b => Key.lt a.1 b.1 = true)) (d : Dict κ α) (k : κ) :
    (l.foldl (fun d e => d.insert e.1 e.2) d).find? k = (lookup k l).or (d.find? k) := by
  induction l generalizing d with
  | nil => rfl
  | cons e rest ih =>
    obtain ⟨he, hrest⟩ := List.pairwise_cons.1 hl
    rw [List.foldl_cons, ih hrest, lookup]
    split
    · next hne =>
      have hk : k ≠ e.1 := by
        rintro rfl
        simp [Key.irrefl] at hne
      rw [find?_insert_ne d hk]
    · next heq =>
      simp only [Bool.not_eq_true, Bool.or_eq_false_iff] at heq
      obtain rfl : k = e.1 := Key.connected heq.1 heq.2
      rw [lookup_eq_none_of_lt he, find?_insert_self]
      rfl

/-- The entries that are put over others count first. -/
theorem find?_overlay (d e : Dict κ α) (k : κ) :
    (d.overlay e).find? k = (e.find? k).or (d.find? k) :=
  find?_foldl_insert e.sorted d k

theorem mem_of_lookup {k : κ} {x : α} {l : List (κ × α)} (h : lookup k l = some x) :
    (k, x) ∈ l := by
  induction l with
  | nil => cases h
  | cons e rest ih =>
    rw [lookup] at h
    split at h
    · exact List.mem_cons_of_mem e (ih h)
    · next hk =>
      simp only [Bool.not_eq_true, Bool.or_eq_false_iff] at hk
      obtain rfl : k = e.1 := Key.connected hk.1 hk.2
      obtain rfl : e.2 = x := Option.some.inj h
      exact List.mem_cons_self

theorem lookup_of_mem {k : κ} {x : α} {l : List (κ × α)}
    (hl : l.Pairwise (fun a b => Key.lt a.1 b.1 = true)) (h : (k, x) ∈ l) :
    lookup k l = some x := by
  induction l with
  | nil => cases h
  | cons e rest ih =>
    obtain ⟨hfirst, hrest⟩ := List.pairwise_cons.1 hl
    rcases List.mem_cons.1 h with rfl | h
    · simp [lookup, Key.irrefl]
    · rw [lookup, hfirst _ h, Bool.or_true, if_pos rfl]
      exact ih hrest h

/-- What is listed is what is found. -/
theorem mem_entries_iff {d : Dict κ α} {k : κ} {x : α} :
    (k, x) ∈ d.entries ↔ d.find? k = some x :=
  ⟨lookup_of_mem d.sorted, mem_of_lookup⟩

/-- The look-ups determine the dictionary. -/
theorem ext_find? {d e : Dict κ α} (h : ∀ k, d.find? k = e.find? k) : d = e :=
  ext (entries_eq_of_lookup_eq d.sorted e.sorted h)

theorem isEmpty_iff {d : Dict κ α} : d.isEmpty = true ↔ d = {} :=
  ⟨fun h => ext (List.isEmpty_iff.1 h), fun h => h ▸ rfl⟩

/-- Where nothing is found, there is nothing. -/
theorem eq_empty_iff {d : Dict κ α} : d = {} ↔ ∀ k, d.find? k = none :=
  ⟨fun h _ => h ▸ rfl, fun h => ext_find? fun k => h k⟩

/-! ## Updates that change nothing -/

theorem insert_eq_self {d : Dict κ α} {k : κ} {x : α} (h : d.find? k = some x) :
    d.insert k x = d := by
  classical
  refine ext_find? fun j => ?_
  rw [find?_insert]
  split
  · next hj => rw [hj, h]
  · rfl

theorem find?_modify [DecidableEq κ] (d : Dict κ α) (k j : κ) (f : α → α) :
    (d.modify k f).find? j = if j = k then (d.find? j).map f else d.find? j := by
  rw [modify]
  split
  · next x hx =>
    rw [find?_insert]
    split
    · next hj => rw [hj, hx]; rfl
    · rfl
  · next hx =>
    split
    · next hj => rw [hj, hx]; rfl
    · rfl

/-- Changing the value of a key changes nothing if the value is left as it is. -/
theorem modify_eq_self {d : Dict κ α} {k : κ} {f : α → α}
    (h : ∀ x, d.find? k = some x → f x = x) : d.modify k f = d := by
  rw [modify]
  split
  · next x hx => rw [h x hx]; exact insert_eq_self hx
  · rfl

end Dict

end NodeDeploy
