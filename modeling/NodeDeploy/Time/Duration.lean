import NodeDeploy.Text.Numeral

/-! # Durations

A duration is a number of nanoseconds whose whole seconds fit in 64 bits. A sum or a multiple beyond
the longest duration does not exist, and the operations say so.

* `Duration.add?_eq_none_iff`: a sum is missing exactly when it is longer than the longest duration,
  and so is a multiple (`Duration.scale?_eq_none_iff`);
* `Duration.text` writes a duration in the largest unit that has a whole part.
-/

namespace NodeDeploy

structure Duration where
  nanos : Nat
  bounded : nanos < 0x10000000000000000 * 1000000000

namespace Duration

@[ext] theorem ext {a b : Duration} (h : a.nanos = b.nanos) : a = b := by
  cases a; cases b; simp_all

instance : DecidableEq Duration := fun a b =>
  if h : a.nanos = b.nanos then .isTrue (ext h) else .isFalse fun g => h (g ▸ rfl)

instance : Repr Duration := ⟨fun d n => reprPrec d.nanos n⟩

instance : LE Duration := ⟨fun a b => a.nanos ≤ b.nanos⟩
instance : LT Duration := ⟨fun a b => a.nanos < b.nanos⟩
instance (a b : Duration) : Decidable (a ≤ b) := inferInstanceAs (Decidable (a.nanos ≤ b.nanos))
instance (a b : Duration) : Decidable (a < b) := inferInstanceAs (Decidable (a.nanos < b.nanos))

def ofNanos? (n : Nat) : Option Duration :=
  if h : n < 0x10000000000000000 * 1000000000 then some ⟨n, h⟩ else none

def ofParts? (seconds nanos : Nat) : Option Duration := ofNanos? (seconds * 1000000000 + nanos)

def zero : Duration := ⟨0, by decide⟩

instance : Inhabited Duration := ⟨zero⟩

def ofSeconds (s : UInt64) : Duration :=
  ⟨s.toNat * 1000000000, Nat.mul_lt_mul_of_pos_right s.toNat_lt (by decide)⟩

def seconds (d : Duration) : Nat := d.nanos / 1000000000

def subsecond (d : Duration) : Nat := d.nanos % 1000000000

def add? (a b : Duration) : Option Duration := ofNanos? (a.nanos + b.nanos)

def scale? (k : Nat) (d : Duration) : Option Duration := ofNanos? (k * d.nanos)

def shorter (a b : Duration) : Duration := if a ≤ b then a else b

theorem ofNanos?_eq_none_iff {n : Nat} :
    ofNanos? n = none ↔ 0x10000000000000000 * 1000000000 ≤ n := by
  simp [ofNanos?]

theorem add?_eq_none_iff {a b : Duration} :
    a.add? b = none ↔ 0x10000000000000000 * 1000000000 ≤ a.nanos + b.nanos :=
  ofNanos?_eq_none_iff

theorem add?_eq_some_iff {a b c : Duration} : a.add? b = some c ↔ c.nanos = a.nanos + b.nanos := by
  simp only [add?, ofNanos?]
  constructor
  · intro h
    split at h
    · simp only [Option.some.injEq] at h
      simp [← h]
    · simp at h
  · intro h
    rw [dif_pos (h ▸ c.bounded)]
    exact congrArg some (ext h.symm)

theorem scale?_eq_none_iff {k : Nat} {d : Duration} :
    d.scale? k = none ↔ 0x10000000000000000 * 1000000000 ≤ k * d.nanos :=
  ofNanos?_eq_none_iff

theorem nanos_of_scale? {k : Nat} {d m : Duration} (h : d.scale? k = some m) :
    m.nanos = k * d.nanos := by
  rw [scale?, ofNanos?] at h
  split at h
  · cases h
    rfl
  · cases h

theorem nanos_shorter (a b : Duration) : (a.shorter b).nanos = min a.nanos b.nanos := by
  simp only [shorter, LE.le]
  split <;> rename_i h <;> simp only [Nat.le_eq] at h <;> omega

/-- The digits after the point of a fraction over a power of ten, without trailing zeros. -/
def fraction (places n : Nat) : List Char :=
  ((Text.padDigits places n).reverse.dropWhile (· = '0')).reverse

def inUnit (whole places part : Nat) (unit : String) : String :=
  match fraction places part with
  | [] => decimal whole ++ unit
  | ds => decimal whole ++ "." ++ String.ofList ds ++ unit

/-- A duration in the largest of the units s, ms, µs and ns of which it has a whole one. -/
def text (d : Duration) : String :=
  let part := d.subsecond
  if 0 < d.seconds then inUnit d.seconds 9 part "s"
  else if 1000000 ≤ part then inUnit (part / 1000000) 6 (part % 1000000) "ms"
  else if 1000 ≤ part then inUnit (part / 1000) 3 (part % 1000) "µs"
  else inUnit part 0 0 "ns"

end Duration

end NodeDeploy
