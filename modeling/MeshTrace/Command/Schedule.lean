import MeshTrace.Command.Options

/-!
# When a run drains and when it stops

Time is counted in seconds from the start of the collection.  A run drains at 0 and
then after every interval, up to the moment at which it stops: the end of its duration
or an interruption, whichever comes first.  An interval that leads to a second which the
clock cannot show is cut to thirty years.

* `lt_drains_iff` — the drains before the end are those that are due earlier.
-/

namespace MeshTrace

/-! The clock -/

namespace Clock

/-- The seconds that a clock shows when the collection starts, at the least. -/
def start : Nat := 1000000

/-- The first second that a clock cannot show. -/
def size : Nat := 9223372036854775808

/-- Whether the clock can show a second of the collection. -/
def shows (second : Nat) : Bool := start + second < size

/-- The seconds in thirty years of 365 days. -/
def longWait : Nat := 30 * 365 * 86400

/-- The second at which the next drain is due after one at `second`. -/
def next (interval second : Nat) : Nat :=
  if shows (second + interval) then second + interval else second + longWait

/-- The second at which a drain is due; the first is number 0. -/
def due (interval : Nat) : (n : Nat) → Nat
  | 0 => 0
  | n + 1 => next interval (due interval n)

/-- How many intervals the clock can show. -/
def wholeIntervals (interval : Nat) : Nat := (size - 1 - start) / interval

/-- The clock can show whatever comes before a second that it can show. -/
theorem shows_of_le {early late : Nat} (h : early ≤ late) (hs : shows late = true) :
    shows early = true := by
  simp only [shows, decide_eq_true_eq] at hs ⊢
  omega

/-- The clock can show a number of intervals if it is no larger than the whole ones. -/
theorem shows_mul_iff {interval : Nat} (h : 0 < interval) (n : Nat) :
    shows (n * interval) = true ↔ n ≤ wholeIntervals interval := by
  rw [wholeIntervals, Nat.le_div_iff_mul_le h]
  rw [show shows (n * interval) = decide (start + n * interval < size) from rfl,
    decide_eq_true_iff]
  simp only [start, size]
  omega

/-- The drains up to the last whole interval. -/
theorem due_of_le {interval : Nat} (h : 0 < interval) {n : Nat}
    (hn : n ≤ wholeIntervals interval) : due interval n = n * interval := by
  induction n with
  | zero => simp [due]
  | succ n ih =>
    have hs := (shows_mul_iff h (n + 1)).2 hn
    rw [Nat.succ_mul] at hs
    rw [due, ih (by omega), next, if_pos hs, Nat.succ_mul]

/-- The drains after the last whole interval. -/
theorem due_add {interval : Nat} (h : 0 < interval) (n : Nat) :
    due interval (wholeIntervals interval + n) =
      wholeIntervals interval * interval + n * longWait := by
  induction n with
  | zero => simp [due_of_le h (Nat.le_refl _)]
  | succ n ih =>
    have hs : ¬ shows (wholeIntervals interval * interval + n * longWait + interval) = true := by
      intro hs
      have whole : shows ((wholeIntervals interval + 1) * interval) = true := by
        rw [Nat.succ_mul]
        exact shows_of_le (by omega) hs
      have := (shows_mul_iff h _).1 whole
      omega
    rw [← Nat.add_assoc, due, ih, next, if_neg hs, Nat.succ_mul]
    omega

end Clock

/-! The end -/

/-- Why a run stops. -/
inductive StopReason where
  | duration
  | interruption
deriving Repr, DecidableEq

/-- What a run logs when it stops. -/
def StopReason.text : StopReason → String
  | duration => "Duration reached, shutting down..."
  | interruption => "Interrupted, shutting down..."

/-- The end of a collection. -/
structure Stop where
  reason : StopReason
  second : Nat
deriving Repr, DecidableEq

namespace Stop

/-- The end of a collection with a duration (0 is none) that may be interrupted; absent
if it goes on for ever. -/
def first (duration : UInt64) (interruption : Option Nat) : Option Stop :=
  let planned := if duration = 0 then none else some duration.toNat
  match planned, interruption with
  | none, none => none
  | some second, none => some ⟨.duration, second⟩
  | none, some second => some ⟨.interruption, second⟩
  | some planned, some second =>
    if second < planned then some ⟨.interruption, second⟩ else some ⟨.duration, planned⟩

/-- The number of drains before the end: those a whole number of intervals after the
first one, and then those that follow at the distance of a long wait. -/
def drains (stop : Stop) (interval : Nat) : Nat :=
  let last := Clock.wholeIntervals interval * interval
  if stop.second ≤ last then (stop.second + (interval - 1)) / interval
  else Clock.wholeIntervals interval +
    (stop.second - last + (Clock.longWait - 1)) / Clock.longWait

/-- The drains before the end are those that are due earlier. -/
theorem lt_drains_iff (stop : Stop) {interval : Nat} (h : 0 < interval) (n : Nat) :
    n < stop.drains interval ↔ Clock.due interval n < stop.second := by
  have longWait_pos : 0 < Clock.longWait := by decide
  simp only [drains]
  by_cases hn : n ≤ Clock.wholeIntervals interval
  · rw [Clock.due_of_le h hn]
    split
    · rw [Nat.lt_div_iff_mul_lt h]
      omega
    · have bound := Nat.mul_le_mul_right interval hn
      have positive := Nat.div_pos (a := stop.second -
        Clock.wholeIntervals interval * interval + (Clock.longWait - 1)) (by omega) longWait_pos
      omega
  · obtain ⟨m, rfl⟩ := Nat.exists_eq_add_of_le (Nat.le_of_not_le hn)
    rw [Clock.due_add h]
    split
    · rw [Nat.lt_div_iff_mul_lt h, Nat.add_mul]
      omega
    · rw [Nat.add_lt_add_iff_left, Nat.lt_div_iff_mul_lt longWait_pos]
      omega

/-- Of an interval that the clock cannot show, thirty years are waited. -/
example : Stop.drains ⟨.duration, 946080000⟩ 18446744073709551615 = 1 ∧
    Stop.drains ⟨.duration, 946080001⟩ 18446744073709551615 = 2 := by
  decide

end Stop

end MeshTrace
