import Mathlib.Data.Nat.ModEq
import Mathlib.Tactic.Lemma

/-!
# Round robin

`count` places are visited in a circle, beginning at `next`: the `n`-th visit is to `place next n`.  The next
round begins behind the place that was served, so that `ahead next i`, the number of places visited before
`i`, goes down with every other place served (`ahead_served`).
-/

namespace RoundRobin

/-- The place of visit number `n`. -/
def place (next n count : ℕ) : ℕ := (next + n) % count

/-- The number of places visited before `i`. -/
def ahead (next i count : ℕ) : ℕ := (i + count - next) % count

variable {next i n m count : ℕ}

lemma place_lt (hpos : 0 < count) : place next n count < count := Nat.mod_lt _ hpos

lemma ahead_lt (hpos : 0 < count) : ahead next i count < count := Nat.mod_lt _ hpos

lemma place_place : place (place next n count) m count = place next (n + m) count := by
  rw [place, place, Nat.mod_add_mod, place, Nat.add_assoc]

/-- A place is visited when those before it have been. -/
lemma place_ahead (hnext : next < count) (hi : i < count) :
    place next (ahead next i count) count = i := by
  rw [place, ahead, Nat.add_mod_mod, show next + (i + count - next) = i + count by omega,
    Nat.add_mod_right, Nat.mod_eq_of_lt hi]

lemma ahead_place (hnext : next < count) (hn : n < count) :
    ahead next (place next n count) count = n := by
  rw [ahead, place]
  by_cases hwrap : next + n < count
  · rw [Nat.mod_eq_of_lt hwrap, show next + n + count - next = n + count by omega,
      Nat.add_mod_right, Nat.mod_eq_of_lt hn]
  · have hplace : (next + n) % count = next + n - count := by
      rw [Nat.mod_eq_sub_mod (not_lt.mp hwrap), Nat.mod_eq_of_lt (by omega)]
    rw [hplace, show next + n - count + count - next = n by omega, Nat.mod_eq_of_lt hn]

/-- Behind a place that came before `i`, fewer places are ahead of `i`. -/
lemma ahead_served (hnext : next < count) (hi : i < count) (hn : n < ahead next i count) :
    ahead (place (place next n count) 1 count) i count + (n + 1) = ahead next i count := by
  have hpos : 0 < count := by omega
  have hahead : ahead next i count < count := ahead_lt hpos
  have hplace : i =
      place (place next (n + 1) count) (ahead next i count - (n + 1)) count := by
    rw [place_place, Nat.add_sub_cancel' (by omega), place_ahead hnext hi]
  rw [place_place]
  conv_lhs => rw [hplace]
  rw [ahead_place (place_lt hpos) (by omega)]
  omega

end RoundRobin
