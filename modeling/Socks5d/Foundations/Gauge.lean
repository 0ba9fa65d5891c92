import Mathlib.Data.List.Range
import Mathlib.Logic.Function.Basic
import Mathlib.Tactic.Common

namespace Gauges

def living {α : Type} (table : Nat → Option α) (bound : Nat) : Nat :=
  (List.range bound).countP fun id => (table id).isSome

structure Gauge where
  historic : Int
  current : Int
  deriving DecidableEq, Repr

def Gauge.start : Gauge := ⟨0,0⟩
def Gauge.add (g : Gauge) : Gauge := ⟨g.historic+1,g.current+1⟩
def Gauge.remove (g : Gauge) : Gauge := {g with current:=g.current - 1}

structure Gauge.Counts (g : Gauge) (living : Nat) : Prop where
  current : g.current = living
  some : 0 ≤ g.current
  historic : g.current ≤ g.historic

-- What it does say when `strays` objects were taken off it that had never been put on.
structure Gauge.Tracks (g : Gauge) (living strays : Nat) : Prop where
  lags : g.current + strays = living
  room : (living : Int) ≤ g.historic

variable {α : Type} {table : Nat → Option α} {bound id count strays : Nat} {g : Gauge}

theorem fresh_below {entry : α} (fresh : ∀ id, bound ≤ id → table id = none) (live : table id = some entry) :
    id < bound := by
  by_contra above
  rw [fresh id (by omega)] at live
  cases live

theorem fresh_update (fresh : ∀ id, bound ≤ id → table id = none) (inside : id < bound) (entry : Option α) :
    ∀ other, bound ≤ other → Function.update table id entry other = none := by
  intro other above
  rw [Function.update_of_ne (by omega)]
  exact fresh other above

theorem fresh_next (fresh : ∀ id, bound ≤ id → table id = none) (entry : Option α) :
    ∀ other, bound+1 ≤ other → Function.update table bound entry other = none := by
  intro other above
  rw [Function.update_of_ne (by omega)]
  exact fresh other (by omega)

end Gauges
