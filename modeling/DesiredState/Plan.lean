import DesiredState.Device.Offline
import DesiredState.Pass
import DesiredState.WorkOrder

/-!
# Carrying out work orders

A work order is resolved against the catalogue and carried out in one pass.
Against the offline device no time goes by, and the only wait that can last is
one for a reload that stays pending; it is followed for as long as the
patience lasts.
-/

namespace DesiredState
namespace Plan

/-- How many polls an unbounded wait is followed for. -/
def patience : Nat := Text.word32Max

/-- The pass of a work order, if the catalogue knows its resource. -/
def passOf (order : WorkOrder) (patience : Nat) : Except Fault Pass := do
  let entry ← Catalog.Entry.ofName order.entry
  let kind ← Catalog.kindOf entry order.selector
  let key ← Catalog.keyOf entry kind order.partition order.name
  return { kind, key, target := order.target, checkOnly := order.checkOnly, patience }

/-- The talk of a work order. -/
def talk (order : WorkOrder) (patience : Nat) : Pass.Talk :=
  match passOf order patience with
  | .ok pass => pass.reconcile order.params
  | .error fault => Pass.fail false fault

/-- Carries out a work order against an offline device. -/
def run (order : WorkOrder) (patience : Nat) (shelf : Device.Shelf) :
    Run Device.Shelf (Except Setback Report) :=
  (talk order patience).run Device.offline shelf

end Plan
end DesiredState
