import Std.Data.HashSet

/-! # Query log

The hosts that were looked up, first lookup first, each once and the oldest forgotten when the log
is full. The order is a queue, and a set beside it answers whether a host is in it.
-/
namespace Sinkhole

/-- A queue as the part to take from and, in reverse, the part to add to. -/
structure Queue (α : Type) where
  front : List α
  back : List α
deriving Repr

namespace Queue

variable {α : Type}

def empty : Queue α := ⟨[], []⟩

def toList (queue : Queue α) : List α := queue.front ++ queue.back.reverse

def push (queue : Queue α) (a : α) : Queue α := { queue with back := a :: queue.back }

def pop? (queue : Queue α) : Option (α × Queue α) :=
  match queue.front with
  | a :: rest => some (a, { queue with front := rest })
  | [] =>
    match queue.back.reverse with
    | a :: rest => some (a, ⟨rest, []⟩)
    | [] => none

@[simp] theorem toList_empty : (empty : Queue α).toList = [] := rfl

@[simp] theorem toList_push (queue : Queue α) (a : α) :
    (queue.push a).toList = queue.toList ++ [a] := by
  simp [push, toList]

theorem pop?_eq_none {queue : Queue α} : queue.pop? = none ↔ queue.toList = [] := by
  rcases queue with ⟨front, back⟩
  cases front with
  | cons a rest => simp [pop?, toList]
  | nil =>
    cases h : back.reverse <;> simp [pop?, toList, h]

theorem toList_of_pop? {queue rest : Queue α} {a : α} (h : queue.pop? = some (a, rest)) :
    queue.toList = a :: rest.toList := by
  rcases queue with ⟨front, back⟩
  cases front with
  | cons b others =>
    simp only [pop?, Option.some.injEq, Prod.mk.injEq] at h
    obtain ⟨rfl, rfl⟩ := h
    simp [toList]
  | nil =>
    cases hb : back.reverse with
    | nil => simp [pop?, hb] at h
    | cons b others =>
      simp only [pop?, hb, Option.some.injEq, Prod.mk.injEq] at h
      obtain ⟨rfl, rfl⟩ := h
      simp [toList, hb]

end Queue

structure QueryLog where
  order : Queue String
  seen : Std.HashSet String
  size : Nat
  limit : Nat

namespace QueryLog

def empty (limit : Nat) : QueryLog := ⟨.empty, ∅, 0, limit⟩

def toList (log : QueryLog) : List String := log.order.toList

def forgetOldest (log : QueryLog) : QueryLog :=
  match log.order.pop? with
  | some (oldest, order) =>
    { log with order := order, seen := log.seen.erase oldest, size := log.size - 1 }
  | none => log

/-- Adds a host unless it is in the log, forgetting the oldest when the log is full. -/
def insert (log : QueryLog) (host : String) : QueryLog :=
  if log.seen.contains host then log
  else
    let log := if log.limit ≤ log.size then log.forgetOldest else log
    { log with
      order := log.order.push host
      seen := log.seen.insert host
      size := log.size + 1 }

def clear (log : QueryLog) : QueryLog := empty log.limit

end QueryLog

end Sinkhole
