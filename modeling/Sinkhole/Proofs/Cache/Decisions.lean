import Mathlib
import Sinkhole.Cache.CachedClassifier

/-! # Remembered decisions

Whatever is done with a cache between two lookups, and whatever it forgets by itself, what it
remembers are decisions of the classifier behind it. So a lookup decides as that classifier does.
-/
namespace Sinkhole

inductive CacheUse where
  | lookup (host : String)
  | invalidate
  | evict (host : String)
  | setRecording (recording : Bool)
  | clearLog

namespace CachedClassifier

variable {inner : String → Classification} {cache : CachedClassifier}

def after (inner : String → Classification) (cache : CachedClassifier) : CacheUse → CachedClassifier
  | .lookup host => (cache.classify inner host).cache
  | .invalidate => cache.invalidate
  | .evict host => cache.evict host
  | .setRecording recording => cache.setRecording recording
  | .clearLog => cache.clearLog

/-- Every remembered decision is the one that the classifier behind the cache takes. -/
def Agrees (cache : CachedClassifier) (inner : String → Classification) : Prop :=
  ∀ host classification, cache.entries[host]? = some classification → classification = inner host

theorem agrees_new (capacity : Nat) : (new capacity).Agrees inner := by
  intro host classification hentry
  rw [new, Std.HashMap.getElem?_empty] at hentry
  cases hentry

@[simp] theorem entries_record (cache : CachedClassifier) (host : String) :
    (cache.record host).entries = cache.entries := by
  rw [record]
  split <;> rfl

theorem Agrees.remember (h : cache.Agrees inner) (host : String) :
    (cache.remember host (inner host)).Agrees inner := by
  intro other classification hentry
  rw [CachedClassifier.remember] at hentry
  split at hentry
  · rw [Std.HashMap.getElem?_insert] at hentry
    split at hentry
    · rename_i hsame
      obtain rfl := eq_of_beq hsame
      exact (Option.some.inj hentry).symm
    · exact h other classification hentry
  · exact h other classification hentry

/-- A lookup decides as the classifier behind the cache, and remembers only that. -/
theorem Agrees.classify (h : cache.Agrees inner) (host : String) :
    (cache.classify inner host).classification = inner host ∧
      (cache.classify inner host).cache.Agrees inner := by
  rw [CachedClassifier.classify, CachedClassifier.lookup, entries_record]
  cases hentry : cache.entries[host]? with
  | some classification => exact ⟨h host classification hentry, h⟩
  | none =>
    refine ⟨rfl, ?_⟩
    dsimp only
    apply Agrees.remember
    exact h

theorem Agrees.after (h : cache.Agrees inner) (use : CacheUse) :
    (cache.after inner use).Agrees inner := by
  cases use with
  | lookup host => exact (h.classify host).2
  | invalidate => exact agrees_new cache.capacity
  | evict host =>
    intro other classification hentry
    rw [CachedClassifier.after, evict, Std.HashMap.getElem?_erase] at hentry
    split at hentry
    · cases hentry
    · exact h other classification hentry
  | setRecording recording => exact h
  | clearLog => exact h

theorem Agrees.foldl_after (h : cache.Agrees inner) (uses : List CacheUse) :
    (uses.foldl (CachedClassifier.after inner) cache).Agrees inner := by
  induction uses generalizing cache with
  | nil => exact h
  | cons use uses ih => exact ih (h.after use)

/-- However a new cache was used, it decides as the classifier behind it. -/
theorem classification_after_uses (capacity : Nat) (uses : List CacheUse) (host : String) :
    ((uses.foldl (CachedClassifier.after inner) (new capacity)).classify inner
      host).classification = inner host :=
  ((agrees_new capacity).foldl_after uses |>.classify host).1

end CachedClassifier

end Sinkhole
