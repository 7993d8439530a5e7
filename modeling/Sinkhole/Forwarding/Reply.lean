import Sinkhole.Packet.Response

/-! # Replies

What is kept of a request until its answer is there. In the engine that is the flow of the
request, and the answer becomes the packet that travels back along it.
-/
namespace Sinkhole

/-- Turns a raw answer into the packet for the tunnel. -/
class Reply (ρ : Type) where
  assemble : ρ → Bytes → Except Error Bytes

instance : Reply Flow where
  assemble flow answer := Packet.response answer flow

structure Completion (ρ : Type) where
  answer : Bytes
  reply : ρ
deriving Repr

namespace Completion

variable {ρ : Type}

def assemble [Reply ρ] (completion : Completion ρ) : Except Error Bytes :=
  Reply.assemble completion.reply completion.answer

end Completion

structure CompletionQueue (ρ : Type) where
  waiting : List (Completion ρ)
  capacity : Nat
deriving Repr

namespace CompletionQueue

variable {ρ : Type}

/-- A queue always has room for one. -/
def new (capacity : Nat) : CompletionQueue ρ := ⟨[], max capacity 1⟩

def push? (queue : CompletionQueue ρ) (completion : Completion ρ) :
    Option (CompletionQueue ρ) :=
  if queue.waiting.length < queue.capacity then
    some { queue with waiting := queue.waiting ++ [completion] }
  else none

end CompletionQueue

end Sinkhole
