/-! # Counters

What the engine counts. A run's counts are the list of its increments, in their order.
-/
namespace Sinkhole

inductive QueryAction where
  | blocked
  | redirected
  | allowed
  | dropped
deriving DecidableEq, Repr

inductive ReconnectReason where
  | requested
  | error
  | network
deriving DecidableEq, Repr

inductive Counter where
  | queries (action : QueryAction)
  | pendingEvictions
  | reconnects (reason : ReconnectReason)
deriving DecidableEq, Repr

namespace Counter

def name : Counter → String
  | queries .blocked => "nullroute_queries_total\x7baction=blocked\x7d"
  | queries .redirected => "nullroute_queries_total\x7baction=redirected\x7d"
  | queries .allowed => "nullroute_queries_total\x7baction=allowed\x7d"
  | queries .dropped => "nullroute_queries_total\x7baction=dropped\x7d"
  | pendingEvictions => "nullroute_pending_evictions_total"
  | reconnects .requested => "nullroute_reconnects_total\x7breason=requested\x7d"
  | reconnects .error => "nullroute_reconnects_total\x7breason=error\x7d"
  | reconnects .network => "nullroute_reconnects_total\x7breason=network\x7d"

def all : List Counter :=
  [queries .blocked, queries .redirected, queries .allowed, queries .dropped, pendingEvictions,
    reconnects .requested, reconnects .error, reconnects .network]

end Counter

end Sinkhole
