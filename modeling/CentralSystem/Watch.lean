import CentralSystem.Table

namespace CentralSystem

structure Watched where
  chargePoint : String
  connector : UInt32
deriving DecidableEq, Inhabited, Repr

abbrev WatchList := Table Int32 Watched

inductive WatchOrder where
  | register (transaction : Int32) (entry : Watched)
  | unregister (transaction : Int32)
deriving DecidableEq, Repr

namespace WatchList

/-- Watches a transaction; of several orders to do so the first counts. The answer tells whether the
list changed. -/
def register (w : WatchList) (transaction : Int32) (entry : Watched) : Bool × WatchList :=
  if w.contains transaction then (false, w) else (true, w.insert transaction entry)

def unregister (w : WatchList) (transaction : Int32) : Bool × WatchList :=
  (w.contains transaction, w.erase transaction)

def carryOut (w : WatchList) : WatchOrder → WatchList
  | .register transaction entry => (w.register transaction entry).2
  | .unregister transaction => (w.unregister transaction).2

def drain (w : WatchList) (queue : List WatchOrder) : WatchList := queue.foldl carryOut w

end WatchList

end CentralSystem
