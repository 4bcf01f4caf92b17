import EventGateway.Service.World

/-!
# Writers

The writers of all connections, each of which takes its steps on its own line.
-/

namespace EventGateway.World

def write (w : World) (id : ConnectionId) : World := w.modifyLine id Line.write

def writerReadyAt? (w : World) (id : ConnectionId) : Option Nat :=
  (w.line? id).bind Line.writerReadyAt?

end EventGateway.World
