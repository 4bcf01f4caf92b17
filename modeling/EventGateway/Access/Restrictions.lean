import EventGateway.Net.Netmask

/-!
# Restrictions of app tokens

Where an app token may be used from. An empty list restricts nothing, and a netmask that cannot be read
refuses every address, so that no mistake in a list makes a token usable from more places.
-/

namespace EventGateway

open Net

/-- Where an app token may be used from. -/
structure Restrictions where
  netmasks : List Netmask := []
  origins : List String := []
  /-- Was there a netmask that could not be read? -/
  unparseable : Bool := false
  deriving DecidableEq, Repr, Inhabited

namespace Restrictions

def ofTexts (netmasks origins : List String) : Restrictions where
  netmasks := netmasks.filterMap Netmask.ofText?
  origins := origins
  unparseable := netmasks.any fun s => (Netmask.ofText? s).isNone

def permitsAddress (r : Restrictions) (address : Option Address) : Bool :=
  r.netmasks.isEmpty || address.any fun a => r.netmasks.any (·.contains a)

def permitsOrigin (r : Restrictions) (origin : Option String) : Bool :=
  r.origins.isEmpty || origin.any fun o => r.origins.contains o

def permits (r : Restrictions) (address : Option Address) (origin : Option String) : Bool :=
  !r.unparseable && (r.permitsAddress address && r.permitsOrigin origin)

end Restrictions

end EventGateway
