import EventGateway.Service.World

/-!
# Checking credentials again

A pass goes through the connections that were registered when it started and looks up whether the
principal of each still stands. One that does not, or that cannot be looked up, is taken away, unless
another principal has come meanwhile. Rooms are left alone.
-/

namespace EventGateway.World

def passChecks (affected : Option String) (c : Connection) : Bool :=
  !c.closed &&
    match c.principal.userId with
    | none => false
    | some user => affected.all (· = user)

/-- Takes the principal away from a connection that has been checked, unless it still stands. -/
def concludeCheck (w : World) (p : Pass) (id : ConnectionId) (principal : Principal)
    (valid : Bool) : World × Pass :=
  let p := { p with current := none }
  if valid then (w, p)
  else
    let demoted := (w.broker.connection? id).any (·.demotable principal)
    (w.modifyConnection id fun c => c.demoteIf principal,
      if demoted then { p with demoted := p.demoted + 1 } else p)

def settleCheck (w : World) (p : Pass) (id : ConnectionId) (principal : Principal) :
    Limited Bool → World × Pass
  | .finished (.ok valid) => w.concludeCheck p id principal valid
  | .finished (.error _) => w.concludeCheck p id principal false
  | .timedOut => w.concludeCheck p id principal false
  | .waiting lookup => (w.countTurn, { p with current := some (id, principal, lookup) })

/-- Checks the remaining connections until a check has to wait. -/
def checkRemaining (w : World) (p : Pass) : List ConnectionId → World × Pass
  | [] => (w, { p with remaining := [] })
  | id :: rest =>
    match w.broker.connection? id with
    | none => w.checkRemaining p rest
    | some c =>
      if passChecks p.affected c then
        let (w, p) := w.settleCheck p id c.principal
          (.start w.store w.now w.timeLimit w.turns (c.principal.stillValid c.caller))
        if p.current.isSome then (w, { p with remaining := rest }) else w.checkRemaining p rest
      else w.checkRemaining p rest

/-- Goes on with a pass until it has to wait or is done. -/
def advancePass (w : World) (p : Pass) : World × Pass :=
  match p.current with
  | none => w.checkRemaining p p.remaining
  | some (id, principal, lookup) =>
    if lookup.readyAt ≤ w.now then
      let (w, p) := w.settleCheck { p with current := none } id principal
        (lookup.advance w.store w.now w.turns)
      if p.current.isSome then (w, p) else w.checkRemaining p p.remaining
    else (w, p)

def runPass (w : World) (index : Nat) : World :=
  match w.passes[index]? with
  | some p =>
    let (w, p) := w.advancePass p
    { w with passes := w.passes.set index p }
  | none => w

end EventGateway.World
