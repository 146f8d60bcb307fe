/-!
The signal to shut down.

Subscribers get the signal once, those that subscribe later as well. Shutting down a second time does
nothing.
-/

namespace FlowScheduler

/-- What a subscriber hears when it looks for the signal. -/
inductive Notice where
  | signal
  /-- Nothing yet. -/
  | silence
  /-- Nothing any more. -/
  | closed
  deriving DecidableEq, Repr

/-- A subscription to the signal. -/
structure Subscription where
  /-- Whether the signal has arrived and has not been taken. -/
  pending : Bool
  deriving DecidableEq, Repr

/-- The state of the shutdown. -/
structure Shutdown where
  triggered : Bool := false
  subscriptions : List Subscription := []
  deriving DecidableEq, Repr

namespace Shutdown

/-- Adds a subscription; the signal is there at once if it was given before. -/
def subscribe (s : Shutdown) : Shutdown :=
  { s with subscriptions := s.subscriptions ++ [⟨s.triggered⟩] }

/-- Gives the signal, unless it was given before. -/
def trigger (s : Shutdown) : Shutdown :=
  if s.triggered then s
  else { triggered := true, subscriptions := s.subscriptions.map fun _ => ⟨true⟩ }

/-- Gives up the subscription at a position. -/
def drop (s : Shutdown) (index : Nat) : Shutdown :=
  { s with subscriptions := s.subscriptions.eraseIdx index }

/-- What a subscriber hears. -/
def notice (s : Shutdown) (subscription : Subscription) : Notice :=
  if subscription.pending then .signal else if s.triggered then .closed else .silence

/-- Lets every subscriber look for the signal. -/
def poll (s : Shutdown) : Shutdown × List Notice :=
  ({ s with subscriptions := s.subscriptions.map fun _ => ⟨false⟩ }, s.subscriptions.map s.notice)

end Shutdown

end FlowScheduler
