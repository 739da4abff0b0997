/-!
# Broadcasts

A channel carries signals to every receiver that is subscribed, and keeps the last one only. A
receiver that missed some first learns how many, and then gets the one that is kept. It is how a
shutdown reaches all that has to stop.
-/

namespace PathRouter

/-- A channel: how many signals were sent, and for every receiver that there was, how many of them
it is past, as long as it listens. -/
structure Broadcast where
  sent : Nat := 0
  receivers : List (Option Nat) := []
deriving DecidableEq, Repr

/-- What a receiver gets: nothing, a signal, or the number of signals that it missed. -/
inductive Signal where
  | empty
  | fired
  | lagged (missed : Nat)
deriving DecidableEq, Repr

namespace Broadcast

/-- How many receivers listen. -/
def receiverCount (b : Broadcast) : Nat := b.receivers.countP Option.isSome

/-- The channel with one more receiver, for the signals to come. -/
def subscribe (b : Broadcast) : Broadcast := { b with receivers := b.receivers ++ [some b.sent] }

/-- Sends a signal to all receivers; without any it is lost. -/
def trigger (b : Broadcast) : Broadcast :=
  if b.receiverCount = 0 then b else { b with sent := b.sent + 1 }

/-- The channel without a receiver. -/
def drop (b : Broadcast) (i : Nat) : Broadcast := { b with receivers := b.receivers.set i none }

/-- What a receiver gets now. -/
def poll (b : Broadcast) (i : Nat) : Signal × Broadcast :=
  match b.receivers[i]? with
  | some (some past) =>
    if b.sent ≤ past then (.empty, b)
    else if past + 1 = b.sent then (.fired, { b with receivers := b.receivers.set i (some b.sent) })
    else
      (.lagged (b.sent - 1 - past), { b with receivers := b.receivers.set i (some (b.sent - 1)) })
  | _ => (.empty, b)

end Broadcast

end PathRouter
