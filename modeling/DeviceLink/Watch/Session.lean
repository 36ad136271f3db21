import DeviceLink.Watch.Pinger

/-!
# Pinging over a queue

Pings go through the same queue as all other commands. They follow one another
until the connection is lost, until there are no more of them, or until
somebody stops them; the stop is seen between two pings.
-/

namespace DeviceLink.QueueSession

variable {σ : Type}

/-- Send pings in turn until the connection is lost. -/
def pingAll :
    List (Strategy σ) → Pinger → QueueSession σ → Pinger × QueueSession σ
  | [], pinger, session => (pinger, session)
  | ping :: pings, pinger, session =>
      if pinger.isLost then (pinger, session)
      else
        let (result, session) := session.execute ping
        pingAll pings (pinger.observe result) session

/-- Send one ping up to `rounds` times, until the connection is lost or `stopped` holds. -/
def pingUntil
    (ping : Strategy σ)
    (stopped : QueueSession σ → Bool) :
    Nat → Pinger → QueueSession σ → Pinger × QueueSession σ
  | 0, pinger, session => (pinger, session)
  | rounds + 1, pinger, session =>
      if pinger.isLost || stopped session then (pinger, session)
      else
        let (result, session) := session.execute ping
        pingUntil ping stopped rounds (pinger.observe result) session

end DeviceLink.QueueSession
