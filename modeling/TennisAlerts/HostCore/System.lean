import TennisAlerts.HostCore.Delivery

/-!
# The host as a system

Any number of workers and requests, each running one operation after another,
with crashes and the passing of time between any two actions.
-/

namespace TennisAlerts.HostCore

open TennisAlerts.Concurrent

/-- The operations a process may run; the cycles run with a deployed
configuration. -/
inductive HostOperation (digests : Digests) (deployed : Settings → Prop) :
    Actor → Script Unit → Prop
  | cycle (worker : String) (settings : Settings) (configured : deployed settings) :
      HostOperation digests deployed (.worker worker) (runCycle worker settings)
  | recovery (worker : String) :
      HostOperation digests deployed (.worker worker) (releaseExpiredLeases (.worker worker))
  | upkeep (worker : String) :
      HostOperation digests deployed (.worker worker) (maintenance (.worker worker))
  | cancel (number : Nat) (subscriptionId email : String) :
      HostOperation digests deployed (.request number)
        (cancelSubscription (.request number) subscriptionId email)
  | preference (number : Nat) (email : String) (action : PauseAction) (dates : List Int) :
      HostOperation digests deployed (.request number)
        (updateNotificationPauses (.request number) email action dates)
  | switch (number : Nat) (enabled : Bool) (commitId : String) :
      HostOperation digests deployed (.request number)
        (setDeliveryEnabled (.request number) enabled commitId)
  | subscribe (number : Nat) (email : String) (input : SubscriptionInput)
      (dedupeKey : String) (limits : SubscriptionLimits) :
      HostOperation digests deployed (.request number)
        (createSubscription (.request number) email input dedupeKey limits)
  | redeem (number : Nat) (email : String) :
      HostOperation digests deployed (.request number) (redeemPriority (.request number) email)
  | verify (number : Nat) (email code : String) :
      HostOperation digests deployed (.request number)
        (queueVerification (.request number) email code)
  | enqueue (number : Nat) (input : EnqueueInput) :
      HostOperation digests deployed (.request number) (enqueue (.request number) digests input)
  | consume (worker : String) (rounds : Nat) :
      HostOperation digests deployed (.wechat worker) (consumer digests worker rounds)
  | ingest (number : Nat) (observation : Observation) :
      HostOperation digests deployed (.request number)
        (ingestObservation (.request number) digests observation)

/-- The host with all its processes. -/
def hostSystem (digests : Digests) (deployed : Settings → Prop) :
    System Host Input Label Actor where
  operation := HostOperation digests deployed
  crash := Host.crash
  environment := timePasses

end TennisAlerts.HostCore
