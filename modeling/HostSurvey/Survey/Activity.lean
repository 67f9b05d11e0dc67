import HostSurvey.Dns.Name
import HostSurvey.Net.Stream
import HostSurvey.Survey.Store
/-!
# Activities

What a worker does with an item is an activity: a tree of requests to what all workers share. A node asks
one thing and goes on as the answer tells. So several activities can be interleaved request by request,
and one can be run from its start to its end, and both are the same activity.

Each request is answered at one moment: nothing comes between the question and the answer.
-/
namespace HostSurvey

open Net

/-- What an activity may ask. -/
inductive Request where
  /-- Whether a name is screened out. -/
  | screenName (name : String)
  /-- Whether an address is screened out. -/
  | screenAddress (address : Address)
  /-- Whether the cache has a key. -/
  | cacheHas (key : String)
  /-- That the cache add a key. -/
  | cacheAdd (key : String)
  /-- For the names of the host at an address. -/
  | reverse (address : Address)
  /-- For the name servers of a zone. -/
  | nameservers (zone : String)
  /-- For the addresses of a name. -/
  | addresses (name : String)
  | hostExists (address : Address)
  | hostAdd (host : Host)
  /-- For the transfer of a zone. -/
  | zoneGet (zone : String)
  | zoneAdd (transfer : ZoneTransfer)
  /-- That storage note the end of a transfer. -/
  | zoneFinish (transfer : ZoneTransfer) (status : ZoneStatus)
  /-- For a zone, at a server, which may take its time to accept the connection. -/
  | zoneFrom (server : Endpoint) (limit : Elapsed) (zone : Dns.Name)
  /-- That a drawn host be passed on. -/
  | sendHost (host : Host)
  /-- That the zone of a name be asked for some time. -/
  | requestZone (name : String)
  /-- That the trace of a zone be begun. -/
  | traceBegin (zone : String)
  /-- That a line be added to the trace of a zone. -/
  | traceLine (zone line : String)
  /-- That the trace of a zone be removed. -/
  | traceRemove (zone : String)
  | now

/-- What answers a request. -/
abbrev Request.Answer : Request → Type
  | .screenName _ => Bool
  | .screenAddress _ => Bool
  | .cacheHas _ => Except Error Bool
  | .cacheAdd _ => Except Error Unit
  | .reverse _ => Except Error (List String)
  | .nameservers _ => Except Error (List String)
  | .addresses _ => Except Error (List Address)
  | .hostExists _ => Except Error Bool
  | .hostAdd _ => Except Error Host
  | .zoneGet _ => Except Error (Option ZoneTransfer)
  | .zoneAdd _ => Except Error ZoneTransfer
  | .zoneFinish _ _ => Except Error Unit
  | .zoneFrom _ _ _ => Except Error Stream
  | .sendHost _ => Unit
  | .requestZone _ => Bool
  | .traceBegin _ => Bool
  | .traceLine _ _ => Unit
  | .traceRemove _ => Unit
  | .now => Moment

/-- An activity that ends with a value. -/
inductive Activity (α : Type) where
  | done (value : α)
  /-- It asks something and goes on. -/
  | ask (request : Request) (next : request.Answer → Activity α)

namespace Activity

/-- One activity, then another that depends on how the first one ended. -/
def bind : Activity α → (α → Activity β) → Activity β
  | .done a, f => f a
  | .ask r next, f => .ask r fun answer => (next answer).bind f

instance : Monad Activity where
  pure := .done
  bind := bind

/-- The activity that asks one thing. -/
def request (r : Request) : Activity r.Answer :=
  .ask r .done

/-- A request together with its answer. -/
abbrev Exchange := (r : Request) × r.Answer

/-- Runs an activity to its end. `answer` answers requests from a state. The exchanges come back in
order. -/
def run (answer : (r : Request) → σ → r.Answer × σ) : Activity α → σ → List Exchange × α × σ
  | .done a, s => ([], a, s)
  | .ask r next, s =>
    let (given, s) := answer r s
    let (exchanges, a, s) := (next given).run answer s
    (⟨r, given⟩ :: exchanges, a, s)

end Activity
end HostSurvey
