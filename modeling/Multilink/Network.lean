import Multilink.Station
/-!
# Networks

Stations and bare endpoints on one bus. Nothing happens by itself: frames wait until a station is
told to pump, and messages until it is told to drain.
-/

namespace Multilink

/-- Stations and bare endpoints on one bus. -/
structure Network where
  bus : Bus := {}
  /-- The stations, by their numbers. -/
  stations : List Station := []
  /-- The bare endpoints, by their numbers. -/
  probes : List EndpointId := []

namespace Network

/-- Builds the stations in turn. -/
def addStations : List StationPlan → Network → Except BuildFailure Network
  | [], n => .ok n
  | plan :: rest, n => do
    let (station, bus) ← Station.build plan n.bus
    addStations rest { n with bus, stations := n.stations ++ [station] }

/-- Attaches bare endpoints in turn. -/
def addProbes : List (Address × Media) → Network → Network
  | [], n => n
  | (address, m) :: rest, n =>
    let (i, bus) := n.bus.attach address m
    addProbes rest { n with bus, probes := n.probes ++ [i] }

/-- Builds the stations of a network and then its bare endpoints. -/
def build (plans : List StationPlan) (probes : List (Address × Media)) :
    Except BuildFailure Network :=
  (addStations plans {}).map (addProbes probes)

instance : HasStations Network where
  bus := Network.bus
  setBus bus n := { n with bus }
  station? i n := n.stations[i]?
  setStation i station n := { n with stations := n.stations.set i station }
  probe? i n := n.probes[i]?

/-- Lets some stations pump in turn. -/
def pumpAll (order : List Nat) (n : Network) : Network :=
  order.foldl (fun n i => ((HasStations.onStation i Site.pump).run n).2) n

end Network

end Multilink
