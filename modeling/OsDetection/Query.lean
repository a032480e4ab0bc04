import OsDetection.Observation
import OsDetection.Response

/-!
# Queries

A query is what a scan reports about one system: its observations in the order of the report, and
the same by probe.
-/

namespace OsDetection

/-- What a scan reports about one system. -/
structure Query where
  observations : List Observation
  responses : ProbeMap (Response String)
  deriving DecidableEq

namespace Query

/-- The query that reports nothing. -/
def empty : Query := ⟨[], ∅⟩

/-- The response to a probe, if the query mentions it. -/
def response? (q : Query) (probe : Probe) : Option (Response String) := q.responses[probe]?

/-- The probes that a query mentions, in canonical order. -/
def probes (q : Query) : List Probe := q.responses.keys

end Query

end OsDetection
