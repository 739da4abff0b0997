import PathRouter.Route.Basic
import PathRouter.Table.Options

/-!
# Buckets

Routes are kept in buckets by key, in the order in which they are tried. The keys ascend, so that
the buckets depend on what is in them and not on the order in which they were made.
-/

namespace PathRouter

/-- Routes by key, with ascending keys. -/
abbrev Buckets := List (String × List Route)

namespace Buckets

/-- The buckets with one more route under a key. -/
def insert (priority : Priority) (key : String) (r : Route) : Buckets → Buckets
  | [] => [(key, [r])]
  | (k, rs) :: bs =>
    if k = key then (k, priority.insert r rs) :: bs
    else if key < k then (key, [r]) :: (k, rs) :: bs
    else (k, rs) :: insert priority key r bs

/-- All routes, bucket after bucket. -/
def routes (bs : Buckets) : List Route := bs.flatMap (·.2)

end Buckets

end PathRouter
