import RefWatch.Source

namespace RefWatch

structure Registry where
  sources : List Source := []
  navigators : List Navigator := []

namespace Registry

def addSource (r : Registry) (s : Source) : Registry := { r with sources := r.sources ++ [s] }

def addNavigator (r : Registry) (n : Navigator) : Registry :=
  { r with navigators := r.navigators ++ [n] }

-- Removes the first source that equals one, if there is such a source.
def removeSource? (r : Registry) (s : Source) : Option Registry :=
  if r.sources.any (· == s) then some { r with sources := r.sources.eraseP (· == s) } else none

end Registry

end RefWatch
