/-!
# What to do about several failures

* `Policy`: stop at the first failure, or collect them all.
* `Policy.ofName?`: the policy of a name, in any mix of cases.
-/

namespace InputChain

/-- What to do when a list of inputs holds several that cannot be used. -/
inductive Policy where
  /-- Report the first. -/
  | failFast
  /-- Report all. -/
  | accumulate
  deriving DecidableEq, Repr

namespace Policy

/-- All failures are reported unless something else was asked for. -/
def standard : Policy := .accumulate

/-- The policy of a name. Letters of the ASCII range are read in either case, others as they are. -/
def ofName? (name : String) : Option Policy :=
  let name := name.toLower
  if name = "fast_fail" ∨ name = "fastfail" then some .failFast
  else if name = "accumulate" then some .accumulate
  else none

end Policy

end InputChain
