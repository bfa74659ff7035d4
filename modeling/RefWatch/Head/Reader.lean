import RefWatch.Head

namespace RefWatch

open RefWatch.Field

namespace Head

def branchOf (ms : Json.Members) : Checked Head := branch <$> required ms "name" filledText

def tagOf (ms : Json.Members) : Checked Head :=
  tag <$> required ms "name" filledText <*> required ms "timestamp" timestamp <*>
    withDefault ms "approximate" true boolean

def ofJson (j : Json) : Checked Head :=
  let asTag := model "TagHead" tagOf j
  let asBranch := model "BranchHead" branchOf j
  match asTag, asBranch with
  | .ok h, _ => .ok h
  | _, .ok h => .ok h
  | .wrong p, .wrong q =>
    .wrong ((q.under (.member "BranchHead")).join (p.under (.member "TagHead")))

end Head

namespace Revision

def unresolvedOf (ms : Json.Members) : Checked Revision :=
  unresolved <$> required ms "head" Head.ofJson

def pinnedOf (ms : Json.Members) : Checked Revision :=
  pinned <$> required ms "head" Head.ofJson <*> required ms "sha" text

end Revision

end RefWatch
