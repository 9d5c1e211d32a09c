import DeviceSecurity.Json.Basic

/-!
# Merging

`merge` lays one value over another: where both are objects it goes on member by member, and
everywhere else the upper value replaces the lower. Arrays are replaced whole.
-/

namespace DeviceSecurity.Json

mutual

/-- The value `base` with `patch` laid over it. -/
def merge (base patch : Json) : Json :=
  match base, patch with
  | object members, object changes => object (mergeMembers members changes)
  | _, value => value
termination_by structural patch

/-- The members with changes laid over them one by one. -/
def mergeMembers (members changes : List (String × Json)) : List (String × Json) :=
  match changes with
  | [] => members
  | (key, value) :: rest =>
    let merged := match Members.get? members key with
      | some existing => if existing.isObject && value.isObject then merge existing value else value
      | none => value
    mergeMembers (Members.insert key merged members) rest
termination_by structural changes

end

end DeviceSecurity.Json
