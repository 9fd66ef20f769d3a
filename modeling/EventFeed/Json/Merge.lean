import EventFeed.Json.Basic

/-!
# Merging

A source laid over a target. Objects are merged member by member, a `null` of the source leaves the
target's member as it is, and every other value of the source takes the place of the target's.
-/

namespace EventFeed.Json

mutual

def merge (target : Json) : Json → Json
  | .obj source =>
    match target with
    | .obj ms => .obj (mergeMembers ms source)
    | _ => .obj source
  | source => source

def mergeMembers (target : Members) : List (String × Json) → Members
  | [] => target
  | (k, v) :: source =>
    match v with
    | .null => mergeMembers target source
    | v =>
      let merged :=
        match target.get? k with
        | some t => merge t v
        | none => v
      mergeMembers (target.insert k merged) source

end

end EventFeed.Json
