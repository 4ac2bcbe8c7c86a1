-- Keys of the form `actor_property`.

namespace Diorama

-- The address of a property: which actor, and what of it.
structure PropertyKey where
  actor : String
  property : String
deriving DecidableEq, Inhabited

namespace PropertyKey

def separator : Char := '_'

def splitFirst : List Char → Option (List Char × List Char)
  | [] => none
  | c :: rest =>
    if c = separator then some ([], rest)
    else (splitFirst rest).map fun (before, behind) => (c :: before, behind)

-- Both parts have to be there. An actor whose id holds the separator cannot be named this way.
def parse? (text : String) : Option PropertyKey :=
  match splitFirst text.toList with
  | some (actor, property) =>
    if actor.isEmpty || property.isEmpty then none
    else some ⟨String.ofList actor, String.ofList property⟩
  | none => none

def text (k : PropertyKey) : String := k.actor ++ String.singleton separator ++ k.property

end PropertyKey

end Diorama
