import Guidebook.Fault

namespace Guidebook

/-- What there is to say of the commands on the stash when one is misspelt. -/
inductive StashUsage where
  | paste
  | place
  | all
  deriving DecidableEq, Repr

def StashUsage.text : StashUsage → Text
  | .paste => ":snippet paste <file> [append|overwrite]".toList
  | .place => ":snippet open <file>".toList
  | .all => ":snippet show|edit|clear|paste <file> [append|overwrite]|open <file>".toList

/-- What can be wrong with a command that somebody typed. -/
inductive Mistake where
  | noSuggestion (number max : Nat)
  | noStep (number max : Nat)
  | notNumber (value : Text)
  | missingNumber (verb : Text)
  | stashUsage (u : StashUsage)
  | emptyStash
  | noMarkers
  deriving DecidableEq, Repr

namespace Mistake

def validRange (max : Nat) : Text :=
  if max = 0 then "none".toList
  else if max = 1 then "1".toList
  else "1-".toList ++ Text.ofNat max

def noSuch (noun : String) (number max : Nat) (place : String) : Text :=
  "No ".toList ++ noun.toList ++ ' ' :: Text.ofNat number ++ place.toList ++ " (valid: ".toList ++
    validRange max ++ ")".toList

def message : Mistake → Text
  | noSuggestion n max => noSuch "suggestion" n max " on this step"
  | noStep n max => noSuch "step" n max ""
  | notNumber v => '\'' :: v ++ "' is not a number".toList
  | missingNumber verb => "Usage: ".toList ++ verb ++ " <number>".toList
  | stashUsage u => "Usage: ".toList ++ u.text
  | emptyStash => "The snippet stash is empty".toList
  | noMarkers => "Snippet markers were removed, the stash was left unchanged".toList

end Mistake

/-- Why something that somebody asked for was not done. -/
inductive Trouble where
  | mistake (m : Mistake)
  | fault (f : Fault)
  deriving DecidableEq, Repr

end Guidebook
