import HostProbe.Text.Blank

/-! # Paths

An absolute path names a place by the directories on the way to it. Some directories have a second
name in the root; a way through that name leads to the place itself. -/

namespace HostProbe.Posix

open HostProbe.Text

abbrev Place := List (List Char)

def stepsOf (path : String) : List (List Char) := splitAt '/' path.toList

def enter (place : Place) (step : List Char) : Place :=
  if step = [] ∨ step = ['.'] then place
  else if step = ['.', '.'] then place.dropLast
  else place ++ [step]

def linked : List (List Char) := ["bin", "lib", "lib64", "sbin"].map String.toList

def follow (place : Place) (step : List Char) : Place :=
  if place = [] ∧ step ∈ linked then ["usr".toList, step] else enter place step

def isAbsolute (path : String) : Bool := path.toList.head? == some '/'

def placeOf (dir path : String) : Place :=
  if isAbsolute path then (stepsOf path).foldl follow []
  else (stepsOf path).foldl follow ((stepsOf dir).foldl follow [])

def pathOf (place : Place) : String :=
  if place = [] then "/" else String.ofList (place.flatMap ('/' :: ·))

def absolute (dir path : String) : String :=
  pathOf (if isAbsolute path then (stepsOf path).foldl enter []
    else (stepsOf path).foldl enter ((stepsOf dir).foldl enter []))

def physical (dir path : String) : String := pathOf (placeOf dir path)

def lastStep (path : String) : List Char :=
  match (stepsOf path).filter (· ≠ []) with
  | [] => if path.isEmpty then [] else ['/']
  | steps => steps.getLastD []

end HostProbe.Posix
