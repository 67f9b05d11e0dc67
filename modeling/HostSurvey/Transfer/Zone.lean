/-!
# Zones

1. The zone of a host is what its name has behind the first label. A name without a label, or without
   anything behind it, is in no zone.
2. The trace of a zone goes to a file named for it; what would lead out of the folder is replaced.
-/
namespace HostSurvey.Transfer

/-- The zone that a host belongs to (`zone_of`). -/
def zoneOf (name : String) : Option String :=
  let label := name.toList.takeWhile (· ≠ '.')
  match label, name.toList.drop label.length with
  | _ :: _, '.' :: c :: rest => some (String.ofList (c :: rest))
  | _, _ => none

/-- Whether a character may not stand in the name of a file. -/
def isSeparator (c : Char) : Bool :=
  c = '/' || c = '\\' || c = '\x00'

/-- The name of the file that a zone is traced in (`file_name`). -/
def traceName (zone : String) : String :=
  let name := String.ofList (zone.toList.map fun c => if isSeparator c then '_' else c)
  if name = "" ∨ name = "." ∨ name = ".." then "_" ++ name else name

end HostSurvey.Transfer
