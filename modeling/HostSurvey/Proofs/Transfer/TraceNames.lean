import HostSurvey.Proofs.Transfer.Traces
/-!
# The names of traces

A zone is named by whoever answers for it, so its name can hold anything. The file of its trace is named for it all
the same.

1. A name that is no part of a path but itself (`IsFileName`) leads from any directory into this directory and no
   further (`way_joined`).
2. What a trace is named is such a name (`isFileName_traceName`): replacing separators can leave a name that means a
   directory, but a mark in front of it makes neither a separator nor another such name. A zone that has such a name
   keeps it (`traceName_eq_self`), so that naming twice is naming once.
3. No other files come into the folder of traces, whatever is asked in whatever order (`files_asked`).
-/
namespace HostSurvey

open Settings Transfer

namespace Transfer

/-! ## Paths -/

/-- A name of something in a directory: it holds no separator, and it does not stand for the directory or the one
above. -/
structure IsFileName (name : String) : Prop where
  full : name ≠ ""
  plain : ∀ c ∈ name.toList, c ≠ '/' ∧ c ≠ '\\' ∧ c ≠ '\x00'
  here : name ≠ "."
  above : name ≠ ".."

/-- A place in the tree of directories: the names on the way to it from the root, the last one first. -/
abbrev Place := List String

/-- Where one part of a path leads from a place. There is nothing above the root. -/
def Place.follow (place : Place) (part : List Char) : Place :=
  if part = [] ∨ part = ['.'] then place
  else if part = ['.', '.'] then place.tail
  else String.ofList part :: place

/-- Where a path leads from a place, or from the root if it begins there. Links are not looked at. -/
def way (here : Place) (path : List Char) : Place :=
  (path.splitOn '/').foldl Place.follow (if path.head? = some '/' then [] else here)

/-- A path behind a directory. One that begins at the root stays as it is. -/
def joined (directory path : String) : String :=
  if path.toList.head? = some '/' then path else inDirectory directory path

section Ways
variable {name : String} {front : List Char}

theorem follow_name (named : IsFileName name) (place : Place) : place.follow name.toList = name :: place := by
  have full : name.toList ≠ [] := by simpa using named.full
  have here : name.toList ≠ ['.'] := fun same => named.here (String.toList_injective same)
  have above : name.toList ≠ ['.', '.'] := fun same => named.above (String.toList_injective same)
  rw [Place.follow, if_neg (by simp [full, here]), if_neg above, String.ofList_toList]

theorem splitOn_name (named : IsFileName name) : name.toList.splitOn '/' = [name.toList] :=
  List.splitOn_eq_singleton fun slash => (named.plain _ slash).1 rfl

theorem splitOn_behind (front back : List Char) :
    (front ++ '/' :: back).splitOn '/' = front.splitOn '/' ++ back.splitOn '/' := by
  simp only [List.splitOn_eq_splitOnP]
  exact List.splitOnP_append_cons _ _ (by decide)

/-- What stands behind the last separator is the last step of the way. -/
theorem way_behind (named : IsFileName name) (here : Place) :
    way here (front ++ '/' :: name.toList) = name :: way here (front ++ ['/']) := by
  have begins : (front ++ '/' :: name.toList).head? = (front ++ ['/']).head? := by
    cases front <;> rfl
  simp only [way, begins, splitOn_behind, splitOn_name named, List.foldl_append, List.foldl_cons, List.foldl_nil,
    follow_name named]
  simp [Place.follow]

/-- A separator at the end leads nowhere else. -/
theorem way_slash (full : front ≠ []) (here : Place) : way here (front ++ ['/']) = way here front := by
  rw [way, way, splitOn_behind, List.head?_append_of_ne_nil _ full, List.foldl_append]
  simp [Place.follow]

/-- A name behind a directory leads to something in this directory. -/
theorem way_joined (named : IsFileName name) (here : Place) (directory : String) :
    way here (joined directory name).toList = name :: way here directory.toList := by
  have relative : name.toList.head? ≠ some '/' := fun first =>
    (named.plain _ (List.mem_of_head? first)).1 rfl
  rw [joined, if_neg relative, inDirectory]
  by_cases nothing : directory = ""
  · subst nothing
    have nowhere : way here "".toList = here := by simp [way, Place.follow]
    rw [if_pos (by simp), String.empty_append, nowhere, way, if_neg relative, splitOn_name named, List.foldl_cons,
      List.foldl_nil, follow_name named]
  · have full : directory.toList ≠ [] := by simpa using nothing
    by_cases slash : directory.endsWith "/"
    · have ends : ['/'] <:+ directory.toList := by
        rw [← String.endsWith_toSlice, String.Slice.endsWith_string_iff] at slash
        simpa using slash
      obtain ⟨front, split⟩ := ends
      rw [if_pos (by simp [slash]), String.toList_append, ← split, List.append_assoc, List.singleton_append,
        way_behind named]
    · rw [if_neg (by simp [nothing, slash]), String.toList_append, String.toList_append, List.append_assoc]
      exact (way_behind named here).trans (congrArg (name :: ·) (way_slash full here))

end Ways

/-! ## Names -/

/-- The name of a zone without its separators. -/
def replaced (zone : String) : String :=
  String.ofList (zone.toList.map fun c => if isSeparator c then '_' else c)

theorem traceName_eq (zone : String) : traceName zone =
    if replaced zone = "" ∨ replaced zone = "." ∨ replaced zone = ".." then "_" ++ replaced zone else replaced zone :=
  rfl

theorem isSeparator_eq_false {c : Char} : isSeparator c = false ↔ c ≠ '/' ∧ c ≠ '\\' ∧ c ≠ '\x00' := by
  simp [isSeparator, and_assoc]

theorem replaced_plain {zone : String} {c : Char} (there : c ∈ (replaced zone).toList) : isSeparator c = false := by
  rw [replaced, String.toList_ofList, List.mem_map] at there
  obtain ⟨d, _, rfl⟩ := there
  split
  · rfl
  · rename_i other
    exact eq_false_of_ne_true other

theorem replaced_eq_self {zone : String} (plain : ∀ c ∈ zone.toList, isSeparator c = false) : replaced zone = zone := by
  have same : (zone.toList.map fun c => if isSeparator c then '_' else c) = zone.toList := by
    refine (List.map_congr_left fun c there => ?_).trans (List.map_id _)
    rw [plain c there]
    rfl
  rw [replaced, same, String.ofList_toList]

/-- A mark in front makes a file name of anything that holds no separator. -/
theorem isFileName_marked {name : String} (plain : ∀ c ∈ name.toList, isSeparator c = false) :
    IsFileName ("_" ++ name) := by
  have begins : ("_" ++ name).toList = '_' :: name.toList := String.toList_append
  have other : ∀ text : String, text.toList.head? ≠ some '_' → "_" ++ name ≠ text := by
    rintro _ unmarked rfl
    rw [begins] at unmarked
    exact unmarked rfl
  constructor
  case full => exact other "" (by decide)
  case plain =>
    intro c there
    rw [begins] at there
    rcases List.mem_cons.mp there with rfl | behind
    · decide
    · exact isSeparator_eq_false.mp (plain c behind)
  case here => exact other "." (by decide)
  case above => exact other ".." (by decide)

theorem isFileName_traceName (zone : String) : IsFileName (traceName zone) := by
  rw [traceName_eq]
  split_ifs with special
  · exact isFileName_marked fun _ there => replaced_plain there
  · obtain ⟨full, here, above⟩ : replaced zone ≠ "" ∧ replaced zone ≠ "." ∧ replaced zone ≠ ".." := by
      simpa only [not_or] using special
    exact ⟨full, fun _ there => isSeparator_eq_false.mp (replaced_plain there), here, above⟩

theorem traceName_eq_self {zone : String} : traceName zone = zone ↔ IsFileName zone := by
  refine ⟨fun same => same ▸ isFileName_traceName zone, fun named => ?_⟩
  have same := replaced_eq_self fun c there => isSeparator_eq_false.mpr (named.plain c there)
  rw [traceName_eq, same, if_neg (by simp [named.full, named.here, named.above])]

end Transfer

/-! ## The folder -/

namespace TraceFolder

/-- The names of the files in a folder. -/
def names : TraceFolder → List String
  | .files entries => entries.map (·.1)
  | _ => []

variable {folder : TraceFolder} {name : String}

theorem names_update {file : String} {change : Option (List String) → Option (List String)}
    (there : name ∈ (folder.update file change).names) : name ∈ folder.names ∨ name = file := by
  cases folder with
  | off | blocked => cases there
  | files entries =>
    simp only [update, names, List.map_append, List.mem_append, List.mem_map] at there ⊢
    rcases there with ⟨entry, kept, rfl⟩ | ⟨entry, changed, rfl⟩
    · exact .inl ⟨entry, (List.mem_filter.mp kept).1, rfl⟩
    · refine .inr ?_
      cases lines : change (entries.lookup file) with
      | none => simp [lines] at changed
      | some _ =>
        rw [lines] at changed
        simpa using congrArg Prod.fst (List.mem_singleton.mp changed)

theorem names_serve {r : Request} (there : name ∈ (folder.serve r).names) :
    name ∈ folder.names ∨ ∃ zone, name = traceName zone := by
  cases r with
  | traceBegin zone =>
    cases folder with
    | off | blocked => cases there
    | files entries =>
      simp only [serve, create] at there
      split at there
      · change name ∈ ((TraceFolder.files entries).update (traceName zone) fun _ => some []).names at there
        exact (names_update there).imp_right fun same => ⟨zone, same⟩
      · exact .inl there
  | traceLine zone line => exact (names_update there).imp_right fun same => ⟨zone, same⟩
  | traceRemove zone =>
    change name ∈ (folder.update (traceName zone) fun _ => none).names at there
    exact (names_update there).imp_right fun same => ⟨zone, same⟩
  | _ => exact .inl there

end TraceFolder

/-- The world after requests, whoever makes them. -/
def World.afterAll (w : World) (asked : List Request) : World :=
  asked.foldl (fun w r => (w.answer r).2) w

/-- Files that come into the folder of traces are named for zones. -/
theorem files_asked (w : World) (asked : List Request) {name : String}
    (there : name ∈ (w.afterAll asked).traces.names) :
    name ∈ w.traces.names ∨ ∃ zone, name = traceName zone := by
  induction asked generalizing w with
  | nil => exact .inl there
  | cons r rest ih =>
    rcases ih (World.answer r w).2 there with before | named
    · rw [answer_folder] at before
      exact TraceFolder.names_serve before
    · exact .inr named

/-! ## The main theorem -/

namespace Transfer

/-- What is true of the names of all traces. -/
structure StayInFolder : Prop where
  /-- Whatever a zone is named, its trace has the name of a file. -/
  named : ∀ zone, IsFileName (traceName zone)
  /-- So behind any directory, and wherever that leads from, it leads to something in this directory. -/
  child : ∀ here directory zone,
    way here (joined directory (traceName zone)).toList = traceName zone :: way here directory.toList
  /-- A zone keeps its name if and only if that is the name of a file. -/
  kept : ∀ zone, traceName zone = zone ↔ IsFileName zone
  again : ∀ zone, traceName (traceName zone) = traceName zone
  /-- Whatever is asked of the world, no other files come into the folder of traces. -/
  files : ∀ (w : World) asked, ∀ name ∈ (w.afterAll asked).traces.names, name ∈ w.traces.names ∨ IsFileName name

/-- **Traces stay in their folder.** A zone can be named anything, but its trace is a file in the folder, and no part
of the name leads elsewhere. Naming changes nothing else. -/
theorem traces_stay_in_their_folder : StayInFolder := by
  constructor
  case named => exact isFileName_traceName
  case child => exact fun here directory zone => way_joined (isFileName_traceName zone) here directory
  case kept => exact fun _ => traceName_eq_self
  case again => exact fun zone => traceName_eq_self.mpr (isFileName_traceName zone)
  case files =>
    intro w asked name there
    refine (files_asked w asked there).imp_right ?_
    rintro ⟨zone, rfl⟩
    exact isFileName_traceName zone

/-- A zone that would lead above the folder, and one that would lead to the root and back. -/
example : traceName ".." = "_.." ∧ traceName "/../etc" = "_.._etc" := by
  decide +kernel

end Transfer
end HostSurvey
