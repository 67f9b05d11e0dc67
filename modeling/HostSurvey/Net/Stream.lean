import HostSurvey.Text.Utf8
/-!
# Streams

What a peer sends on a connection: pieces, and then it closes its side or stays silent. A read finds at
most one piece, so a reader that takes what one read brings sees where the pieces end; a reader that
collects a number of bytes does not.

1. `read` never brings an empty piece.
2. `collect` depends on the bytes alone: it brings the first ones if there are enough, and else what
   comes at the end.
-/
namespace HostSurvey.Net

/-- What a peer does after the last piece. -/
inductive Ending where
  /-- It closes its side. -/
  | closes
  /-- It stays silent and keeps the connection. -/
  | hangs
  deriving Repr, DecidableEq, Inhabited

/-- What a peer sends. -/
structure Stream where
  /-- The pieces, the first one next. -/
  pieces : List Bytes
  /-- What comes after them. -/
  ending : Ending
  deriving Repr, DecidableEq, Inhabited

/-- What a read brings. -/
inductive Arrival where
  | bytes (bytes : Bytes) (rest : Stream)
  /-- The peer has closed its side. -/
  | closed
  /-- Nothing comes for ever. -/
  | silence
  deriving Repr, DecidableEq

namespace Stream

/-- All bytes that come. -/
def all (s : Stream) : Bytes :=
  s.pieces.flatten

/-- What comes when there is no piece left. -/
def atEnd : Ending → Arrival
  | .closes => .closed
  | .hangs => .silence

/-- One read with room for `room` bytes. -/
def readPieces (room : Nat) (ending : Ending) : List Bytes → Arrival
  | [] => atEnd ending
  | [] :: rest => readPieces room ending rest
  | piece :: rest =>
    let left := piece.drop room
    .bytes (piece.take room) ⟨if left.isEmpty then rest else left :: rest, ending⟩

/-- One read with room for `room` bytes. -/
def read (room : Nat) (s : Stream) : Arrival :=
  readPieces room s.ending s.pieces

/-- Takes `count` bytes from pieces, if there are so many. -/
def takePieces (count : Nat) : List Bytes → Option (Bytes × List Bytes)
  | [] => if count = 0 then some ([], []) else none
  | piece :: rest =>
    if count ≤ piece.length then some (piece.take count, piece.drop count :: rest)
    else (takePieces (count - piece.length) rest).map fun (bytes, rest) => (piece ++ bytes, rest)

theorem takePieces_eq {count : Nat} {pieces : List Bytes} {bytes : Bytes} {rest : List Bytes}
    (h : takePieces count pieces = some (bytes, rest)) :
    bytes.length = count ∧ bytes ++ rest.flatten = pieces.flatten := by
  induction pieces generalizing count bytes rest with
  | nil =>
    unfold takePieces at h
    split at h
    · injection h with h; injection h with h₁ h₂; subst h₁ h₂; simp_all
    · contradiction
  | cons piece others ih =>
    unfold takePieces at h
    split at h
    · rename_i le
      injection h with h; injection h with h₁ h₂; subst h₁ h₂
      simp [Nat.min_eq_left le, ← List.append_assoc]
    · rename_i gt
      cases found : takePieces (count - piece.length) others with
      | none => simp [found] at h
      | some pair =>
        obtain ⟨more, left⟩ := pair
        simp only [found, Option.map_some, Option.some.injEq, Prod.mk.injEq] at h
        obtain ⟨h₁, h₂⟩ := h
        subst h₁ h₂
        obtain ⟨len, flat⟩ := ih found
        simp only [List.length_append, List.append_assoc, List.flatten_cons, flat, and_true]
        omega

theorem takePieces_eq_none_iff {count : Nat} {pieces : List Bytes} :
    takePieces count pieces = none ↔ pieces.flatten.length < count := by
  induction pieces generalizing count with
  | nil => simp [takePieces, Nat.pos_iff_ne_zero]
  | cons piece others ih =>
    unfold takePieces
    split
    · simp only [reduceCtorEq, List.flatten_cons, List.length_append, false_iff]
      omega
    · simp only [Option.map_eq_none_iff, ih, List.flatten_cons, List.length_append]
      omega

/-- Collects `count` bytes, with as many reads as that takes. -/
def collect (count : Nat) (s : Stream) : Arrival :=
  match takePieces count s.pieces with
  | some (bytes, rest) => .bytes bytes ⟨rest, s.ending⟩
  | none => atEnd s.ending

theorem collect_of_le {count : Nat} {s : Stream} (h : count ≤ s.all.length) :
    ∃ pieces, s.collect count = .bytes (s.all.take count) ⟨pieces, s.ending⟩ ∧
      pieces.flatten = s.all.drop count := by
  cases found : takePieces count s.pieces with
  | none => exact absurd (takePieces_eq_none_iff.mp found) (Nat.not_lt.mpr h)
  | some pair =>
    obtain ⟨bytes, pieces⟩ := pair
    obtain ⟨size, flat⟩ := takePieces_eq found
    subst size
    exact ⟨pieces, by simp [collect, found, all, ← flat], by simp [all, ← flat]⟩

theorem collect_of_lt {count : Nat} {s : Stream} (h : s.all.length < count) :
    s.collect count = atEnd s.ending := by
  simp [collect, takePieces_eq_none_iff.mpr h]

theorem collect_eq {count : Nat} {s rest : Stream} {bytes : Bytes}
    (h : s.collect count = .bytes bytes rest) :
    bytes.length = count ∧ bytes ++ rest.all = s.all := by
  unfold collect at h
  split at h
  · rename_i found
    injection h with h₁ h₂
    subst h₁ h₂
    exact takePieces_eq found
  · cases ending : s.ending <;> simp [atEnd, ending] at h

end Stream
end HostSurvey.Net
