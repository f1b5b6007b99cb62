import Courier.Text.Percent
import Courier.Text.Split

/-!
# Paths of URLs

The path of a URL is a list of segments, with a slash before each, or a text without a root.  A
segment `.` stands for the place where it is, and `..` for the place above it;
`UrlPath.ofSegments` walks along them, so that none of both is left (`isPlain_of_mem_walk`).  A dot
may be percent-coded.
-/

namespace Courier

/-- A part of a path between slashes. -/
abbrev Segment := List Char

namespace Segment

/-- The dots that a segment consists of, if it is one or two dots, each plain or coded. -/
def dots? : Segment → Option Nat
  | ['.'] | ['%', '2', 'e'] | ['%', '2', 'E'] => some 1
  | '.' :: rest | '%' :: '2' :: 'e' :: rest | '%' :: '2' :: 'E' :: rest =>
    match rest with
    | ['.'] | ['%', '2', 'e'] | ['%', '2', 'E'] => some 2
    | _ => none
  | _ => none

/-- Does the segment name a drive?  One never goes above a drive. -/
def isDrive : Segment → Bool
  | [letter, mark] => letter.isAlpha && (mark == ':' || mark == '|')
  | _ => false

/-- The segments above the last one. -/
def above (segments : List Segment) : List Segment :=
  if segments.getLast?.any isDrive then segments else segments.dropLast

/-- Walks from a place along segments; the last one is not entered but named. -/
def walk (place : List Segment) : List Segment → List Segment
  | [] => place
  | [last] =>
    match last.dots? with
    | some 1 => place ++ [[]]
    | some _ => above place ++ [[]]
    | none => place ++ [last]
  | next :: rest =>
    match next.dots? with
    | some 1 => walk place rest
    | some _ => walk (above place) rest
    | none => walk (place ++ [next]) rest

theorem mem_of_mem_above {segments : List Segment} {s : Segment} (h : s ∈ above segments) :
    s ∈ segments := by
  unfold above at h
  split at h
  · exact h
  · exact List.dropLast_subset _ h

/-- No segment is left that means another place than its own. -/
theorem isPlain_of_mem_walk {place segments : List Segment}
    (hp : ∀ s ∈ place, s.dots? = none) :
    ∀ s ∈ walk place segments, s.dots? = none := by
  fun_induction walk place segments with
  | case1 place => exact hp
  | case2 place last h =>
    simp only [List.mem_append, List.mem_singleton]
    rintro s (hs | rfl)
    · exact hp s hs
    · rfl
  | case3 place last n h hn =>
    simp only [List.mem_append, List.mem_singleton]
    rintro s (hs | rfl)
    · exact hp s (mem_of_mem_above hs)
    · rfl
  | case4 place last h =>
    simp only [List.mem_append, List.mem_singleton]
    rintro s (hs | rfl)
    · exact hp s hs
    · exact h
  | case5 place next rest hr h ih => exact ih hp
  | case6 place next rest hr n h hn ih => exact ih fun s hs => hp s (mem_of_mem_above hs)
  | case7 place next rest hr h ih =>
    refine ih ?_
    simp only [List.mem_append, List.mem_singleton]
    rintro s (hs | rfl)
    · exact hp s hs
    · exact h

end Segment

/-- The path of a URL. -/
inductive UrlPath where
  /-- A text that begins at no root. -/
  | rootless (cs : List Char)
  | segments (l : List Segment)
  deriving DecidableEq, Repr

namespace UrlPath

/-- The path that segments lead along, from the root. -/
def ofSegments (l : List Segment) : UrlPath := segments (Segment.walk [] l)

/-- The path as it is written. -/
def text : UrlPath → List Char
  | rootless cs => cs
  | segments l => l.flatMap ('/' :: ·)

end UrlPath

end Courier
