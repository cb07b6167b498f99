import StackScript.Proofs.LineEnding
import StackScript.Proofs.Trimming

/-! Scanning undoes joining: lines that are put together with either line end come apart again, and
texts that are put together come apart into the lines of both. -/
namespace StackScript

/-- What ends a line. -/
inductive LineEnd where
  | feed
  | returnFeed
deriving DecidableEq

def LineEnd.text : LineEnd → String
  | .feed => "\n"
  | .returnFeed => "\r\n"

namespace Line

/-- One line after the other, and between each two of them the line end given with the second. -/
def joined (first : String) : List (LineEnd × String) → String
  | [] => first
  | (lineEnd, next) :: rest => first ++ lineEnd.text ++ joined next rest

/-- What a line can hold: no line feed, and no carriage return that would belong to the line end. -/
structure IsContent (s : String) : Prop where
  noFeed : '\n' ∉ s.toList
  noReturn : s.toList.getLast? ≠ some '\r'

theorem withoutReturn_of_ne {cs : List Char} (h : cs.getLast? ≠ some '\r') :
    withoutReturn cs = cs :=
  if_neg h

theorem withoutReturn_concat (cs : List Char) : withoutReturn (cs ++ ['\r']) = cs := by
  rw [withoutReturn, if_pos List.getLast?_concat, List.dropLast_concat]

theorem pieces_of_isContent {s : String} (h : IsContent s) : pieces s.toList = [s.toList] := by
  rw [pieces, List.splitOn_eq_singleton h.noFeed, List.map_singleton,
    withoutReturn_of_ne h.noReturn]

-- Either line end cuts the content off whole.
theorem pieces_append_lineEnd {s : String} (h : IsContent s) (lineEnd : LineEnd) (more : String) :
    pieces (s ++ lineEnd.text ++ more).toList = s.toList :: pieces more.toList := by
  cases lineEnd with
  | feed =>
    have htext : (s ++ "\n" ++ more).toList = s.toList ++ '\n' :: more.toList := by simp
    rw [LineEnd.text, htext, pieces, List.splitOn_append_cons_self_of_not_mem h.noFeed,
      List.map_cons, withoutReturn_of_ne h.noReturn, pieces]
  | returnFeed =>
    have htext : (s ++ "\r\n" ++ more).toList = (s.toList ++ ['\r']) ++ '\n' :: more.toList := by
      simp
    have hfeed : '\n' ∉ s.toList ++ ['\r'] := by
      rw [List.mem_append, not_or]
      exact ⟨h.noFeed, by decide⟩
    rw [LineEnd.text, htext, pieces, List.splitOn_append_cons_self_of_not_mem hfeed,
      List.map_cons, withoutReturn_concat, pieces]

theorem pieces_joined {first : String} {rest : List (LineEnd × String)}
    (h : ∀ s ∈ first :: rest.map Prod.snd, IsContent s) :
    pieces (joined first rest).toList = (first :: rest.map Prod.snd).map String.toList := by
  induction rest generalizing first with
  | nil => exact pieces_of_isContent (h first List.mem_cons_self)
  | cons next rest ih =>
    rw [joined, pieces_append_lineEnd (h first List.mem_cons_self),
      ih (fun s hs => h s (List.mem_cons_of_mem first hs))]
    rfl

theorem scan_joined {first : String} {rest : List (LineEnd × String)}
    (h : ∀ s ∈ first :: rest.map Prod.snd, IsContent s) :
    scan (joined first rest) = (first :: rest.map Prod.snd).mapIdx Line.mk := by
  rw [scan_eq_mapIdx_pieces, pieces_joined h]
  apply List.ext_getElem?
  intro i
  rw [List.getElem?_mapIdx, List.getElem?_mapIdx, List.getElem?_map, Option.map_map]
  simp only [Function.comp_def, String.ofList_toList]

theorem length_splitOn (sep : Char) (cs : List Char) :
    (cs.splitOn sep).length = cs.count sep + 1 := by
  induction cs with
  | nil => rfl
  | cons c cs ih =>
    rw [List.splitOn_cons_eq_if_modifyHead, List.count_cons]
    by_cases hc : c = sep
    · simp [hc, ih]
    · simp [hc, ih]

theorem length_scan (text : String) : (scan text).length = text.toList.count '\n' + 1 := by
  rw [scan, List.length_mapIdx, length_splitOn]

-- What the lines hold and where they stand is all that scanning keeps, and it keeps all of it.
theorem scan_undoes_joined :
    (∀ (first : String) (rest : List (LineEnd × String)),
      (∀ s ∈ first :: rest.map Prod.snd, IsContent s) →
        scan (joined first rest) = (first :: rest.map Prod.snd).mapIdx Line.mk) ∧
    (∀ line : Line, Text.TrimsTo line.raw.toList line.trimmed.toList) ∧
    (∀ text more : String,
      scan (text ++ "\n" ++ more) = scan text ++ (scan more).map (shift (scan text).length)) ∧
    (∀ text : String, (scan text).length = text.toList.count '\n' + 1) :=
  ⟨fun _ _ => scan_joined, trimsTo_trimmed, scan_append, length_scan⟩

-- An empty line, a carriage return inside a line, and no end behind the last one.
theorem scan_undoes_joined_of_innerReturn :
    (∀ s ∈ ["a\rb", "", " c\t", ""], IsContent s) ∧
      scan "a\rb\r\n\n c\t\r\n" = [⟨0, "a\rb"⟩, ⟨1, ""⟩, ⟨2, " c\t"⟩, ⟨3, ""⟩] := by
  have hcontent : ∀ s ∈ ["a\rb", "", " c\t", ""], IsContent s := by
    intro s hs
    simp only [List.mem_cons, List.not_mem_nil, or_false] at hs
    rcases hs with rfl | rfl | rfl | rfl <;> exact ⟨by decide, by decide⟩
  exact ⟨hcontent, scan_undoes_joined.1 "a\rb"
    [(.returnFeed, ""), (.feed, " c\t"), (.returnFeed, "")] hcontent⟩

end Line

end StackScript
