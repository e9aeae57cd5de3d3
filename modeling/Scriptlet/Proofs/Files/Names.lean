import Mathlib.Data.String.Basic
import Scriptlet.Files.Directory

/-!
# Names that are too long

A text is put into the normal form of a path before it is looked up, which never makes it longer.
A directory refuses a path as too long only because of the path as a whole or of one of its
components, and it closes no way. So it refuses no text that is short enough for a component, and it
refuses every longer text without a slash.
-/

namespace Scriptlet

/-! ## Normal forms -/

namespace Path

theorem intercalate_sublist
    {parts others : List (List Char)} (separator : List Char)
    (sublist : parts.Sublist others) :
    (separator.intercalate parts).Sublist (separator.intercalate others) := by
  induction sublist with
  | slnil => exact .slnil
  | @cons parts others dropped sublist inductionHypothesis =>
      cases others with
      | nil =>
          rw [List.sublist_nil.1 sublist]
          exact List.nil_sublist _
      | cons next others =>
          rw [List.intercalate_cons_cons]
          exact inductionHypothesis.trans (List.sublist_append_right _ _)
  | @cons_cons parts others kept sublist inductionHypothesis =>
      cases others with
      | nil =>
          rw [List.sublist_nil.1 sublist]
      | cons next others =>
          rw [List.intercalate_cons_cons]
          cases parts with
          | nil =>
              rw [List.intercalate_singleton, List.append_assoc]
              exact List.sublist_append_left _ _
          | cons first parts =>
              rw [List.intercalate_cons_cons]
              exact inductionHypothesis.append_left _

theorem intercalate_components (letters : List Char) :
    List.intercalate ['/'] (components letters) = letters :=
  List.intercalate_splitOn '/'

theorem intercalate_significant_sublist (letters : List Char) :
    (List.intercalate ['/'] (significant letters)).Sublist letters := by
  have kept : (significant letters).Sublist (components letters) := List.filter_sublist
  have joined := intercalate_sublist ['/'] kept
  rwa [intercalate_components] at joined

/-- A component is no longer than its path. -/
theorem sublist_of_mem_significant
    {letters component : List Char}
    (member : component ∈ significant letters) :
    component.Sublist letters := by
  have alone := intercalate_sublist ['/'] (List.singleton_sublist.2 (List.mem_of_mem_filter member))
  rwa [List.intercalate_singleton, intercalate_components] at alone

theorem significant_slash (letters : List Char) :
    significant ('/' :: letters) = significant letters := by
  simp [significant, components, List.splitOn_cons_eq_if_modifyHead]

theorem root_append_significant_sublist (letters : List Char) :
    (root letters ++ List.intercalate ['/'] (significant letters)).Sublist letters := by
  unfold root
  split
  · next rest =>
      rw [significant_slash, List.singleton_append]
      exact (intercalate_significant_sublist _).cons_cons '/'
  · next rest _ =>
      rw [significant_slash, significant_slash]
      exact ((intercalate_significant_sublist _).cons_cons '/').cons_cons '/'
  · next rest _ _ =>
      rw [significant_slash, List.singleton_append]
      exact (intercalate_significant_sublist _).cons_cons '/'
  · exact intercalate_significant_sublist letters

/-- The normal form of a path has no more bytes than the path. -/
theorem utf8ByteSize_normalize_le
    {path : String}
    (nonempty : path ≠ "") :
    (normalize path).utf8ByteSize ≤ path.utf8ByteSize := by
  have shorter := String.utf8Len_le_of_sublist (root_append_significant_sublist path.toList)
  rw [String.utf8Len_toList] at shorter
  unfold normalize
  dsimp only
  split
  · next =>
      have positive : path.utf8ByteSize ≠ 0 := by simpa using nonempty
      have dot : ".".utf8ByteSize = 1 := rfl
      omega
  · rw [String.utf8ByteSize_ofList]
    exact shorter

theorem root_of_no_slash
    {letters : List Char}
    (noSlash : '/' ∉ letters) :
    root letters = [] := by
  cases letters with
  | nil => rfl
  | cons c rest =>
      have notSlash : c ≠ '/' := by
        rintro rfl
        exact noSlash List.mem_cons_self
      unfold root
      split <;> first | rfl | simp_all

theorem significant_of_no_slash
    {letters : List Char}
    (noSlash : '/' ∉ letters)
    (nonempty : letters ≠ [])
    (notDot : letters ≠ ['.']) :
    significant letters = [letters] := by
  simp [significant, components, List.splitOn_eq_singleton noSlash, nonempty, notDot]

/-- A text without slashes, other than nothing and a single dot, is in normal form. -/
theorem normalize_of_no_slash
    {path : String}
    (noSlash : '/' ∉ path.toList)
    (nonempty : path.toList ≠ [])
    (notDot : path.toList ≠ ['.']) :
    normalize path = path := by
  have same :
      root path.toList ++ List.intercalate ['/'] (significant path.toList) = path.toList := by
    rw [root_of_no_slash noSlash, significant_of_no_slash noSlash nonempty notDot,
      List.intercalate_singleton, List.nil_append]
  unfold normalize
  dsimp only
  rw [same]
  split
  · next empty => exact absurd empty nonempty
  · exact String.ofList_toList

end Path

/-! ## Limits of a directory -/

/-- Whether a path may not even be looked at: it is too long, or the way there is closed. -/
def Entry.isRefused : Entry → Bool
  | nameTooLong | denied => true
  | missing | belowFile | directory | file _ => false

namespace Directory

theorem isRefused_walk
    {directory : Directory} {components : List (List Char)}
    (short :
      ∀ component ∈ components, (String.ofList component).utf8ByteSize ≤ componentLimit)
    (location : Location) :
    (directory.walk location components).isRefused = false := by
  induction components generalizing location with
  | nil => cases location <;> rfl
  | cons component rest inductionHypothesis =>
      obtain ⟨shortFirst, shortRest⟩ := List.forall_mem_cons.1 short
      have continues := inductionHypothesis shortRest
      have notOver := Nat.not_lt.2 shortFirst
      cases location with
      | outside =>
          rw [walk, if_neg notOver]
          split
          · exact continues .outside
          · rfl
      | inside way =>
          unfold walk
          rw [if_neg notOver]
          split
          · split
            · exact continues .outside
            · exact continues _
          · dsimp only
            split
            · split <;> rfl
            · split
              · exact continues _
              · rfl

/-- A text of no more bytes than a component may have is never refused. -/
theorem isRefused_entry_normalize
    (directory : Directory) {path : String}
    (nonempty : path ≠ "")
    (short : path.utf8ByteSize ≤ componentLimit) :
    (directory.entry (Path.normalize path)).isRefused = false := by
  have shorter := (Path.utf8ByteSize_normalize_le nonempty).trans short
  have withinLimit : ¬ pathLimit ≤ (Path.normalize path).utf8ByteSize := by
    rw [componentLimit] at shorter
    rw [pathLimit]
    omega
  unfold entry
  dsimp only
  rw [if_neg withinLimit]
  refine isRefused_walk (fun component member => ?_) _
  have part := String.utf8Len_le_of_sublist (Path.sublist_of_mem_significant member)
  rw [String.utf8Len_toList] at part
  rw [String.utf8ByteSize_ofList]
  exact part.trans shorter

section

variable {path : String}
  (noSlash : '/' ∉ path.toList)
  (long : componentLimit < path.utf8ByteSize)

include long

theorem toList_ne_of_long
    {other : List Char}
    (short : String.utf8Len other ≤ componentLimit) :
    path.toList ≠ other := by
  rintro rfl
  rw [String.utf8Len_toList] at short
  omega

include noSlash

theorem normalize_of_long : Path.normalize path = path :=
  Path.normalize_of_no_slash noSlash (toList_ne_of_long long (by decide))
    (toList_ne_of_long long (by decide))

/-- A text without slashes of more bytes is refused, whatever the directory holds. -/
theorem entry_normalize_eq_nameTooLong (directory : Directory) :
    directory.entry (Path.normalize path) = .nameTooLong := by
  have nonempty := toList_ne_of_long long (show String.utf8Len [] ≤ componentLimit by decide)
  have notDot := toList_ne_of_long long (show String.utf8Len ['.'] ≤ componentLimit by decide)
  have notUp := toList_ne_of_long long (show String.utf8Len ['.', '.'] ≤ componentLimit by decide)
  have relative : Path.isAbsolute path.toList = false := by
    refine beq_false_of_ne fun starts => ?_
    exact noSlash (List.mem_of_mem_head? starts)
  rw [normalize_of_long noSlash long]
  unfold entry
  dsimp only
  split
  · rfl
  · rw [relative, Path.significant_of_no_slash noSlash nonempty notDot]
    simp [walk, notUp, long]

end

end Directory

end Scriptlet
