import Shaderbox.Files.Path
import Mathlib.Data.List.Infix

/-!
# Where a joined path leads

A relative name that is placed under a directory is followed from there: its components come behind
those of the directory, and none of these is lost or changed. Only a leading `.` of the name may be
left out. So a name without `..` leads to something below the directory, whatever slashes it has.
-/

namespace Shaderbox

namespace Path

/-- Whether a name is relative and goes nowhere but down. -/
def IsConfined (name : Path) : Prop :=
  name.isAbsolute = false ∧
    ∀ component ∈ name.components, component = .current ∨ ∃ plain, component = .normal plain

/-- A path below a directory: its components are those of the directory, and others behind them that
lead nowhere but down. -/
structure LiesUnder (root path : Path) : Prop where
  named : ∃ name : Path, name.IsConfined ∧ path = root.join name
  below : ∃ added, path.components = root.components ++ added ∧
    Component.root ∉ added ∧ Component.parent ∉ added

/-- A name that stays inside is relative, since the root is a component as well. -/
theorem isConfined_iff {name : Path} : name.IsConfined ↔ name.staysInside = true := by
  have hinside : ∀ component : Component, component.staysInside = true ↔
      component = .current ∨ ∃ plain, component = .normal plain := by
    intro component
    cases component <;> simp [Component.staysInside]
  unfold IsConfined staysInside
  simp only [List.all_eq_true, hinside]
  refine ⟨fun h => h.2, fun h => ⟨?_, h⟩⟩
  by_contra habsolute
  rw [Bool.not_eq_false] at habsolute
  have hroot : Component.root ∈ name.components := by simp [components, beginning, habsolute]
  simpa using h _ hroot

/-- Every text has a segment. -/
theorem segments_ne_nil (text : List Char) : segments text ≠ [] :=
  List.splitOn_ne_nil '/' text

/-- A slash between two texts keeps their segments apart. -/
theorem segments_append_slash (front back : List Char) :
    segments (front ++ '/' :: back) = segments front ++ segments back :=
  List.splitOn_append_cons_self front back

/-- What stands behind a slash only adds components, whatever stands in front of it. -/
theorem components_append_slash (front back : List Char) :
    (Path.mk (String.ofList (front ++ '/' :: back))).components =
      (Path.mk (String.ofList (front ++ ['/']))).components ++
        (segments back).filterMap Component.ofSegment? := by
  have hempty : (segments []).filterMap Component.ofSegment? = [] := rfl
  have habsolute : (front ++ '/' :: back).head? = (front ++ ['/']).head? := by
    cases front <;> rfl
  have hfirst :
      (segments front ++ segments back).head? = (segments front ++ segments []).head? := by
    rw [List.head?_append_of_ne_nil _ (segments_ne_nil _),
      List.head?_append_of_ne_nil _ (segments_ne_nil _)]
  unfold components beginning isAbsolute
  simp only [String.toList_ofList, segments_append_slash, habsolute, hfirst, List.filterMap_append,
    hempty, List.append_nil, List.append_assoc]

/-- A trailing slash does not count, except for the root alone. -/
theorem components_trailing_slash {text : List Char} (htext : text ≠ []) :
    (Path.mk (String.ofList (text ++ ['/']))).components =
      (Path.mk (String.ofList text)).components := by
  have hempty : (segments []).filterMap Component.ofSegment? = [] := rfl
  have habsolute : (text ++ ['/']).head? = text.head? := List.head?_append_of_ne_nil _ htext
  have hfirst : (segments text ++ segments []).head? = (segments text).head? :=
    List.head?_append_of_ne_nil _ (segments_ne_nil _)
  unfold components beginning isAbsolute
  simp only [String.toList_ofList, segments_append_slash, habsolute, hfirst, List.filterMap_append,
    hempty, List.append_nil]

/-- Under the empty path a name stands for itself. -/
theorem join_of_text_eq_empty {root : Path} (hroot : root.text = "") (name : Path) :
    root.join name = name := by
  obtain ⟨root⟩ := root
  obtain rfl : root = "" := hroot
  unfold join
  split <;> rfl

/-- Under any other directory a relative name adds what its segments stand for. -/
theorem components_join_of_text_ne_empty {root name : Path} (hroot : root.text ≠ "")
    (hname : name.isAbsolute = false) :
    (root.join name).components =
      root.components ++ (segments name.text.toList).filterMap Component.ofSegment? := by
  obtain ⟨root⟩ := root
  obtain ⟨name⟩ := name
  obtain ⟨root, rfl⟩ : ∃ text, root = String.ofList text := ⟨_, String.ofList_toList.symm⟩
  obtain ⟨name, rfl⟩ : ∃ text, name = String.ofList text := ⟨_, String.ofList_toList.symm⟩
  unfold join
  rw [hname, if_neg Bool.false_ne_true, String.toList_ofList]
  rcases root.eq_nil_or_concat with rfl | ⟨front, last, rfl⟩
  · exact absurd rfl hroot
  · rw [List.concat_eq_append, List.getLast?_concat]
    dsimp only
    split
    · rename_i hslash
      subst hslash
      rw [← String.ofList_append, List.append_assoc, List.singleton_append, components_append_slash,
        String.toList_ofList]
    · have hslash : "/" = String.ofList ['/'] := rfl
      have hnonempty : front ++ [last] ≠ [] := by simp
      rw [← components_trailing_slash hnonempty, String.toList_ofList, ← components_append_slash,
        hslash, ← String.ofList_append, ← String.ofList_append, List.append_assoc _ ['/'],
        List.singleton_append]

/-- The components of a relative name under a directory are those of the directory and then those of
the name, but for a leading dot. -/
theorem components_join (root : Path) {name : Path} (hname : name.isAbsolute = false) :
    ∃ added, added <:+ name.components ∧
      (root.join name).components = root.components ++ added := by
  by_cases hroot : root.text = ""
  · have hnothing : root.components = [] := by
      obtain ⟨root⟩ := root
      obtain rfl : root = "" := hroot
      rfl
    refine ⟨_, List.suffix_refl _, ?_⟩
    rw [join_of_text_eq_empty hroot, hnothing, List.nil_append]
  · exact ⟨_, List.suffix_append _ _, components_join_of_text_ne_empty hroot hname⟩

/-- A confined name leads to a path below the directory. -/
theorem IsConfined.liesUnder {name : Path} (h : name.IsConfined) (root : Path) :
    LiesUnder root (root.join name) := by
  obtain ⟨added, hsuffix, hjoin⟩ := components_join root h.1
  have hadded : ∀ component ∈ added, component = .current ∨ ∃ plain, component = .normal plain :=
    fun component hmem => h.2 component (hsuffix.subset hmem)
  refine ⟨⟨name, h, rfl⟩, added, hjoin, fun hroot => ?_, fun hparent => ?_⟩
  · simpa using hadded _ hroot
  · simpa using hadded _ hparent

end Path

end Shaderbox
